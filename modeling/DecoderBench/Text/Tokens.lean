/-
What blanks and arrows cut a text into: `trim` drops the blanks at both ends, `tokens`
are the runs of other characters between them, `arrowPieces` what stands around the
arrows `->` between the arguments of a function type and its result.

Texts are lists of characters here, so that each cut is a plain list function.
-/
namespace DecoderBench.Text

/-- The characters with the Unicode property White_Space. -/
def isBlank (c : Char) : Bool :=
  let n := c.toNat
  (0x09 ≤ n && n ≤ 0x0D) || n == 0x20 || n == 0x85 || n == 0xA0 || n == 0x1680 ||
    (0x2000 ≤ n && n ≤ 0x200A) || n == 0x2028 || n == 0x2029 || n == 0x202F || n == 0x205F ||
    n == 0x3000

/-- `l` without the longest run at its end of elements that satisfy `p`. -/
def dropTrailing {α : Type} (p : α → Bool) : List α → List α
  | [] => []
  | a :: l =>
    match dropTrailing p l with
    | [] => if p a then [] else [a]
    | r => a :: r

/-- `t` without the blanks at its start. -/
def trimStart (t : List Char) : List Char := t.dropWhile isBlank

/-- `t` without the blanks at its end. -/
def trimEnd (t : List Char) : List Char := dropTrailing isBlank t

/-- `t` without the blanks at either end. -/
def trim (t : List Char) : List Char := trimEnd (trimStart t)

/-- `t` without any of its blanks. -/
def squeeze (t : List Char) : List Char := t.filter fun c => !isBlank c

/-- The longest runs of characters that are not blank, in order. -/
def tokens (t : List Char) : List (List Char) :=
  (t.splitOnP isBlank).filter fun w => !w.isEmpty

/-- The pieces of `t` around its arrows, one more than there are arrows. Arrows
are found from the left and do not overlap. -/
def arrowPieces : List Char → List (List Char)
  | [] => [[]]
  | '-' :: '>' :: r => [] :: arrowPieces r
  | c :: r => (arrowPieces r).modifyHead (c :: ·)

/-- Whether an arrow stands anywhere in `t`. -/
def hasArrow (t : List Char) : Bool := 1 < (arrowPieces t).length

end DecoderBench.Text
