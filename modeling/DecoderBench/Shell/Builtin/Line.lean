/-
Reading a line of the input into variables.
-/
import DecoderBench.Shell.Builtin

namespace DecoderBench.Shell.Builtin

/-- A line of the input up to its end, what follows, and whether it has an end. A
backslash keeps what follows from meaning anything, unless the line is `raw`. NULs do
not count. -/
def line (raw : Bool) : List UInt8 → List Glyph × List UInt8 × Bool
  | [] => ([], [], false)
  | 10 :: r => ([], r, true)
  | 0 :: r => line raw r
  | 92 :: b :: r =>
    if raw then
      let s := line raw (b :: r)
      (⟨'\\', false⟩ :: s.1, s.2)
    else
      let s := line raw r
      (if b == 10 then s.1 else ⟨Char.ofNat b.toNat, true⟩ :: s.1, s.2)
  | b :: r =>
    let s := line raw r
    (⟨Char.ofNat b.toNat, false⟩ :: s.1, s.2)

/-- Whether a glyph separates fields. -/
def separates (separators : List Char) (g : Glyph) : Bool :=
  !g.quoted && separators.contains g.char

/-- Whether a glyph is a blank that separates fields. -/
def isGap (separators : List Char) (g : Glyph) : Bool :=
  separates separators g && [' ', '\t', '\n'].contains g.char

/-- The last field: all that is left. A separator after it does not count if it is the only
one, and blanks at the end never do. -/
def lastField (separators : List Char) (gs : List Glyph) : List Glyph :=
  let field := gs.takeWhile fun g => !separates separators g
  let rest := (gs.drop field.length).dropWhile (isGap separators)
  let rest := if (rest.head?.map (separates separators)).getD false then rest.tail else rest
  if rest.all (isGap separators) then field else Text.dropTrailing (isGap separators) gs

/-- Glyphs divided among as many names as there are: a field for each, and all that is
left for the last. -/
def divide (separators : List Char) : Nat → List Glyph → List String
  | 0, _ => []
  | n + 1, gs =>
    let gs := gs.dropWhile (isGap separators)
    if n == 0 then [textOf (lastField separators gs)]
    else
      let field := gs.takeWhile fun g => !separates separators g
      let rest := (gs.drop field.length).dropWhile (isGap separators)
      let rest := if (rest.head?.map (separates separators)).getD false then rest.tail else rest
      textOf field :: divide separators n rest

/-- Reads a line of the input into variables. -/
def read : Tool := withOptions "r" "p" fun options names p =>
  if names.isEmpty then p.refuse "arg count"
  else
    let (gs, rest, whole) := line (options.given 'r') p.input
    let values := divide p.separators names.length gs
    let q := (names.zip values).foldl
      (fun q x => if q.flow == .running then q.assign x.1 x.2 else q) (p.leave 0 rest)
    if q.flow == .running then q.ends (if whole then 0 else 1) else q

end DecoderBench.Shell.Builtin
