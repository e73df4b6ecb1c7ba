/-
The tokens of JSON text.

Between tokens stand blanks, tabs and line breaks. A string, a number and a word
each make one token. A `\u` escape gives a code of 16 bits; two codes that form
a surrogate pair give one character, and a surrogate alone makes the string
denote no text.
-/
import DecoderBench.Json
import DecoderBench.Text.Hexadecimal

namespace DecoderBench.Json

/-- A token. The value of a `scalar` is neither a list nor an object. -/
inductive Token
  | openArray
  | closeArray
  | openObject
  | closeObject
  | comma
  | colon
  | scalar (v : Json)

/-! ## Strings -/

/-- A part of a string as it is written: a character, or the code of a `\u` escape. -/
inductive Part
  | char (c : Char)
  | code (n : Nat)

/-- Whether `n` is the first half of a surrogate pair. -/
def isHighHalf (n : Nat) : Bool := 0xD800 ≤ n && n < 0xDC00

/-- Whether `n` is the second half of a surrogate pair. -/
def isLowHalf (n : Nat) : Bool := 0xDC00 ≤ n && n < 0xE000

/-- The character of a surrogate pair. -/
def joinHalves (high low : Nat) : Char :=
  Char.ofNat (0x10000 + (high - 0xD800) * 0x400 + (low - 0xDC00))

/-- The text that the parts denote, if no half of a pair stands alone. -/
def textOf : List Part → Option (List Char)
  | [] => some []
  | .char c :: r => (textOf r).map (c :: ·)
  | .code n :: r =>
    if isHighHalf n then
      match r with
      | .code m :: r => if isLowHalf m then (textOf r).map (joinHalves n m :: ·) else none
      | _ => none
    else if isLowHalf n then none
    else (textOf r).map (Char.ofNat n :: ·)

/-- The character that a backslash and `c` denote. -/
def unescape? : Char → Option Char
  | '"' => some '"'
  | '\\' => some '\\'
  | '/' => some '/'
  | 'b' => some '\x08'
  | 'f' => some '\x0c'
  | 'n' => some '\n'
  | 'r' => some '\r'
  | 't' => some '\t'
  | _ => none

/-- The parts of a string after its opening quote, and what follows its closing
quote. Control characters must be escaped. -/
def scanString : List Char → Option (List Part × List Char)
  | [] => none
  | '"' :: r => some ([], r)
  | '\\' :: 'u' :: a :: b :: c :: d :: r =>
    match Text.hexNumber? [a, b, c, d], scanString r with
    | some n, some (ps, rest) => some (.code n :: ps, rest)
    | _, _ => none
  | '\\' :: e :: r =>
    match unescape? e, scanString r with
    | some c, some (ps, rest) => some (.char c :: ps, rest)
    | _, _ => none
  | c :: r =>
    if c.toNat < 0x20 then none else
      match scanString r with
      | some (ps, rest) => some (.char c :: ps, rest)
      | none => none

/-! ## Numbers -/

/-- The whole part of a number: no digit comes before it when it starts with zero. -/
def scanWhole : List Char → Option (List Char × List Char)
  | [] => none
  | c :: r =>
    if c == '0' then some (['0'], r)
    else if c.isDigit then some (c :: r.takeWhile Char.isDigit, r.dropWhile Char.isDigit)
    else none

/-- At least one digit, and what follows the digits. -/
def scanDigits (cs : List Char) : Option (List Char × List Char) :=
  match cs.takeWhile Char.isDigit with
  | [] => none
  | ds => some (ds, cs.dropWhile Char.isDigit)

/-- A fraction, if a point comes next. -/
def scanFraction : List Char → Option (List Char × List Char)
  | '.' :: r => (scanDigits r).map fun s => ('.' :: s.1, s.2)
  | r => some ([], r)

/-- The sign of an exponent, if one comes next. -/
def scanSign : List Char → List Char × List Char
  | [] => ([], [])
  | c :: r => if c == '+' || c == '-' then ([c], r) else ([], c :: r)

/-- An exponent, if its letter comes next. -/
def scanExponent : List Char → Option (List Char × List Char)
  | [] => some ([], [])
  | c :: r =>
    if c == 'e' || c == 'E' then
      (scanDigits (scanSign r).2).map fun s => (c :: ((scanSign r).1 ++ s.1), s.2)
    else some ([], c :: r)

/-- A number without its sign. -/
def scanUnsigned (cs : List Char) : Option (List Char × List Char) :=
  match scanWhole cs with
  | none => none
  | some (whole, cs) =>
    match scanFraction cs with
    | none => none
    | some (fraction, cs) =>
      match scanExponent cs with
      | none => none
      | some (exponent, cs) => some (whole ++ fraction ++ exponent, cs)

/-- A number as it is written, and what follows it. -/
def scanNumber : List Char → Option (List Char × List Char)
  | '-' :: r => (scanUnsigned r).map fun s => ('-' :: s.1, s.2)
  | r => scanUnsigned r

/-! ## All tokens -/

/-- Whether `c` may stand between tokens. -/
def isSpace (c : Char) : Bool := c == ' ' || c == '\t' || c == '\n' || c == '\r'

/-- The token at the start of a text, and what follows it. -/
def scanToken : List Char → Option (Token × List Char)
  | '[' :: r => some (.openArray, r)
  | ']' :: r => some (.closeArray, r)
  | '\x7b' :: r => some (.openObject, r)
  | '\x7d' :: r => some (.closeObject, r)
  | ',' :: r => some (.comma, r)
  | ':' :: r => some (.colon, r)
  | 'n' :: 'u' :: 'l' :: 'l' :: r => some (.scalar .null, r)
  | 't' :: 'r' :: 'u' :: 'e' :: r => some (.scalar (.bool true), r)
  | 'f' :: 'a' :: 'l' :: 's' :: 'e' :: r => some (.scalar (.bool false), r)
  | '"' :: r =>
    (scanString r).map fun s => (.scalar (.string ((textOf s.1).map String.ofList)), s.2)
  | r => (scanNumber r).map fun s => (.scalar (.number s.1), s.2)

/-! ### Reading takes something

Each scanner returns what it took and the rest, in order. -/

theorem scanString_length {cs : List Char} {s : List Part × List Char}
    (h : scanString cs = some s) :
    s.2.length < cs.length := by
  fun_induction scanString cs generalizing s with
  | case1 => simp at h
  | case2 r => cases h; simp
  | case3 a b c d r n ps rest hs hn ih =>
    cases h
    have := ih hs
    simp only [List.length_cons] at this ⊢
    omega
  | case4 => simp at h
  | case5 e r _ c ps rest hs hc ih =>
    cases h
    have := ih hs
    simp only [List.length_cons] at this ⊢
    omega
  | case6 => simp at h
  | case7 => simp at h
  | case8 c r _ _ _ hc ps rest hs ih =>
    cases h
    have := ih hs
    simp only [List.length_cons] at this ⊢
    omega
  | case9 => simp at h

theorem scanDigits_append {cs : List Char} {s : List Char × List Char}
    (h : scanDigits cs = some s) :
    s.1 ++ s.2 = cs := by
  unfold scanDigits at h
  split at h
  · cases h
  · cases h
    exact List.takeWhile_append_dropWhile

theorem scanWhole_append {cs : List Char} {s : List Char × List Char} (h : scanWhole cs = some s) :
    s.1 ++ s.2 = cs ∧ s.1 ≠ [] := by
  unfold scanWhole at h
  split at h
  · cases h
  · split at h
    · next hc =>
      cases h
      simp only [beq_iff_eq] at hc
      simp [hc]
    · split at h
      · cases h; simp [List.takeWhile_append_dropWhile]
      · cases h

theorem scanFraction_append {cs : List Char} {s : List Char × List Char}
    (h : scanFraction cs = some s) : s.1 ++ s.2 = cs := by
  unfold scanFraction at h
  split at h
  · obtain ⟨d, hd, rfl⟩ := Option.map_eq_some_iff.1 h
    simp [scanDigits_append hd]
  · cases h; rfl

theorem scanSign_append (cs : List Char) : (scanSign cs).1 ++ (scanSign cs).2 = cs := by
  unfold scanSign
  split
  · rfl
  · split <;> rfl

theorem scanExponent_append {cs : List Char} {s : List Char × List Char}
    (h : scanExponent cs = some s) : s.1 ++ s.2 = cs := by
  unfold scanExponent at h
  split at h
  · cases h; rfl
  · split at h
    · obtain ⟨d, hd, rfl⟩ := Option.map_eq_some_iff.1 h
      simp [scanDigits_append hd, scanSign_append]
    · cases h; rfl

theorem scanUnsigned_append {cs : List Char} {s : List Char × List Char}
    (h : scanUnsigned cs = some s) : s.1 ++ s.2 = cs ∧ s.1 ≠ [] := by
  unfold scanUnsigned at h
  split at h
  · cases h
  · next hw =>
    split at h
    · cases h
    · next hf =>
      split at h
      · cases h
      · next he =>
        cases h
        have w := scanWhole_append hw
        have f := scanFraction_append hf
        have e := scanExponent_append he
        simp only at w f e ⊢
        refine ⟨by rw [List.append_assoc, List.append_assoc, e, f, w.1], ?_⟩
        simp [w.2]

theorem scanNumber_append {cs : List Char} {s : List Char × List Char}
    (h : scanNumber cs = some s) : s.1 ++ s.2 = cs ∧ s.1 ≠ [] := by
  unfold scanNumber at h
  split at h
  · obtain ⟨d, hd, rfl⟩ := Option.map_eq_some_iff.1 h
    simp [(scanUnsigned_append hd).1]
  · exact scanUnsigned_append h

/-- A token takes at least one character. -/
theorem scanToken_length {cs : List Char} {s : Token × List Char} (h : scanToken cs = some s) :
    s.2.length < cs.length := by
  unfold scanToken at h
  split at h
  case h_10 r =>
    obtain ⟨d, hd, rfl⟩ := Option.map_eq_some_iff.1 h
    have := scanString_length hd
    simp only [List.length_cons]
    omega
  case h_11 r _ _ _ _ _ _ _ _ _ _ =>
    obtain ⟨d, hd, rfl⟩ := Option.map_eq_some_iff.1 h
    have ⟨e, ne⟩ := scanNumber_append hd
    have := List.length_pos_iff.2 ne
    rw [← e, List.length_append]
    simp only
    omega
  all_goals
    cases h
    simp only [List.length_cons]
    omega

/-- The tokens of a text, if it has no fault in any of them. -/
def lex : List Char → Option (List Token)
  | [] => some []
  | c :: r =>
    if isSpace c then lex r
    else
      match _h : scanToken (c :: r) with
      | none => none
      | some s => (lex s.2).map (s.1 :: ·)
termination_by cs => cs.length
decreasing_by
  · exact Nat.lt_succ_self _
  · exact scanToken_length _h

end DecoderBench.Json
