/-
Documents that assign texts to plain keys: the part of TOML that settings are
written in.

A line holds an assignment or nothing, and then perhaps a comment. Tables,
dotted keys and values other than strings are refused, since no setting has any
of these.
-/
import DecoderBench.Toml.Strings

namespace DecoderBench.Toml

/-- A key and the text that it is given. -/
abbrev Assignment := String × String

/-- A character of a key without quotes. -/
def isBare (c : Char) : Bool := c.isAlphanum || c == '_' || c == '-'

/-- A key, with or without quotes, and what follows it. -/
def scanKey (cs : List Char) : Option (List Char × List Char) :=
  match cs.takeWhile isBare with
  | [] =>
    match cs with
    | '"' :: r => scanBasic r
    | '\x27' :: r => scanLiteral r
    | _ => none
  | key => some (key, cs.dropWhile isBare)

/-- An assignment, and what follows it. -/
def scanAssignment (cs : List Char) : Option (Assignment × List Char) :=
  match scanKey cs with
  | none => none
  | some (key, r) =>
    match r.dropWhile isBlank with
    | '=' :: r =>
      (scanText (r.dropWhile isBlank)).map fun s => ((String.ofList key, String.ofList s.1), s.2)
    | _ => none

/-- What follows the end of a line, which the end of the text is too. -/
def nextLine? : List Char → Option (List Char)
  | [] => some []
  | '\n' :: r => some r
  | '\r' :: '\n' :: r => some r
  | _ => none

/-- What follows the rest of a line that may hold nothing but a comment. -/
def finishLine? (cs : List Char) : Option (List Char) :=
  match cs.dropWhile isBlank with
  | '#' :: r => nextLine? (r.dropWhile fun c => !isControl c)
  | r => nextLine? r

/-- A line, which may hold an assignment, and what follows it. -/
def scanLine (cs : List Char) : Option (Option Assignment × List Char) :=
  match finishLine? cs with
  | some rest => some (none, rest)
  | none =>
    match scanAssignment (cs.dropWhile isBlank) with
    | none => none
    | some (a, r) => (finishLine? r).map fun rest => (some a, rest)

/-! ### A line takes something -/

theorem prepend_length {c : Char} {x : Option (List Char × List Char)} {n : Nat}
    {s : List Char × List Char} (hx : ∀ t, x = some t → t.2.length ≤ n)
    (h : prepend c x = some s) : s.2.length ≤ n := by
  obtain ⟨t, ht, rfl⟩ := Option.map_eq_some_iff.1 h
  exact hx t ht

theorem prepend?_length {c : Option Char} {x : Option (List Char × List Char)} {n : Nat}
    {s : List Char × List Char} (hx : ∀ t, x = some t → t.2.length ≤ n)
    (h : prepend? c x = some s) : s.2.length ≤ n := by
  cases c with
  | none => cases h
  | some c => exact prepend_length hx h

theorem length_dropWhile_le (p : Char → Bool) (cs : List Char) :
    (cs.dropWhile p).length ≤ cs.length :=
  (List.dropWhile_suffix p).length_le

theorem scanBasic_length {cs : List Char} {s : List Char × List Char} (h : scanBasic cs = some s) :
    s.2.length ≤ cs.length := by
  fun_induction scanBasic cs generalizing s with
  | case1 => cases h
  | case2 r => cases h; exact Nat.le_succ _
  | case7 => cases h
  | case8 c r _ _ _ _ _ _ ih =>
    have := prepend_length (fun t => ih (s := t)) h
    simp only [List.length_cons]
    omega
  | _ =>
    rename_i ih
    have := prepend?_length (fun t => ih (s := t)) h
    simp only [List.length_cons]
    omega

theorem scanLiteral_length {cs : List Char} {s : List Char × List Char}
    (h : scanLiteral cs = some s) : s.2.length ≤ cs.length := by
  fun_induction scanLiteral cs generalizing s with
  | case1 => cases h
  | case2 r => cases h; exact Nat.le_succ _
  | case3 => cases h
  | case4 c r _ _ ih =>
    have := prepend_length (fun t => ih (s := t)) h
    simp only [List.length_cons]
    omega

theorem closeQuotes_length (quote : Char) (cs : List Char) :
    (closeQuotes quote cs).2.length ≤ cs.length := by
  unfold closeQuotes
  repeat' split
  all_goals simp only [List.length_cons, List.length_nil]; omega

theorem scanBasicLines_length {skipping : Bool} {cs : List Char} {s : List Char × List Char}
    (h : scanBasicLines skipping cs = some s) : s.2.length ≤ cs.length := by
  fun_induction scanBasicLines skipping cs generalizing s with
  | case1 => cases h
  | case2 _ r =>
    cases h
    have := closeQuotes_length '"' r
    simp only [List.length_cons]
    omega
  | case11 => cases h
  | case6 | case8 | case10 =>
    rename_i ih
    have := ih h
    simp only [List.length_cons] at this ⊢
    omega
  | case9 _ r _ ih =>
    have := prepend_length (fun t => prepend_length fun u => ih (s := u)) h
    simp only [List.length_cons]
    omega
  | case12 =>
    rename_i ih
    have := prepend_length (fun t => ih (s := t)) h
    simp only [List.length_cons]
    omega
  | case3 | case4 | case5 | case7 =>
    rename_i ih
    have := prepend?_length (fun t => ih (s := t)) h
    simp only [List.length_cons]
    omega

theorem scanLiteralLines_length {cs : List Char} {s : List Char × List Char}
    (h : scanLiteralLines cs = some s) : s.2.length ≤ cs.length := by
  fun_induction scanLiteralLines cs generalizing s with
  | case1 => cases h
  | case2 r =>
    cases h
    have := closeQuotes_length '\x27' r
    simp only [List.length_cons]
    omega
  | case3 r ih =>
    have := prepend_length (fun t => prepend_length fun u => ih (s := u)) h
    simp only [List.length_cons]
    omega
  | case4 => cases h
  | case5 c r _ _ _ ih =>
    have := prepend_length (fun t => ih (s := t)) h
    simp only [List.length_cons]
    omega

theorem dropLineBreak_length (cs : List Char) : (dropLineBreak cs).length ≤ cs.length := by
  unfold dropLineBreak
  split <;> simp +arith

theorem scanText_length {cs : List Char} {s : List Char × List Char} (h : scanText cs = some s) :
    s.2.length ≤ cs.length := by
  unfold scanText at h
  split at h
  · rename_i r
    have := scanBasicLines_length h
    have := dropLineBreak_length r
    simp only [List.length_cons]
    omega
  · have := scanBasic_length h
    simp only [List.length_cons]
    omega
  · rename_i r
    have := scanLiteralLines_length h
    have := dropLineBreak_length r
    simp only [List.length_cons]
    omega
  · have := scanLiteral_length h
    simp only [List.length_cons]
    omega
  · cases h

theorem scanKey_length {cs : List Char} {s : List Char × List Char} (h : scanKey cs = some s) :
    s.2.length ≤ cs.length := by
  unfold scanKey at h
  split at h
  · split at h
    · have := scanBasic_length h
      simp only [List.length_cons]
      omega
    · have := scanLiteral_length h
      simp only [List.length_cons]
      omega
    · cases h
  · cases h
    exact length_dropWhile_le ..

theorem scanAssignment_length {cs : List Char} {s : Assignment × List Char}
    (h : scanAssignment cs = some s) : s.2.length < cs.length := by
  unfold scanAssignment at h
  split at h
  · cases h
  · rename_i key r hk
    have hkey := scanKey_length hk
    split at h
    · rename_i r' hr
      obtain ⟨t, ht, rfl⟩ := Option.map_eq_some_iff.1 h
      have htext := scanText_length ht
      have hdrop := length_dropWhile_le isBlank r
      have hdrop' := length_dropWhile_le isBlank r'
      rw [hr, List.length_cons] at hdrop
      simp only at hkey ⊢
      omega
    · cases h

theorem nextLine?_length {cs rest : List Char} (h : nextLine? cs = some rest) :
    rest.length ≤ cs.length - 1 := by
  unfold nextLine? at h
  split at h <;> cases h <;> simp

theorem finishLine?_length {cs rest : List Char} (h : finishLine? cs = some rest) :
    rest.length ≤ cs.length - 1 := by
  unfold finishLine? at h
  have hdrop := length_dropWhile_le isBlank cs
  split at h
  · rename_i r hr
    rw [hr, List.length_cons] at hdrop
    have := nextLine?_length h
    have := length_dropWhile_le (fun c => !isControl c) r
    omega
  · have := nextLine?_length h
    omega

theorem scanLine_length {c : Char} {cs : List Char} {s : Option Assignment × List Char}
    (h : scanLine (c :: cs) = some s) : s.2.length < (c :: cs).length := by
  unfold scanLine at h
  split at h
  · rename_i rest hf
    cases h
    have := finishLine?_length hf
    simp only [List.length_cons] at this ⊢
    omega
  · split at h
    · cases h
    · rename_i a r ha
      obtain ⟨rest, hf, rfl⟩ := Option.map_eq_some_iff.1 h
      have := scanAssignment_length ha
      have := finishLine?_length hf
      have := length_dropWhile_le isBlank (c :: cs)
      simp only at *
      omega

/-- The assignments of all lines. -/
def scanLines : List Char → Option (List Assignment)
  | [] => some []
  | c :: cs =>
    match _h : scanLine (c :: cs) with
    | none => none
    | some s => (scanLines s.2).map (s.1.toList ++ ·)
termination_by cs => cs.length
decreasing_by exact scanLine_length _h

/-- A text without the byte order mark that it may start with. -/
def dropMark : List Char → List Char
  | '\uFEFF' :: r => r
  | r => r

/-- The assignments of a document, in order. -/
def parse (text : String) : Option (List Assignment) := scanLines (dropMark text.toList)

/-! ## Writing -/

/-- A character in a basic string. Quotes, backslashes and control characters are
escaped. -/
def escape (c : Char) : List Char :=
  match c with
  | '"' => ['\\', '"']
  | '\\' => ['\\', '\\']
  | c =>
    if c.toNat < 0x20 || c.toNat == 0x7F then
      ['\\', 'u', '0', '0', Nat.digitChar (c.toNat / 16), Nat.digitChar (c.toNat % 16)]
    else [c]

/-- A basic string that denotes `s`. -/
def basic (s : String) : List Char := '"' :: (s.toList.flatMap escape ++ ['"'])

/-- The line that assigns a text to a key that needs no quotes. -/
def line (a : Assignment) : List Char := a.1.toList ++ [' ', '=', ' '] ++ basic a.2 ++ ['\n']

/-- A document of one assignment a line. -/
def write (as : List Assignment) : String := String.ofList (as.flatMap line)

end DecoderBench.Toml
