/-
Elm code cut into pieces. A text is gone through character by character, along with the
brackets that are open (`Place.step`), and it is cut at the marks that stand outside of
brackets, literals and comments (`cut`). Inside of brackets nothing is cut, so a text that
closes what it opens can stand there whatever it holds (`through_balanced`). The literal
of a text can stand anywhere (`through_literal`).
-/
import DecoderBench.Elm.Literal
import DecoderBench.Proofs.Identifier

namespace DecoderBench.Elm

/-! ## Places in a text -/

/-- What ends a literal. -/
inductive Closing
  | single
  | double
  /-- Three double quotes, of which some may be behind already. A literal that ends so may
  have several lines. -/
  | triple (behind : Nat)
  deriving DecidableEq

/-- What the next character of a text is read as. -/
inductive Within
  | code
  /-- Code, but a dash would start a comment up to the end of the line. -/
  | dashed
  /-- Code behind an opening brace, unless a dash makes that the start of a comment. -/
  | braced
  /-- Code behind an empty literal, unless a quote makes that the start of one that ends with
  three. -/
  | quoted
  /-- A literal behind its first double quote. -/
  | opened
  | literal (closing : Closing)
  /-- A literal behind a backslash. -/
  | escaped (closing : Closing)
  /-- A comment up to the end of the line. -/
  | line
  /-- A comment between braces, with the number of comments around it and the character
  before, unless that has opened or closed one. -/
  | comment (outer : Nat) (before : Option Char)
  deriving DecidableEq

/-- Whether what was there before is complete and code comes next. -/
def Within.isCode : Within → Bool
  | .code | .dashed | .quoted => true
  | _ => false

/-- A place in a text: what the next character is read as, and the brackets that are to be
closed, the innermost first. -/
structure Place where
  within : Within := .code
  closers : List Char := []
  deriving DecidableEq

/-- What a character does in code. -/
inductive Role
  | opens (closer : Char)
  | brace
  | closes
  | quote
  | single
  | dash
  | plain
  deriving DecidableEq

/-- What a character does in code. -/
def roleOf : Char → Role
  | '(' => .opens ')'
  | '[' => .opens ']'
  | '\x7b' => .brace
  | ')' | ']' | '\x7d' => .closes
  | '"' => .quote
  | '\x27' => .single
  | '-' => .dash
  | _ => .plain

/-- What follows a character of a literal. One that ends with a single mark ends on the line
that it starts on. -/
def afterLiteral : Char → Closing → Option Within
  | '"', .double => some .code
  | '"', .triple 2 => some .code
  | '"', .triple n => some (.literal (.triple (n + 1)))
  | '\x27', .single => some .code
  | '\\', .triple _ => some (.escaped (.triple 0))
  | '\\', closing => some (.escaped closing)
  | _, .triple _ => some (.literal (.triple 0))
  | '\n', _ => none
  | '\r', _ => none
  | _, closing => some (.literal closing)

/-- What follows a character behind a backslash. -/
def afterEscaped : Char → Closing → Option Within
  | _, .triple n => some (.literal (.triple n))
  | '\n', _ => none
  | '\r', _ => none
  | _, closing => some (.literal closing)

/-- What follows a character of a comment between braces. -/
def afterComment : Char → (before : Option Char) → (outer : Nat) → Within
  | '-', some '\x7b', outer => .comment (outer + 1) none
  | '\x7d', some '-', 0 => .code
  | '\x7d', some '-', outer + 1 => .comment outer none
  | c, _, outer => .comment outer (some c)

/-- What follows a character that is no code. -/
def Within.after : Within → Char → Option Within
  | .opened, '"' => some .quoted
  | .opened, c => afterLiteral c .double
  | .literal closing, c => afterLiteral c closing
  | .escaped closing, c => afterEscaped c closing
  | .line, '\n' => some .code
  | .line, _ => some .line
  | .comment outer before, c => some (afterComment c before outer)
  | _, _ => none

namespace Place

/-- The place after a character of code. There is none after a bracket that closes no other
one. -/
def afterCode (closers : List Char) (c : Char) : Option Place :=
  match roleOf c with
  | .opens d => some ⟨.code, d :: closers⟩
  | .brace => some ⟨.braced, closers⟩
  | .closes => if closers.head? == some c then some ⟨.code, closers.tail⟩ else none
  | .quote => some ⟨.opened, closers⟩
  | .single => some ⟨.literal .single, closers⟩
  | .dash => some ⟨.dashed, closers⟩
  | .plain => some ⟨.code, closers⟩

/-- The place after one more character. -/
def step (p : Place) (c : Char) : Option Place :=
  match p.within with
  | .code => afterCode p.closers c
  | .dashed => if c == '-' then some ⟨.line, p.closers⟩ else afterCode p.closers c
  | .braced => if c == '-' then some ⟨.comment 0 none, p.closers⟩ else afterCode ('\x7d' :: p.closers) c
  | .quoted => if c == '"' then some ⟨.literal (.triple 0), p.closers⟩ else afterCode p.closers c
  | within => (within.after c).map fun within => ⟨within, p.closers⟩

/-- Whether the place is outside of brackets, literals and comments. -/
def isTop (p : Place) : Bool := p.within.isCode && p.closers.isEmpty

/-- The place with more brackets around it. -/
def inside (p : Place) (outer : List Char) : Place := { p with closers := p.closers ++ outer }

end Place

/-- The place after a text, if no mark stands outside of brackets, literals and comments. -/
def through (isMark : Char → Bool) : Place → List Char → Option Place
  | p, [] => some p
  | p, c :: r => if p.isTop && isMark c then none else (p.step c).bind fun q => through isMark q r

/-- The pieces of a text around the marks that stand outside of brackets, literals and
comments. -/
def cut (isMark : Char → Bool) : Place → List Char → Option (List (List Char))
  | _, [] => some [[]]
  | p, c :: r =>
    if p.isTop && isMark c then (cut isMark {} r).map ([] :: ·)
    else (p.step c).bind fun q => (cut isMark q r).map (List.modifyHead (c :: ·))

/-- Whether a text has no marks outside of brackets, literals and comments, and is closed:
with a blank behind it, one is where one was before it. -/
def isClosed (isMark : Char → Bool) (t : String) : Bool := through isMark {} (t.toList ++ [' ']) == some {}

/-- Whether a text closes the brackets, the literals and the comments that it opens, and no
others. -/
def isBalanced (t : String) : Bool := isClosed (fun _ => false) t

variable {isMark : Char → Bool} {p q : Place} {s t r : List Char} {c : Char}

/-! ## Going through -/

theorem through_append (p : Place) (s t : List Char) :
    through isMark p (s ++ t) = (through isMark p s).bind (through isMark · t) := by
  induction s generalizing p with
  | nil => rfl
  | cons c s ih =>
    rw [List.cons_append, through, through]
    split
    · rfl
    · cases p.step c with
      | none => rfl
      | some q => exact ih q

theorem through_cons (h : p.closers = [] → isMark c = false) (r : List Char) :
    through isMark p (c :: r) = (p.step c).bind fun q => through isMark q r := by
  refine if_neg ?_
  rw [Place.isTop, Bool.and_eq_true, Bool.and_eq_true, List.isEmpty_iff]
  rintro ⟨⟨-, hnil⟩, hc⟩
  rw [h hnil] at hc
  cases hc

theorem through_of_append (h : through isMark p s = some q) (t : List Char) :
    through isMark p (s ++ t) = through isMark q t := by
  rw [through_append, h, Option.bind_some]

theorem cut_append (h : through isMark p s = some q) (t : List Char) :
    cut isMark p (s ++ t) = (cut isMark q t).map (List.modifyHead (s ++ ·)) := by
  induction s generalizing p with
  | nil =>
    cases h
    change _ = (cut isMark q t).map (List.modifyHead id)
    rw [List.modifyHead_id, Option.map_id]
    rfl
  | cons c s ih =>
    rw [through] at h
    split at h
    · cases h
    rename_i hmark
    obtain ⟨p', hstep, hrest⟩ := Option.bind_eq_some_iff.1 h
    rw [List.cons_append, cut, if_neg hmark, hstep, Option.bind_some, ih hrest, Option.map_map]
    refine congrArg (Option.map · _) (funext fun pieces => ?_)
    cases pieces <;> rfl

theorem cut_through (h : through isMark p s = some q) : cut isMark p s = some [s] := by
  have hcut := cut_append h []
  rwa [List.append_nil, cut, Option.map_some, List.modifyHead_cons, List.append_nil] at hcut

/-- A mark ends a piece. -/
theorem cut_append_mark (h : through isMark p s = some q) (htop : q.isTop = true) (hc : isMark c = true)
    (t : List Char) : cut isMark p (s ++ c :: t) = (cut isMark {} t).map (s :: ·) := by
  rw [cut_append h, cut, if_pos (by simp [htop, hc]), Option.map_map]
  refine congrArg (Option.map · _) (funext fun pieces => ?_)
  simp

/-! ## Inside of brackets -/

theorem Place.afterCode_inside {closers : List Char} (h : afterCode closers c = some q) (outer : List Char) :
    afterCode (closers ++ outer) c = some (q.inside outer) := by
  unfold afterCode at h ⊢
  cases hrole : roleOf c with
  | opens | brace | quote | single | dash | plain =>
    rw [hrole] at h
    cases h
    rfl
  | closes =>
    rw [hrole] at h
    simp only at h ⊢
    split at h
    · rename_i hhead
      cases h
      obtain ⟨l, rfl⟩ := List.head?_eq_some_iff.1 (beq_iff_eq.1 hhead)
      simp [inside]
    · cases h

theorem Place.step_inside (h : p.step c = some q) (outer : List Char) :
    (p.inside outer).step c = some (q.inside outer) := by
  obtain ⟨within, closers⟩ := p
  unfold step at h ⊢
  cases within with
  | code => exact afterCode_inside h outer
  | dashed | braced | quoted =>
    simp only [inside] at h ⊢
    split at h
    · cases h
      rw [if_pos ‹_›]
    · rw [if_neg ‹_›]
      exact afterCode_inside h outer
  | opened | literal | escaped | line | comment =>
    obtain ⟨within, hwithin, rfl⟩ := Option.map_eq_some_iff.1 h
    exact Option.map_eq_some_iff.2 ⟨within, hwithin, rfl⟩

theorem Place.isTop_inside {outer : List Char} (h : outer ≠ []) (p : Place) : (p.inside outer).isTop = false := by
  simp [isTop, inside, h]

/-- Where a text can stand it can also stand in brackets, and there nothing in it is a
mark. -/
theorem through_inside {outer : List Char} (hne : outer ≠ []) {isMark' : Char → Bool}
    (h : through isMark p t = some q) : through isMark' (p.inside outer) t = some (q.inside outer) := by
  induction t generalizing p with
  | nil =>
    cases h
    rfl
  | cons c t ih =>
    rw [through] at h
    split at h
    · cases h
    obtain ⟨p', hstep, hrest⟩ := Option.bind_eq_some_iff.1 h
    rw [through, Place.isTop_inside hne, Bool.false_and, if_neg Bool.false_ne_true, Place.step_inside hstep,
      Option.bind_some]
    exact ih hrest

/-! ## Characters that change nothing -/

theorem Place.afterCode_of_plain (h : roleOf c = .plain) (closers : List Char) :
    afterCode closers c = some ⟨.code, closers⟩ := by
  rw [afterCode, h]

/-- Behind a plain character one is in code, if one was in code before it. -/
theorem Place.step_of_plain (hc : roleOf c = .plain) (hp : p.within.isCode = true) :
    p.step c = some ⟨.code, p.closers⟩ := by
  have hne : ∀ d, roleOf d ≠ .plain → (c == d) = false := by
    rintro d hd
    rw [beq_eq_false_iff_ne]
    rintro rfl
    exact hd hc
  obtain ⟨within, closers⟩ := p
  cases within with
  | braced | opened | literal | escaped | line | comment => cases hp
  | code => exact afterCode_of_plain hc closers
  | dashed =>
    rw [step, hne '-' (by decide)]
    exact afterCode_of_plain hc closers
  | quoted =>
    rw [step, hne '"' (by decide)]
    exact afterCode_of_plain hc closers

theorem through_of_plain {closers : List Char} (h : ∀ c ∈ t, roleOf c = .plain)
    (hmark : closers = [] → ∀ c ∈ t, isMark c = false) :
    through isMark ⟨.code, closers⟩ t = some ⟨.code, closers⟩ := by
  induction t with
  | nil => rfl
  | cons c t ih =>
    rw [through_cons fun hnil => hmark hnil c (by simp), Place.step_of_plain (h c (by simp)) rfl]
    exact ih (fun d hd => h d (by simp [hd])) fun hnil d hd => hmark hnil d (by simp [hd])

theorem roleOf_of_isWord (h : Identifier.isWord c = true) : roleOf c = .plain := by
  unfold roleOf
  split <;> first | rfl | exact absurd h (by decide)

/-! ## Literals -/

theorem through_escape (closers : List Char) (c : Char) (r : List Char) :
    through isMark ⟨.literal .double, closers⟩ (escape c ++ r) = through isMark ⟨.literal .double, closers⟩ r := by
  unfold escape
  split
  case h_6 hquote hbackslash hnewline hreturn _ =>
    have hstays : afterLiteral c .double = some (.literal .double) := by
      unfold afterLiteral
      split <;> simp_all
    have hstep : Place.step ⟨.literal .double, closers⟩ c = some ⟨.literal .double, closers⟩ :=
      Option.map_eq_some_iff.2 ⟨_, hstays, rfl⟩
    rw [List.singleton_append, through, hstep]
    rfl
  all_goals rfl

/-- Behind its first quote a literal goes on as it does later, unless it is empty. -/
theorem through_opened (closers : List Char) (hc : c ≠ '"') (r : List Char) :
    through isMark ⟨.opened, closers⟩ (c :: r) = through isMark ⟨.literal .double, closers⟩ (c :: r) := by
  have hafter : Within.opened.after c = (Within.literal .double).after c := by
    unfold Within.after
    split <;> simp_all
  have hstep : Place.step ⟨.opened, closers⟩ c = Place.step ⟨.literal .double, closers⟩ c :=
    congrArg (Option.map fun within => Place.mk within closers) hafter
  rw [through, through, hstep]
  rfl

theorem exists_cons_of_escape (c : Char) : ∃ d r, escape c = d :: r ∧ d ≠ '"' := by
  unfold escape
  split
  case h_6 hquote _ _ _ _ => exact ⟨c, [], rfl, hquote⟩
  all_goals exact ⟨'\\', _, rfl, by decide⟩

/-- A literal with a plain character behind it leaves one where one was. -/
theorem through_literal {closers : List Char} (hquote : closers = [] → isMark '"' = false) (hc : roleOf c = .plain)
    (hmark : closers = [] → isMark c = false) (s : String) (r : List Char) :
    through isMark ⟨.code, closers⟩ ((literal s).toList ++ c :: r) = through isMark ⟨.code, closers⟩ r := by
  have hbody (t : List Char) : through isMark ⟨.literal .double, closers⟩ (t.flatMap escape ++ '"' :: c :: r) =
      through isMark ⟨.code, closers⟩ (c :: r) := by
    induction t with
    | nil => rfl
    | cons d t ih => rw [List.flatMap_cons, List.append_assoc, through_escape, ih]
  have hbehind {p : Place} (hp : p.within.isCode = true) (hclosers : p.closers = closers) :
      through isMark p (c :: r) = through isMark ⟨.code, closers⟩ r := by
    rw [through_cons (hclosers ▸ hmark), Place.step_of_plain hc hp, hclosers, Option.bind_some]
  have hliteral : (literal s).toList ++ c :: r = '"' :: (s.toList.flatMap escape ++ '"' :: c :: r) := by
    simp [literal]
  rw [hliteral, through_cons hquote]
  change through isMark ⟨.opened, closers⟩ (s.toList.flatMap escape ++ '"' :: c :: r) = _
  cases hs : s.toList with
  | nil => exact hbehind (p := ⟨.quoted, closers⟩) rfl rfl
  | cons d t =>
    obtain ⟨e, es, he, hne⟩ := exists_cons_of_escape d
    rw [List.flatMap_cons, List.append_assoc, he, List.cons_append, through_opened closers hne, ← List.cons_append,
      ← he, through_escape, hbody]
    exact hbehind rfl rfl

/-! ## Closed texts -/

theorem exists_of_isClosed {t : String} (h : isClosed isMark t = true) :
    ∃ q, through isMark {} t.toList = some q ∧ q.isTop = true ∧
      ∀ c, roleOf c = .plain → q.step c = some {} := by
  rw [isClosed, beq_iff_eq, through_append] at h
  obtain ⟨q, hq, hblank⟩ := Option.bind_eq_some_iff.1 h
  rw [through] at hblank
  split at hblank
  · cases hblank
  obtain ⟨q', hstep, hq'⟩ := Option.bind_eq_some_iff.1 hblank
  cases hq'
  obtain ⟨within, closers⟩ := q
  have hcode : within.isCode = true := by
    cases within with
    | code | dashed | quoted => rfl
    | literal closing | escaped closing => cases closing <;> cases hstep
    | braced | opened | line | comment => cases hstep
  rw [Place.step_of_plain (by decide) hcode] at hstep
  obtain rfl : closers = [] := congrArg Place.closers (Option.some.inj hstep)
  refine ⟨_, hq, ?_, fun c hc => Place.step_of_plain hc hcode⟩
  rw [Place.isTop, hcode]
  rfl

theorem through_plain (hc : roleOf c = .plain) (hmark : isMark c = false) (r : List Char) :
    through isMark {} (c :: r) = through isMark {} r := by
  rw [through_cons fun _ => hmark, Place.step_of_plain hc rfl, Option.bind_some]

/-- A closed text with a plain character behind it leaves one where one was. -/
theorem through_closed {t : String} (h : isClosed isMark t = true) (hc : roleOf c = .plain) (hmark : isMark c = false)
    (r : List Char) : through isMark {} (t.toList ++ c :: r) = through isMark {} r := by
  obtain ⟨q, hq, -, hstep⟩ := exists_of_isClosed h
  rw [through_of_append hq, through_cons fun _ => hmark, hstep c hc, Option.bind_some]

theorem through_balanced {t : String} (h : isBalanced t = true) {outer : List Char} (hne : outer ≠ []) (r : List Char) :
    through isMark ⟨.code, outer⟩ (t.toList ++ ' ' :: r) = through isMark ⟨.code, outer⟩ r := by
  rw [isBalanced, isClosed, beq_iff_eq] at h
  rw [List.append_cons]
  exact through_of_append (through_inside hne h) r

example : isBalanced "f [ \x27)\x27 ] \x7b- ( -\x7d (g \"(\")" = true ∧ isBalanced "f ) (" = false := by decide

end DecoderBench.Elm
