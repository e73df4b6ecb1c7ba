/-
Printed JSON is read back: the shortest text of a value, and the one on several lines,
spell this value and no other (`parse_compact`, `parse_pretty`). The reader goes
through such a text part by part, and a part leads it from one state to the next
(`Leads`).
-/
import DecoderBench.Json.Reader
import DecoderBench.Text.Hexadecimal

namespace DecoderBench.Json

/-! ## Strings -/

theorem textOf_char (c : Char) (ps : List Part) : textOf (.char c :: ps) = (textOf ps).map (c :: ·) := rfl

theorem textOf_control {c : Char} (h : c.toNat < 0x20) (ps : List Part) :
    textOf (.code c.toNat :: ps) = (textOf ps).map (c :: ·) := by
  have hhigh : isHighHalf c.toNat = false := by simp [isHighHalf]; omega
  have hlow : isLowHalf c.toNat = false := by simp [isLowHalf]; omega
  rw [textOf.eq_def]
  simp only [hhigh, hlow, Bool.false_eq_true, if_false, Char.ofNat_toNat]

/-- An escaped character is read as one part, which denotes it. -/
theorem scanString_escape (c : Char) {r rest : List Char} {ps : List Part} (h : scanString r = some (ps, rest)) :
    ∃ p, scanString (escape c ++ r) = some (p :: ps, rest) ∧ textOf (p :: ps) = (textOf ps).map (c :: ·) := by
  unfold escape
  split
  case h_8 hquote hbackslash _ _ _ _ _ =>
    split
    · rename_i hcontrol
      have hdigits := Text.hexNumber?_digits (n := c.toNat) (by omega)
      refine ⟨.code c.toNat, ?_, textOf_control hcontrol ps⟩
      simp only [List.cons_append, List.nil_append, scanString, hexDigit, hdigits, h]
    · rename_i hplain
      refine ⟨.char c, ?_, textOf_char c ps⟩
      rw [List.singleton_append, scanString, if_neg hplain]
      · simp only [h]
      · exact hquote
      · intro _ _ _ _ _ hc
        exact absurd hc hbackslash
      · intro _ _ hc
        exact absurd hc hbackslash
  all_goals exact ⟨.char _, by simp [scanString, unescape?, h], textOf_char _ ps⟩

theorem scanString_flatMap (t rest : List Char) :
    ∃ ps, scanString (t.flatMap escape ++ '"' :: rest) = some (ps, rest) ∧ textOf ps = some t := by
  induction t with
  | nil => exact ⟨[], rfl, rfl⟩
  | cons c t ih =>
    obtain ⟨ps, hscan, htext⟩ := ih
    obtain ⟨p, hp, ht⟩ := scanString_escape c hscan
    refine ⟨p :: ps, ?_, ?_⟩
    · rwa [List.flatMap_cons, List.append_assoc]
    · rw [ht, htext, Option.map_some]

/-- A printed string makes one token. -/
theorem scanToken_printString (s : Option String) (rest : List Char) :
    scanToken (printString s ++ rest) = some (.scalar (.string s), rest) := by
  cases s with
  | none =>
    have hdigits : Text.hexNumber? ['d', '8', '0', '0'] = some 0xD800 := by decide
    simp [printString, scanToken, scanString, hdigits, textOf, isHighHalf]
  | some s =>
    obtain ⟨ps, hscan, htext⟩ := scanString_flatMap s.toList rest
    simp [printString, scanToken, hscan, htext]

/-! ## Tokens -/

theorem lex_space {c : Char} (h : isSpace c = true) (r : List Char) : lex (c :: r) = lex r := by
  rw [lex, if_pos h]

theorem lex_token {c : Char} {r rest : List Char} {t : Token} (hc : isSpace c = false)
    (h : scanToken (c :: r) = some (t, rest)) : lex (c :: r) = (lex rest).map (t :: ·) := by
  rw [lex, if_neg (by simp [hc])]
  split
  · rename_i hnone
    rw [h] at hnone
    cases hnone
  · rename_i s hs
    rw [h] at hs
    cases hs
    rfl

/-- Whether a number that ends before `rest` cannot go on into it. -/
def stops (rest : List Char) : Bool :=
  match rest with
  | [] => true
  | c :: _ => !(c.isDigit || c == '.' || c == 'e' || c == 'E')

/-- A number as it is read: all of it, whatever comes after it. -/
def IsNumeral (lexeme : List Char) : Prop :=
  ∀ rest, stops rest = true → scanNumber (lexeme ++ rest) = some (lexeme, rest)

theorem stops_append {cs rest : List Char} (h : stops cs = true) (hrest : stops rest = true) :
    stops (cs ++ rest) = true := by
  cases cs with
  | nil => exact hrest
  | cons c cs => exact h

theorem stops_space {space : List Char} (h : ∀ c ∈ space, isSpace c = true) : stops space = true := by
  cases space with
  | nil => rfl
  | cons c space =>
    have hc : isSpace c = true := h c List.mem_cons_self
    simp only [isSpace, Bool.or_eq_true, beq_iff_eq] at hc
    rcases hc with ((rfl | rfl) | rfl) | rfl <;> rfl

/-- A numeral starts with a digit or a sign. -/
theorem head_of_scanNumber {c : Char} {r : List Char} {s : List Char × List Char}
    (h : scanNumber (c :: r) = some s) : c = '-' ∨ c.isDigit = true := by
  by_cases hsign : c = '-'
  · exact .inl hsign
  right
  cases hdigit : c.isDigit with
  | true => rfl
  | false =>
    have hzero : c ≠ '0' := by
      rintro rfl
      cases hdigit
    have hnone : scanWhole (c :: r) = none := by simp [scanWhole, hzero, hdigit]
    rw [scanNumber, scanUnsigned, hnone] at h
    · cases h
    · intro _ hc
      exact hsign (List.cons.inj hc).1

theorem scanToken_number {c : Char} {r lexeme rest : List Char} (h : scanNumber (c :: r) = some (lexeme, rest)) :
    isSpace c = false ∧ scanToken (c :: r) = some (.scalar (.number lexeme), rest) := by
  have hother : ∀ d, d ≠ '-' → d.isDigit = false → c ≠ d := by
    rintro d hsign hdigit rfl
    rcases head_of_scanNumber h with hc | hc
    · exact hsign hc
    · rw [hdigit] at hc
      cases hc
  constructor
  · simp [isSpace, hother ' ', hother '\t', hother '\n', hother '\r']
  · rw [scanToken, h]
    · rfl
    all_goals
      intro _ hc
      exact hother _ (by decide) (by decide) (List.cons.inj hc).1

/-! ## Numerals -/

theorem takeWhile_append_stops {ds rest : List Char} (hdigits : ∀ d ∈ ds, d.isDigit = true)
    (hrest : stops rest = true) : (ds ++ rest).takeWhile Char.isDigit = ds := by
  rw [List.takeWhile_append_of_pos hdigits]
  cases rest with
  | nil => simp
  | cons c rest =>
    have hc : c.isDigit = false := by simp_all [stops]
    simp [hc]

theorem dropWhile_append_stops {ds rest : List Char} (hdigits : ∀ d ∈ ds, d.isDigit = true)
    (hrest : stops rest = true) : (ds ++ rest).dropWhile Char.isDigit = rest := by
  rw [List.dropWhile_append_of_pos hdigits]
  cases rest with
  | nil => rfl
  | cons c rest =>
    have hc : c.isDigit = false := by simp_all [stops]
    simp [hc]

/-- A whole part is a number where it cannot go on. -/
theorem scanUnsigned_of_whole {cs rest : List Char} (hrest : stops rest = true)
    (h : scanWhole (cs ++ rest) = some (cs, rest)) : scanUnsigned (cs ++ rest) = some (cs, rest) := by
  have hfraction : scanFraction rest = some ([], rest) := by
    cases rest with
    | nil => rfl
    | cons c rest =>
      rw [scanFraction]
      rintro _ hc
      obtain ⟨rfl, -⟩ := List.cons.inj hc
      cases hrest
  have hexponent : scanExponent rest = some ([], rest) := by
    cases rest with
    | nil => rfl
    | cons c rest =>
      have hc : (c == 'e' || c == 'E') = false := by simp_all [stops]
      rw [scanExponent, hc, if_neg Bool.false_ne_true]
  rw [scanUnsigned, h]
  simp only [hfraction, hexponent, List.append_nil]

/-- The digits of a number do not start with a zero, unless they are just that. -/
theorem head?_toDigits {n : Nat} (hn : n ≠ 0) : (Nat.toDigits 10 n).head? ≠ some '0' := by
  induction n using Nat.strongRecOn with
  | ind n ih =>
    rw [Nat.toDigits_eq_if (by decide)]
    split
    · rename_i hsmall
      have hdigit : ∀ d < 10, d ≠ 0 → Nat.digitChar d ≠ '0' := by decide
      simpa using hdigit n hsmall hn
    · obtain ⟨c, ds, hcs⟩ := List.exists_cons_of_ne_nil (Nat.toDigits_ne_nil (n := n / 10) (b := 10))
      have hfront := ih (n / 10) (by omega) (by omega)
      rw [hcs] at hfront ⊢
      exact hfront

theorem isNumeral_toDigits (n : Nat) : IsNumeral (Nat.toDigits 10 n) := by
  intro rest hrest
  have hdigits : ∀ d ∈ Nat.toDigits 10 n, d.isDigit = true :=
    fun d hd => Nat.isDigit_of_mem_toDigits (by decide) (by decide) hd
  by_cases hn : n = 0
  · subst hn
    have hwhole : scanWhole (['0'] ++ rest) = some (['0'], rest) := rfl
    exact scanUnsigned_of_whole hrest hwhole
  · have hhead := head?_toDigits hn
    obtain ⟨c, ds, hcs⟩ := List.exists_cons_of_ne_nil (Nat.toDigits_ne_nil (n := n) (b := 10))
    rw [hcs] at hhead hdigits ⊢
    have hc : c.isDigit = true := hdigits c List.mem_cons_self
    have hds : ∀ d ∈ ds, d.isDigit = true := fun d hd => hdigits d (List.mem_cons_of_mem c hd)
    have hzero : (c == '0') = false := by simpa using hhead
    have hwhole : scanWhole (c :: ds ++ rest) = some (c :: ds, rest) := by
      rw [List.cons_append, scanWhole, hzero, if_neg Bool.false_ne_true, if_pos hc, takeWhile_append_stops hds hrest,
        dropWhile_append_stops hds hrest]
    rw [List.cons_append, scanNumber]
    · exact scanUnsigned_of_whole hrest hwhole
    · rintro _ hsign
      obtain ⟨rfl, -⟩ := List.cons.inj hsign
      cases hc

/-! ## From state to state -/

/-- A text leads the reader from one state to another, whatever comes after it. -/
def Leads (cs : List Char) (s t : State) : Prop :=
  ∃ ts, run s ts = some t ∧ ∀ rest, stops rest = true → lex (cs ++ rest) = (lex rest).map (ts ++ ·)

/-- A value may begin, and goes onto the stack. -/
def Awaits (s : State) (stack : List Frame) : Prop := ∀ k, k ≠ .closeArray → step s k = begin stack k

/-- A key may come after the members of an object. -/
def AwaitsKey (s : State) (members : List (Option String × Json)) (stack : List Frame) : Prop :=
  ∀ k, step s (.scalar (.string k)) = some (.colon members k stack)

theorem awaits_value (stack : List Frame) : Awaits (.value stack) stack := fun _ _ => rfl

theorem awaits_element (stack : List Frame) : Awaits (.element stack) (.array [] :: stack) := by
  intro k hk
  cases k
  case closeArray => exact absurd rfl hk
  all_goals rfl

namespace Leads

variable {cs ds : List Char} {c : Char} {s t u : State} {stack : List Frame}

theorem space (hc : isSpace c = true) (h : Leads cs s t) : Leads (c :: cs) s t := by
  obtain ⟨ts, hrun, hlex⟩ := h
  exact ⟨ts, hrun, fun rest hrest => by rw [List.cons_append, lex_space hc, hlex rest hrest]⟩

theorem spaces {gap : List Char} (hgap : ∀ c ∈ gap, isSpace c = true) (h : Leads cs s t) :
    Leads (gap ++ cs) s t := by
  induction gap with
  | nil => exact h
  | cons c gap ih =>
    exact .space (hgap c List.mem_cons_self) (ih fun d hd => hgap d (List.mem_cons_of_mem c hd))

/-- A token of one character, and what comes after it. -/
theorem cons {k : Token} (hc : isSpace c = false) (hk : ∀ r, scanToken (c :: r) = some (k, r))
    (hstep : step s k = some t) (h : Leads cs t u) : Leads (c :: cs) s u := by
  obtain ⟨ts, hrun, hlex⟩ := h
  refine ⟨k :: ts, ?_, fun rest hrest => ?_⟩
  · rw [run, List.foldlM_cons, hstep]
    exact hrun
  · rw [List.cons_append, lex_token hc (hk _), hlex rest hrest, Option.map_map]
    rfl

theorem single {k : Token} (hc : isSpace c = false) (hk : ∀ r, scanToken (c :: r) = some (k, r))
    (hstep : step s k = some t) : Leads [c] s t := by
  refine .cons hc hk hstep ⟨[], rfl, fun rest _ => ?_⟩
  simp

theorem append (h : Leads cs s t) (hstops : stops ds = true) (h' : Leads ds t u) : Leads (cs ++ ds) s u := by
  obtain ⟨ts, hrun, hlex⟩ := h
  obtain ⟨us, hrun', hlex'⟩ := h'
  refine ⟨ts ++ us, ?_, fun rest hrest => ?_⟩
  · rw [run, List.foldlM_append]
    rw [run] at hrun
    rw [hrun]
    exact hrun'
  · rw [List.append_assoc, hlex _ (stops_append hstops hrest), hlex' rest hrest, Option.map_map]
    simp only [Function.comp_def, List.append_assoc]

/-- A token of several characters. -/
theorem token {k : Token} (hne : ∃ c r, cs = c :: r ∧ isSpace c = false)
    (hk : ∀ rest, stops rest = true → scanToken (cs ++ rest) = some (k, rest)) (hstep : step s k = some t) :
    Leads cs s t := by
  obtain ⟨c, r, rfl, hc⟩ := hne
  refine ⟨[k], ?_, fun rest hrest => ?_⟩
  · rw [run, List.foldlM_cons, hstep]
    rfl
  · have hscan : scanToken (c :: (r ++ rest)) = some (k, rest) := hk rest hrest
    rw [List.cons_append, lex_token hc hscan]
    rfl

theorem scalar {v : Json} (hne : ∃ c r, cs = c :: r ∧ isSpace c = false)
    (hk : ∀ rest, stops rest = true → scanToken (cs ++ rest) = some (.scalar v, rest)) (hs : Awaits s stack) :
    Leads cs s (.rest v stack) :=
  .token hne hk (hs _ nofun)

theorem string (text : Option String) (hs : Awaits s stack) :
    Leads (printString text) s (.rest (.string text) stack) := by
  refine .scalar ?_ (fun rest _ => scanToken_printString text rest) hs
  cases text <;> exact ⟨'"', _, rfl, rfl⟩

theorem number {lexeme : List Char} (h : IsNumeral lexeme) (hs : Awaits s stack) :
    Leads lexeme s (.rest (.number lexeme) stack) := by
  have hnumber : scanNumber lexeme = some (lexeme, []) := by simpa using h [] rfl
  obtain ⟨c, r, rfl⟩ := List.exists_cons_of_ne_nil (scanNumber_append hnumber).2
  have hscan : ∀ rest, stops rest = true → isSpace c = false ∧
      scanToken (c :: (r ++ rest)) = some (.scalar (.number (c :: r)), rest) :=
    fun rest hrest => scanToken_number (h rest hrest)
  exact .scalar ⟨c, r, rfl, (hscan [] rfl).1⟩ (fun rest hrest => (hscan rest hrest).2) hs

/-! ### Lists and objects

The parts of a list or an object are written by some `write`, each after a comma but the
first, and before its end there may be space. -/

section

variable {gap : List Char} (hgap : ∀ c ∈ gap, isSpace c = true)
include hgap

theorem stops_parts {α : Type} (write : α → List Char) (close : Char) (hclose : stops [close] = true) (l : List α) :
    stops (l.flatMap (fun a => ',' :: write a) ++ (gap ++ [close])) = true := by
  cases l with
  | nil =>
    rw [List.flatMap_nil, List.nil_append]
    exact stops_append (stops_space hgap) hclose
  | cons a l => rfl

theorem elements {write : Json → List Char} {es : List Json}
    (h : ∀ e ∈ es, ∀ s stack, Awaits s stack → Leads (write e) s (.rest e stack)) (v : Json) (before : List Json) :
    Leads (es.flatMap (fun e => ',' :: write e) ++ (gap ++ [']'])) (.rest v (.array before :: stack))
      (.rest (.array ((v :: before).reverse ++ es)) stack) := by
  induction es generalizing v before with
  | nil =>
    rw [List.flatMap_nil, List.nil_append, List.append_nil]
    exact .spaces hgap (.single rfl (fun _ => rfl) rfl)
  | cons e es ih =>
    simp only [List.flatMap_cons, List.cons_append, List.append_assoc]
    have hfirst := h e List.mem_cons_self _ _ (awaits_value (.array (v :: before) :: stack))
    have hothers := ih (fun e' he' => h e' (List.mem_cons_of_mem e he')) e (v :: before)
    refine .cons rfl (fun _ => rfl) rfl (.append hfirst (stops_parts hgap write ']' rfl es) ?_)
    simpa using hothers

theorem array {write : Json → List Char} {e : Json} {es : List Json}
    (h : ∀ e' ∈ e :: es, ∀ s stack, Awaits s stack → Leads (write e') s (.rest e' stack)) (hs : Awaits s stack) :
    Leads ('[' :: (write e ++ (es.flatMap (fun e => ',' :: write e) ++ (gap ++ [']'])))) s
      (.rest (.array (e :: es)) stack) := by
  have hfirst := h e List.mem_cons_self _ _ (awaits_element stack)
  have hothers : Leads _ (.rest e (.array [] :: stack)) (.rest (.array (e :: es)) stack) :=
    elements hgap (fun e' he' => h e' (List.mem_cons_of_mem e he')) e []
  exact .cons rfl (fun _ => rfl) (hs .openArray nofun) (.append hfirst (stops_parts hgap write ']' rfl es) hothers)

theorem members {write : Option String × Json → List Char} {ms : List (Option String × Json)}
    (h : ∀ m ∈ ms, ∀ s before stack, AwaitsKey s before stack →
      Leads (write m) s (.rest m.2 (.object before m.1 :: stack)))
    (v : Json) (key : Option String) (before : List (Option String × Json)) :
    Leads (ms.flatMap (fun m => ',' :: write m) ++ (gap ++ ['\x7d'])) (.rest v (.object before key :: stack))
      (.rest (.object (((key, v) :: before).reverse ++ ms)) stack) := by
  induction ms generalizing v key before with
  | nil =>
    rw [List.flatMap_nil, List.nil_append, List.append_nil]
    exact .spaces hgap (.single rfl (fun _ => rfl) rfl)
  | cons m ms ih =>
    simp only [List.flatMap_cons, List.cons_append, List.append_assoc]
    have hfirst := h m List.mem_cons_self (.key ((key, v) :: before) stack) _ _ fun _ => rfl
    have hothers := ih (fun m' hm' => h m' (List.mem_cons_of_mem m hm')) m.2 m.1 ((key, v) :: before)
    refine .cons rfl (fun _ => rfl) rfl (.append hfirst (stops_parts hgap write '\x7d' rfl ms) ?_)
    simpa using hothers

theorem object {write : Option String × Json → List Char} {m : Option String × Json}
    {ms : List (Option String × Json)}
    (h : ∀ m' ∈ m :: ms, ∀ s before stack, AwaitsKey s before stack →
      Leads (write m') s (.rest m'.2 (.object before m'.1 :: stack))) (hs : Awaits s stack) :
    Leads ('\x7b' :: (write m ++ (ms.flatMap (fun m => ',' :: write m) ++ (gap ++ ['\x7d'])))) s
      (.rest (.object (m :: ms)) stack) := by
  have hfirst := h m List.mem_cons_self (.member stack) [] stack fun _ => rfl
  have hothers : Leads _ (.rest m.2 (.object [] m.1 :: stack)) (.rest (.object (m :: ms)) stack) :=
    members hgap (fun m' hm' => h m' (List.mem_cons_of_mem m hm')) m.2 m.1 []
  exact .cons rfl (fun _ => rfl) (hs .openObject nofun)
    (.append hfirst (stops_parts hgap write '\x7d' rfl ms) hothers)

/-- A key, a colon and the value behind it. -/
theorem member {text : List Char} {key : Option String} {v : Json} {before : List (Option String × Json)}
    (h : ∀ s stack, Awaits s stack → Leads text s (.rest v stack)) (hs : AwaitsKey s before stack) :
    Leads (printString key ++ ':' :: (gap ++ text)) s (.rest v (.object before key :: stack)) := by
  have hkey : Leads (printString key) s (.colon before key stack) :=
    .token (by cases key <;> exact ⟨'"', _, rfl, rfl⟩) (fun rest _ => scanToken_printString key rest) (hs key)
  exact .append hkey rfl (.cons rfl (fun _ => rfl) rfl (.spaces hgap (h _ _ (awaits_value _))))

end

end Leads

/-! ## Printed values -/

/-- A value whose numbers are numerals. -/
inductive IsWritable : Json → Prop
  | null : IsWritable .null
  | bool (b : Bool) : IsWritable (.bool b)
  | number {lexeme : List Char} (h : IsNumeral lexeme) : IsWritable (.number lexeme)
  | string (text : Option String) : IsWritable (.string text)
  | array {elements : List Json} (h : ∀ e ∈ elements, IsWritable e) : IsWritable (.array elements)
  | object {members : List (Option String × Json)} (h : ∀ m ∈ members, IsWritable m.2) : IsWritable (.object members)

theorem isWritable_record {fields : List (String × Json)} (h : ∀ f ∈ fields, f.2.IsWritable) :
    (record fields).IsWritable := by
  refine .object fun m hm => ?_
  obtain ⟨f, hf, rfl⟩ := List.mem_map.1 hm
  exact h f hf

@[simp] theorem isWritable_ofString (s : String) : (ofString s).IsWritable := .string _

@[simp] theorem isWritable_ofNat (n : Nat) : (ofNat n).IsWritable := .number (isNumeral_toDigits n)

theorem isWritable_map {α : Type} {write : α → Json} (h : ∀ a, (write a).IsWritable) (l : List α) :
    (array (l.map write)).IsWritable := .array (List.forall_mem_map.2 fun a _ => h a)

theorem compactElements_eq (es : List Json) :
    compactElements es = es.flatMap (fun e => ',' :: compact e) ++ [']'] := by
  induction es with
  | nil => rfl
  | cons e es ih => simp [compactElements, ih]

theorem compactMembers_eq (ms : List (Option String × Json)) :
    compactMembers ms = ms.flatMap (fun m => ',' :: (printString m.1 ++ ':' :: compact m.2)) ++ ['\x7d'] := by
  induction ms with
  | nil => rfl
  | cons m ms ih => simp [compactMembers, ih]

theorem prettyElements_eq (level : Nat) (es : List Json) :
    prettyElements level es =
      es.flatMap (fun e => ',' :: (newline (level + 1) ++ prettyAt (level + 1) e)) ++ (newline level ++ [']']) := by
  induction es with
  | nil => rfl
  | cons e es ih => simp [prettyElements, ih]

theorem prettyMembers_eq (level : Nat) (ms : List (Option String × Json)) :
    prettyMembers level ms =
      ms.flatMap (fun m => ',' ::
        (newline (level + 1) ++ (printString m.1 ++ ':' :: ' ' :: prettyAt (level + 1) m.2))) ++
      (newline level ++ ['\x7d']) := by
  induction ms with
  | nil => rfl
  | cons m ms ih => simp [prettyMembers, ih]

theorem isSpace_of_mem_newline {level : Nat} {c : Char} (h : c ∈ newline level) : isSpace c = true := by
  rcases List.mem_cons.1 h with rfl | h
  · rfl
  · rw [List.eq_of_mem_replicate h]
    rfl

theorem leads_word {c : Char} {r : List Char} {v : Json} {s : State} {stack : List Frame} (hc : isSpace c = false)
    (hk : ∀ rest, scanToken (c :: r ++ rest) = some (.scalar v, rest)) (hs : Awaits s stack) :
    Leads (c :: r) s (.rest v stack) :=
  .scalar ⟨c, r, rfl, hc⟩ (fun rest _ => hk rest) hs

theorem leads_emptyArray {s : State} {stack : List Frame} (hs : Awaits s stack) :
    Leads ['[', ']'] s (.rest (.array []) stack) :=
  .cons rfl (fun _ => rfl) (hs .openArray nofun) (.single rfl (fun _ => rfl) rfl)

theorem leads_emptyObject {s : State} {stack : List Frame} (hs : Awaits s stack) :
    Leads ['\x7b', '\x7d'] s (.rest (.object []) stack) :=
  .cons rfl (fun _ => rfl) (hs .openObject nofun) (.single rfl (fun _ => rfl) rfl)

theorem leads_compact {v : Json} (hv : IsWritable v) :
    ∀ s stack, Awaits s stack → Leads (compact v) s (.rest v stack) := by
  have hgap : ∀ c ∈ ([] : List Char), isSpace c = true := nofun
  induction hv with
  | null => exact fun s stack => leads_word rfl fun _ => rfl
  | bool b => cases b <;> exact fun s stack => leads_word rfl fun _ => rfl
  | number h => exact fun s stack => .number h
  | string text => exact fun s stack => .string text
  | @array es _ ih =>
    intro s stack hs
    cases es with
    | nil => exact leads_emptyArray hs
    | cons e es =>
      rw [compact, compactElements_eq]
      exact .array hgap ih hs
  | @object ms _ ih =>
    intro s stack hs
    cases ms with
    | nil => exact leads_emptyObject hs
    | cons m ms =>
      rw [compact, compactMembers_eq]
      exact .object hgap (fun m' hm' _ _ _ hkey => .member hgap (ih m' hm') hkey) hs

theorem leads_prettyAt {v : Json} (hv : IsWritable v) :
    ∀ level s stack, Awaits s stack → Leads (prettyAt level v) s (.rest v stack) := by
  have hgap : ∀ level, ∀ c ∈ newline level, isSpace c = true := fun _ _ => isSpace_of_mem_newline
  have hblank : ∀ c ∈ [' '], isSpace c = true := by simp [isSpace]
  induction hv with
  | null => exact fun _ s stack => leads_word rfl fun _ => rfl
  | bool b => cases b <;> exact fun _ s stack => leads_word rfl fun _ => rfl
  | number h => exact fun _ s stack => .number h
  | string text => exact fun _ s stack => .string text
  | @array es _ ih =>
    intro level s stack hs
    cases es with
    | nil => exact leads_emptyArray hs
    | cons e es =>
      rw [prettyAt, prettyElements_eq]
      have hparts : ∀ e' ∈ e :: es, ∀ s stack, Awaits s stack →
          Leads (newline (level + 1) ++ prettyAt (level + 1) e') s (.rest e' stack) :=
        fun e' he' s stack hs => .spaces (hgap _) (ih e' he' _ s stack hs)
      exact .array (hgap level) hparts hs
  | @object ms _ ih =>
    intro level s stack hs
    cases ms with
    | nil => exact leads_emptyObject hs
    | cons m ms =>
      rw [prettyAt, prettyMembers_eq]
      have hparts : ∀ m' ∈ m :: ms, ∀ s before stack, AwaitsKey s before stack →
          Leads (newline (level + 1) ++ (printString m'.1 ++ ':' :: ' ' :: prettyAt (level + 1) m'.2)) s
            (.rest m'.2 (.object before m'.1 :: stack)) :=
        fun m' hm' s before stack hkey =>
          .spaces (hgap _) (.member hblank (ih m' hm' _) hkey)
      simpa only [List.append_assoc] using Leads.object (hgap level) hparts hs

/-- A text that leads from the start to the end of a value spells this value. -/
theorem parse_of_leads {cs : List Char} {v : Json} (h : Leads cs (.value []) (.rest v [])) : parse cs = some v := by
  obtain ⟨ts, hrun, hlex⟩ := h
  have hts : lex cs = some ts := by
    have hnil : lex [] = some [] := by rw [lex]
    simpa [hnil] using hlex [] rfl
  rw [parse, hts, Option.bind_some, ofTokens?, hrun]

/-- **The shortest text of a value is read back.** -/
theorem parse_compact {v : Json} (hv : IsWritable v) : parse (compact v) = some v :=
  parse_of_leads (leads_compact hv _ _ (awaits_value []))

/-- **The text of a value on several lines is read back.** -/
theorem parse_pretty {v : Json} (hv : IsWritable v) : parse (pretty v).toList = some v := by
  rw [pretty, String.toList_ofList]
  exact parse_of_leads (leads_prettyAt hv 0 _ _ (awaits_value []))

end DecoderBench.Json
