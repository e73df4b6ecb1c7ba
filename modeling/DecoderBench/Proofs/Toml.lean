/-
Documents of assignments are read as they are written: one line for each key, with its
value as a basic string (`parse_of_writes`). Which escapes a string has, and how its line
ends, makes no difference (`Spells`, `Writes`).
-/
import DecoderBench.Text.Hexadecimal
import DecoderBench.Toml.Document
import Mathlib.Data.List.Forall2

namespace DecoderBench.Toml

/-! ## Basic strings -/

/-- The ways to write a character in a basic string: as it is, unless it is a quote, a
backslash or a control character, or escaped, by a letter or by its code in two, four or
eight digits. -/
inductive Spells (c : Char) : List Char → Prop
  | plain (hcontrol : isControl c = false) (hquote : c ≠ '"') (hbackslash : c ≠ '\\') : Spells c [c]
  | letter {e : Char} (h : unescape? e = some c) : Spells c ['\\', e]
  | two {d₁ d₀ : Char} (h : Text.hexNumber? [d₁, d₀] = some c.toNat) : Spells c ['\\', 'x', d₁, d₀]
  | four {d₃ d₂ d₁ d₀ : Char} (h : Text.hexNumber? [d₃, d₂, d₁, d₀] = some c.toNat) :
    Spells c ['\\', 'u', d₃, d₂, d₁, d₀]
  | eight {d₇ d₆ d₅ d₄ d₃ d₂ d₁ d₀ : Char} (h : Text.hexNumber? [d₇, d₆, d₅, d₄, d₃, d₂, d₁, d₀] = some c.toNat) :
    Spells c ['\\', 'U', d₇, d₆, d₅, d₄, d₃, d₂, d₁, d₀]

theorem coded?_of_hexNumber? {ds : List Char} {c : Char} (h : Text.hexNumber? ds = some c.toNat) :
    coded? ds = some c := by
  have hvalid : c.toNat.isValidChar := c.valid
  simp [coded?, h, hvalid]

theorem prepend?_some (c : Char) (t rest : List Char) : prepend? (some c) (some (t, rest)) = some (c :: t, rest) := rfl

/-- A character is read off whatever spells it. -/
theorem scanBasic_spelled {c : Char} {w r t rest : List Char} (hw : Spells c w) (h : scanBasic r = some (t, rest)) :
    scanBasic (w ++ r) = some (c :: t, rest) := by
  cases hw with
  | plain hcontrol hquote hbackslash =>
    rw [List.singleton_append, scanBasic, hcontrol, h]
    · rfl
    · exact hquote
    all_goals
      intros
      exact absurd ‹c = '\\'› hbackslash
  | @letter e he =>
    have hcode : e ≠ 'x' ∧ e ≠ 'u' ∧ e ≠ 'U' := by
      refine ⟨?_, ?_, ?_⟩ <;> rintro rfl <;> cases he
    rw [List.cons_append, List.singleton_append, scanBasic, he, h, prepend?_some]
    all_goals
      intros
      simp_all
  | two hd | four hd | eight hd =>
    simp only [List.cons_append, List.nil_append, scanBasic, coded?_of_hexNumber? hd, h, prepend?_some]

theorem scanBasic_flatten {t : List Char} {ws : List (List Char)} (h : List.Forall₂ Spells t ws) (rest : List Char) :
    scanBasic (ws.flatten ++ '"' :: rest) = some (t, rest) := by
  induction h with
  | nil => rfl
  | cons hw _ ih =>
    rw [List.flatten_cons, List.append_assoc]
    exact scanBasic_spelled hw ih

theorem head_of_spells {c : Char} {w : List Char} (h : Spells c w) : ∃ d r, w = d :: r ∧ d ≠ '"' := by
  cases h with
  | plain _ hquote _ => exact ⟨c, [], rfl, hquote⟩
  | letter | two | four | eight => exact ⟨'\\', _, rfl, by decide⟩

/-- A quote, a spelled text and a quote are read as a basic string, unless a third quote
follows. -/
theorem scanText_spelled {t : List Char} {ws : List (List Char)} (h : List.Forall₂ Spells t ws) {rest : List Char}
    (hrest : rest.head? ≠ some '"') : scanText ('"' :: (ws.flatten ++ '"' :: rest)) = some (t, rest) := by
  rw [← scanBasic_flatten h rest, scanText]
  intro r hr
  cases h with
  | nil =>
    obtain ⟨-, rfl⟩ := List.cons.inj hr
    exact hrest rfl
  | cons hw =>
    obtain ⟨d, w, rfl, hd⟩ := head_of_spells hw
    exact hd (List.cons.inj hr).1

/-! ## Lines -/

/-- A key that needs no quotes. -/
structure IsBareKey (key : String) : Prop where
  nonempty : key.toList ≠ []
  bare : ∀ c ∈ key.toList, isBare c = true

/-- A key and a spelled value, without the end of their line. -/
def assigned (key : String) (ws : List (List Char)) : List Char :=
  key.toList ++ ' ' :: '=' :: ' ' :: '"' :: (ws.flatten ++ ['"'])

/-- What may come after a line before the text goes on with `rest`: a line break, or
nothing if the text ends here. -/
inductive EndsLine (rest : List Char) : List Char → Prop
  | last (h : rest = []) : EndsLine rest []
  | lf : EndsLine rest ('\n' :: rest)
  | crlf : EndsLine rest ('\r' :: '\n' :: rest)

theorem EndsLine.finishLine? {r rest : List Char} (h : EndsLine rest r) : Toml.finishLine? r = some rest := by
  cases h with
  | last h => rw [h]; rfl
  | lf => rfl
  | crlf => rfl

theorem EndsLine.head? {r rest : List Char} (h : EndsLine rest r) : r.head? ≠ some '"' := by
  cases h <;> simp

theorem isBlank_of_isBare {c : Char} (h : isBare c = true) : isBlank c = false := by
  rw [Bool.eq_false_iff]
  intro hblank
  simp only [isBlank, Bool.or_eq_true, beq_iff_eq] at hblank
  rcases hblank with rfl | rfl <;> cases h

theorem ne_of_isBare {c d : Char} (h : isBare c = true) (hd : isBare d = false) : c ≠ d := by
  rintro rfl
  rw [h] at hd
  cases hd

theorem finishLine?_of_isBare {c : Char} (h : isBare c = true) (r : List Char) : finishLine? (c :: r) = none := by
  have hdrop : (c :: r).dropWhile isBlank = c :: r := by
    rw [List.dropWhile_cons_of_neg (by simp [isBlank_of_isBare h])]
  have hnext : nextLine? (c :: r) = none := by
    rw [nextLine?]
    · exact nofun
    · intro _ hr
      exact ne_of_isBare (d := '\n') h rfl (List.cons.inj hr).1
    · intro _ hr
      exact ne_of_isBare (d := '\r') h rfl (List.cons.inj hr).1
  rw [finishLine?.eq_def, hdrop]
  split
  · rename_i hr
    exact absurd (List.cons.inj hr).1 (ne_of_isBare h rfl)
  · exact hnext

variable {key : String} {t : List Char} {ws : List (List Char)}

theorem scanKey_bare (hkey : IsBareKey key) (r : List Char) :
    scanKey (key.toList ++ ' ' :: r) = some (key.toList, ' ' :: r) := by
  have htake : (key.toList ++ ' ' :: r).takeWhile isBare = key.toList := by
    rw [List.takeWhile_append_of_pos hkey.bare, List.takeWhile_cons_of_neg (by decide), List.append_nil]
  have hdrop : (key.toList ++ ' ' :: r).dropWhile isBare = ' ' :: r := by
    rw [List.dropWhile_append_of_pos hkey.bare, List.dropWhile_cons_of_neg (by decide)]
  rw [scanKey.eq_def, htake]
  split
  · exact absurd ‹key.toList = []› hkey.nonempty
  · rw [hdrop]

/-- A line that assigns a spelled value to a key is read, with its end. -/
theorem scanLine_assigned (hkey : IsBareKey key) (hws : List.Forall₂ Spells t ws) {r rest : List Char}
    (hr : EndsLine rest r) : scanLine (assigned key ws ++ r) = some (some (key, String.ofList t), rest) := by
  have htext : scanText ('"' :: (ws.flatten ++ '"' :: r)) = some (t, r) := scanText_spelled hws hr.head?
  have happend : assigned key ws ++ r = key.toList ++ ' ' :: '=' :: ' ' :: '"' :: (ws.flatten ++ '"' :: r) := by
    simp [assigned]
  obtain ⟨c, cs, hc⟩ := List.exists_cons_of_ne_nil hkey.nonempty
  have hbare : isBare c = true := hkey.bare c (by simp [hc])
  have hassignment : scanAssignment (assigned key ws ++ r) = some ((key, String.ofList t), r) := by
    rw [happend, scanAssignment, scanKey_bare hkey]
    simp [List.dropWhile, isBlank, htext]
  have hfinish : finishLine? (assigned key ws ++ r) = none := by
    rw [happend, hc]
    exact finishLine?_of_isBare hbare _
  have hdrop : (assigned key ws ++ r).dropWhile isBlank = assigned key ws ++ r := by
    rw [happend, hc, List.cons_append, List.dropWhile_cons_of_neg (by simp [isBlank_of_isBare hbare])]
  rw [scanLine, hfinish]
  simp only [hdrop, hassignment, hr.finishLine?, Option.map_some]

/-! ## Documents -/

/-- A text has one line for each assignment, in order: its key, and its value as a basic
string. -/
inductive Writes : List Assignment → List Char → Prop
  | nil : Writes [] []
  | cons {key : String} {t : List Char} {ws : List (List Char)} {as : List Assignment} {r rest : List Char}
      (hws : List.Forall₂ Spells t ws) (hr : EndsLine rest r) (h : Writes as rest) :
    Writes ((key, String.ofList t) :: as) (assigned key ws ++ r)

theorem scanLines_of_writes {as : List Assignment} {cs : List Char} (h : Writes as cs)
    (hkeys : ∀ a ∈ as, IsBareKey a.1) : scanLines cs = some as := by
  induction h with
  | nil => rw [scanLines]
  | @cons key t ws as r rest hws hr _ ih =>
    have hkey : IsBareKey key := hkeys _ List.mem_cons_self
    have hrest := ih fun a ha => hkeys a (List.mem_cons_of_mem _ ha)
    have hline := scanLine_assigned hkey hws hr
    obtain ⟨c, cs, hc⟩ : ∃ c cs, assigned key ws ++ r = c :: cs := by
      obtain ⟨c, cs, hc⟩ := List.exists_cons_of_ne_nil hkey.nonempty
      exact ⟨c, _, by rw [assigned, hc]; rfl⟩
    rw [hc] at hline ⊢
    rw [scanLines]
    split
    · rename_i hnone
      rw [hline] at hnone
      cases hnone
    · rename_i s hs
      obtain rfl := Option.some.inj (hline.symm.trans hs)
      simp only [hrest, Option.map_some, Option.toList_some, List.singleton_append]

theorem dropMark_of_writes {as : List Assignment} {cs : List Char} (h : Writes as cs)
    (hkeys : ∀ a ∈ as, IsBareKey a.1) : dropMark cs = cs := by
  cases h with
  | nil => rfl
  | @cons key t ws as r rest hws hr _ =>
    have hkey : IsBareKey key := hkeys _ List.mem_cons_self
    obtain ⟨c, cs, hc⟩ := List.exists_cons_of_ne_nil hkey.nonempty
    have hbare : isBare c = true := hkey.bare c (by simp [hc])
    rw [assigned, hc, List.cons_append, List.cons_append, dropMark]
    intro _ heq
    exact ne_of_isBare (d := '\uFEFF') hbare rfl (List.cons.inj heq).1

/-- **Documents are read as they are written.** A text of one line for each assignment
gives these assignments, if no key needs quotes. -/
theorem parse_of_writes {as : List Assignment} {text : String} (h : Writes as text.toList)
    (hkeys : ∀ a ∈ as, IsBareKey a.1) : parse text = some as := by
  rw [parse, dropMark_of_writes h hkeys, scanLines_of_writes h hkeys]

/-! ## The document writer -/

theorem spells_escape (c : Char) : Spells c (escape c) := by
  unfold escape
  split
  · exact .letter rfl
  · exact .letter rfl
  · rename_i hquote hbackslash
    split
    · rename_i hcontrol
      refine .four (Text.hexNumber?_digits ?_)
      simp only [Bool.or_eq_true, decide_eq_true_eq, beq_iff_eq] at hcontrol
      omega
    · rename_i hplain
      refine .plain ?_ hquote hbackslash
      simp only [Bool.or_eq_true, decide_eq_true_eq, beq_iff_eq, not_or] at hplain
      simp [isControl, hplain.1, hplain.2]

theorem line_eq (a : Assignment) : line a = assigned a.1 (a.2.toList.map escape) ++ ['\n'] := by
  simp [line, assigned, basic, List.flatMap]

theorem writes_write (as : List Assignment) : Writes as (write as).toList := by
  rw [write, String.toList_ofList]
  induction as with
  | nil => exact .nil
  | cons a as ih =>
    have hspells : List.Forall₂ Spells a.2.toList (a.2.toList.map escape) := by
      rw [List.forall₂_map_right_iff, List.forall₂_same]
      exact fun c _ => spells_escape c
    have h : Writes ((a.1, String.ofList a.2.toList) :: as) _ := .cons hspells .lf ih
    rw [String.ofList_toList] at h
    rwa [List.flatMap_cons, line_eq, List.append_assoc]

end DecoderBench.Toml
