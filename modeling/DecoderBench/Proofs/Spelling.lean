/-
Which texts are spelled alike. Spelling a text writes its arrows as words and then one
mark for each character that is neither a letter nor a digit (`spell_eq_map`), so texts
that differ in such characters only are told apart no longer (`ofType_eq_iff`). Types of
names, dots and arrows are: their text can be read off their spelling
(`unspell_spell`).
-/
import DecoderBench.Proofs.Identifier
import DecoderBench.Proofs.Text.Arrow
import Mathlib.Data.List.Forall2

namespace DecoderBench.Identifier

open Text

/-! ## Arrows and marks -/

/-- A text with `_to_` in the place of each arrow. -/
def writeArrows (t : List Char) : List Char := ['_', 't', 'o', '_'].intercalate (arrowPieces t)

/-- A letter or digit, or the mark that stands for any other character. -/
def mark (c : Char) : Char := if c.isAlphanum then c else '_'

theorem writeArrows_arrow (t : List Char) :
    writeArrows ('-' :: '>' :: t) = '_' :: 't' :: 'o' :: '_' :: writeArrows t := by
  rw [writeArrows, arrowPieces, List.intercalate_cons_of_ne_nil (arrowPieces_ne_nil t)]
  rfl

theorem writeArrows_cons {c : Char} {t : List Char} (h : c = '-' → t.head? ≠ some '>') :
    writeArrows (c :: t) = c :: writeArrows t := by
  rw [writeArrows, arrowPieces_cons h, writeArrows]
  obtain ⟨p, ps, hp⟩ := List.exists_cons_of_ne_nil (arrowPieces_ne_nil t)
  rw [hp, List.modifyHead_cons]
  cases ps with
  | nil => simp
  | cons q qs => simp [List.intercalate_cons_of_ne_nil]

theorem mark_eq (c : Char) : (if isWord c then c else '_') = mark c := by
  unfold mark isWord
  by_cases hc : c = '_'
  · subst hc
    rfl
  · simp [hc]

/-- **Spelling is writing the arrows, and then a mark for each other character.** -/
theorem spell_eq_map (t : List Char) : spell t = (writeArrows t).map mark := by
  fun_induction spell t with
  | case1 => rfl
  | case2 r ih => rw [writeArrows_arrow, ih]; rfl
  | case3 c r hr ih =>
    have hc : c = '-' → r.head? ≠ some '>' := by
      rintro rfl h
      obtain ⟨s, rfl⟩ : ∃ s, r = '>' :: s := by
        cases r with
        | nil => cases h
        | cons d s => exact ⟨s, by rw [Option.some.inj h]⟩
      exact hr s rfl rfl
    rw [writeArrows_cons hc, List.map_cons, ih, mark_eq]

/-! ## Alike -/

/-- No difference is made between two characters: they are one, or neither of them is an
ASCII letter or digit. -/
def Alike (c d : Char) : Prop := c = d ∨ c.isAlphanum = false ∧ d.isAlphanum = false

theorem mark_eq_iff {c d : Char} : mark c = mark d ↔ Alike c d := by
  unfold mark Alike
  by_cases hc : c.isAlphanum = true
  · by_cases hd : d.isAlphanum = true
    · simp [hc, hd]
    · have hne : c ≠ '_' := by rintro rfl; exact absurd hc (by decide)
      have hcd : c ≠ d := by rintro rfl; exact hd hc
      simp [hc, hd, hne, hcd]
  · by_cases hd : d.isAlphanum = true
    · have hne : d ≠ '_' := by rintro rfl; exact absurd hd (by decide)
      have hcd : c ≠ d := by rintro rfl; exact hc hd
      simp [hc, hd, hne.symm, hcd]
    · simp [hc, hd]

theorem map_mark_eq_iff {s t : List Char} : s.map mark = t.map mark ↔ List.Forall₂ Alike s t := by
  rw [← List.forall₂_eq_eq_eq, List.forall₂_map_left_iff, List.forall₂_map_right_iff]
  simp only [mark_eq_iff]

theorem isUpper_mark (c : Char) : (mark c).isUpper = c.isUpper := by
  unfold mark
  split
  · rfl
  · rename_i hc
    have hupper : c.isUpper = false := Bool.eq_false_iff.2 fun h => hc (isAlphanum_of_isUpper h)
    rw [hupper]
    rfl

theorem capitalize_map_mark (t : List Char) : capitalize (t.map mark) = (capitalize t).map mark := by
  cases t with
  | nil => rfl
  | cons c t =>
    simp only [List.map_cons, capitalize, isUpper_mark]
    split <;> rfl

/-- **Which types have one name**: those that differ only in characters that are neither
letters nor digits, once their blanks are left out, their arrows are written and a `T` is
put before a start that is no capital. -/
theorem ofType_eq_iff {s t : String} :
    ofType s = ofType t ↔
      List.Forall₂ Alike (capitalize (writeArrows (squeeze s.toList)))
        (capitalize (writeArrows (squeeze t.toList))) := by
  rw [ofType, ofType, String.ofList_inj, spell_eq_map, spell_eq_map, capitalize_map_mark, capitalize_map_mark,
    map_mark_eq_iff]

/-! ## Plain texts -/

/-- Whether a text has letters and digits only, and dots with a capital behind them, and
arrows. -/
def plain : List Char → Bool
  | [] => true
  | '-' :: '>' :: t => plain t
  | '.' :: c :: t => c.isUpper && plain (c :: t)
  | c :: t => c.isAlphanum && plain t

/-- A spelling read back: the word for an arrow, and a dot for each other mark. -/
def unspell : List Char → List Char
  | [] => []
  | '_' :: 't' :: 'o' :: '_' :: r => '-' :: '>' :: unspell r
  | c :: r => (if c = '_' then '.' else c) :: unspell r

theorem ne_of_isAlphanum {c d : Char} (hc : c.isAlphanum = true) (hd : d.isAlphanum = false) : c ≠ d := by
  rintro rfl
  rw [hc] at hd
  cases hd

theorem spell_letter {c : Char} (hc : c.isAlphanum = true) (t : List Char) : spell (c :: t) = c :: spell t := by
  have hdash : c ≠ '-' := ne_of_isAlphanum hc (by decide)
  rw [spell, isWord, hc]
  · rfl
  · rintro r rfl
    exact absurd rfl hdash

theorem unspell_letter {c : Char} (hc : c.isAlphanum = true) (t : List Char) : unspell (c :: t) = c :: unspell t := by
  have hmark : c ≠ '_' := ne_of_isAlphanum hc (by decide)
  rw [unspell, if_neg hmark]
  rintro r rfl
  exact absurd rfl hmark

/-- A plain text can be read off its spelling. -/
theorem unspell_spell {t : List Char} (h : plain t = true) : unspell (spell t) = t := by
  fun_induction plain t with
  | case1 => rfl
  | case2 t ih => rw [spell, unspell, ih h]
  | case3 c t ih =>
    rw [Bool.and_eq_true] at h
    have hletter : c.isAlphanum = true := isAlphanum_of_isUpper h.1
    have ht : c ≠ 't' := by
      rintro rfl
      exact absurd h.1 (by decide)
    have hdot : spell ('.' :: c :: t) = '_' :: spell (c :: t) := rfl
    rw [hdot, spell_letter hletter, unspell, if_pos rfl, ← spell_letter hletter, ih h.2]
    rintro r - heq
    exact ht (List.cons.inj heq).1
  | case4 c t harrow hdot ih =>
    rw [Bool.and_eq_true] at h
    rw [spell_letter h.1, unspell_letter h.1, ih h.2]

/-- A plain text that starts with a capital. -/
structure IsPlain (t : List Char) : Prop where
  capital : capitalize t = t
  plain : plain t = true

instance (t : List Char) : Decidable (IsPlain t) :=
  decidable_of_iff (capitalize t = t ∧ plain t = true) ⟨fun h => ⟨h.1, h.2⟩, fun h => ⟨h.1, h.2⟩⟩

theorem capitalize_spell {t : List Char} (h : capitalize t = t) : capitalize (spell t) = spell t := by
  cases t with
  | nil => cases h
  | cons c t =>
    have hc : c.isUpper = true := by
      by_contra hc
      rw [capitalize, if_neg hc] at h
      exact absurd (congrArg List.length h) (by simp)
    rw [spell_letter (isAlphanum_of_isUpper hc), capitalize, if_pos hc]

/-- Plain types that have one name are one type, but for blanks. -/
theorem ofType_inj_of_isPlain {s t : String} (hs : IsPlain (squeeze s.toList)) (ht : IsPlain (squeeze t.toList)) :
    ofType s = ofType t ↔ squeeze s.toList = squeeze t.toList := by
  refine ⟨fun h => ?_, fun h => by rw [ofType, ofType, h]⟩
  rw [ofType, ofType, String.ofList_inj, capitalize_spell hs.capital, capitalize_spell ht.capital] at h
  rw [← unspell_spell hs.plain, h, unspell_spell ht.plain]

end DecoderBench.Identifier
