/-
What blanks do to a text's tokens: blanks before, after and between tokens
leave no trace, and a text is put together from blanks and tokens only.

`tokens_induction` is how later files go through a text: it is empty, or starts
with a blank, or starts with a token that ends where the rest does.
-/
import DecoderBench.Text.Tokens
import Mathlib.Data.List.DropRight

namespace DecoderBench.Text

/-- No token goes on from the text before `t` into `t`. -/
def StartsApart (t : List Char) : Prop := ∀ c ∈ t.head?, isBlank c = true

theorem StartsApart.cons {c : Char} {t : List Char} (h : isBlank c = true) : StartsApart (c :: t) := by
  simp [StartsApart, h]

/-- A text without blanks that is not empty. -/
structure IsToken (w : List Char) : Prop where
  ne_nil : w ≠ []
  solid : ∀ c ∈ w, isBlank c = false

theorem IsToken.of_all {w : List Char} (hne : w ≠ []) (h : w.all (fun c => !isBlank c) = true) : IsToken w where
  ne_nil := hne
  solid := by simpa using h

/-! ## Tokens -/

@[simp] theorem tokens_nil : tokens [] = [] := rfl

theorem tokens_append_cons {s t : List Char} {c : Char} (h : isBlank c = true) :
    tokens (s ++ c :: t) = tokens s ++ tokens t := by
  simp [tokens, List.splitOnP_append_cons s t h]

theorem tokens_cons {c : Char} {t : List Char} (h : isBlank c = true) : tokens (c :: t) = tokens t := by
  simpa using tokens_append_cons (s := []) (t := t) h

/-- Tokens on both sides of a cut that no token crosses. -/
theorem tokens_append {s t : List Char} (h : StartsApart t) : tokens (s ++ t) = tokens s ++ tokens t := by
  cases t with
  | nil => simp
  | cons c t =>
    have hc : isBlank c = true := h c (by simp)
    rw [tokens_append_cons hc, tokens_cons hc]

theorem IsToken.tokens_eq {w : List Char} (h : IsToken w) : tokens w = [w] := by
  simp [tokens, List.splitOnP_eq_singleton h.solid, h.ne_nil]

theorem tokens_token_append {w t : List Char} (hw : IsToken w) (ht : StartsApart t) :
    tokens (w ++ t) = w :: tokens t := by
  rw [tokens_append ht, hw.tokens_eq, List.singleton_append]

theorem tokens_of_all_blank {t : List Char} (h : ∀ c ∈ t, isBlank c = true) : tokens t = [] := by
  induction t with
  | nil => rfl
  | cons c t ih =>
    rw [tokens_cons (h c (by simp))]
    exact ih fun c hc => h c (by simp [hc])

theorem tokens_blank_append {a : List Char} (h : ∀ c ∈ a, isBlank c = true) (t : List Char) :
    tokens (a ++ t) = tokens t := by
  induction a with
  | nil => rfl
  | cons c a ih => rw [List.cons_append, tokens_cons (h c (by simp)), ih fun d hd => h d (by simp [hd])]

theorem startsApart_append {b : List Char} (h : ∀ c ∈ b, isBlank c = true) (hne : b ≠ []) (t : List Char) :
    StartsApart (b ++ t) := by
  obtain ⟨c, b, rfl⟩ := List.exists_cons_of_ne_nil hne
  exact .cons (h c (by simp))

/-- The tokens of a text that is a token and more, with blanks between and before. -/
theorem tokens_cons_of_blank {a w b t : List Char} (ha : ∀ c ∈ a, isBlank c = true) (hw : IsToken w)
    (hb : ∀ c ∈ b, isBlank c = true) (hne : b ≠ []) : tokens (a ++ w ++ b ++ t) = w :: tokens t := by
  rw [List.append_assoc, List.append_assoc, tokens_blank_append ha,
    tokens_token_append hw (startsApart_append hb hne t), tokens_blank_append hb]

theorem tokens_append_blank (t : List Char) {b : List Char} (h : ∀ c ∈ b, isBlank c = true) :
    tokens (t ++ b) = tokens t := by
  rw [tokens_append fun c hc => h c (List.mem_of_mem_head? hc), tokens_of_all_blank h, List.append_nil]

theorem startsApart_dropWhile (t : List Char) : StartsApart (t.dropWhile fun c => !isBlank c) := by
  intro c hc
  have := List.head?_dropWhile_not (fun c => !isBlank c) t
  simp_all

theorem isToken_takeWhile {c : Char} {t : List Char} (h : isBlank c = false) :
    IsToken ((c :: t).takeWhile fun c => !isBlank c) where
  ne_nil := by simp [h]
  solid := fun d hd => by simpa using List.mem_takeWhile_imp hd

/-- **A text by its tokens**: it is empty, or starts with a blank, or starts with a
token. -/
theorem tokens_induction {P : List Char → Prop} (nil : P [])
    (blank : ∀ c t, isBlank c = true → P t → P (c :: t))
    (token : ∀ w t, IsToken w → StartsApart t → P t → P (w ++ t)) (t : List Char) : P t := by
  match t with
  | [] => exact nil
  | c :: t =>
    by_cases hc : isBlank c = true
    · exact blank c t hc (tokens_induction nil blank token t)
    · simp only [Bool.not_eq_true] at hc
      have hlt : ((c :: t).dropWhile fun c => !isBlank c).length < (c :: t).length := by
        simp only [List.dropWhile_cons, hc, Bool.not_false, if_true, List.length_cons]
        exact Nat.lt_succ_of_le (List.length_dropWhile_le _ _)
      rw [← List.takeWhile_append_dropWhile (p := fun c => !isBlank c) (l := c :: t)]
      exact token _ _ (isToken_takeWhile hc) (startsApart_dropWhile _)
        (tokens_induction nil blank token _)
  termination_by t.length
  decreasing_by
    · exact Nat.lt_succ_self t.length
    · exact hlt

theorem tokens_eq_nil_iff {t : List Char} : tokens t = [] ↔ ∀ c ∈ t, isBlank c = true := by
  refine ⟨fun h => ?_, tokens_of_all_blank⟩
  induction t using tokens_induction with
  | nil => simp
  | blank c t hc ih =>
    rw [tokens_cons hc] at h
    simpa [hc] using ih h
  | token w t hw ht ih =>
    rw [tokens_token_append hw ht] at h
    exact absurd h (by simp)

/-- Where the first token of a text is. -/
theorem exists_of_tokens_eq_cons {t w : List Char} {ws : List (List Char)} (h : tokens t = w :: ws) :
    ∃ a r, (∀ c ∈ a, isBlank c = true) ∧ IsToken w ∧ StartsApart r ∧ t = a ++ w ++ r ∧ tokens r = ws := by
  induction t using tokens_induction with
  | nil => simp at h
  | blank c t hc ih =>
    rw [tokens_cons hc] at h
    obtain ⟨a, r, ha, hw, hr, rfl, hws⟩ := ih h
    exact ⟨c :: a, r, by simpa [hc] using ha, hw, hr, rfl, hws⟩
  | token v t hv ht ih =>
    rw [tokens_token_append hv ht] at h
    obtain ⟨rfl, hws⟩ := List.cons_eq_cons.1 h
    exact ⟨[], t, by simp, hv, ht, rfl, hws⟩

/-- Where a text goes on behind its first token, with blanks between. -/
theorem exists_of_tokens_eq_cons_cons {t w v : List Char} {ws : List (List Char)} (h : tokens t = w :: v :: ws) :
    ∃ a b r, (∀ c ∈ a, isBlank c = true) ∧ IsToken w ∧ (∀ c ∈ b, isBlank c = true) ∧ b ≠ [] ∧
      t = a ++ w ++ b ++ r ∧ tokens r = v :: ws := by
  obtain ⟨a, r, ha, hw, hr, rfl, hws⟩ := exists_of_tokens_eq_cons h
  obtain ⟨c, r, rfl⟩ : ∃ c r', r = c :: r' := by
    refine List.exists_cons_of_ne_nil ?_
    rintro rfl
    simp at hws
  have hc : isBlank c = true := hr c (by simp)
  refine ⟨a, [c], r, ha, hw, by simpa using hc, by simp, by simp, ?_⟩
  rw [← hws, tokens_cons hc]

/-- Without its blanks a text is its tokens end to end. -/
theorem squeeze_eq_flatten_tokens (t : List Char) : squeeze t = (tokens t).flatten := by
  induction t using tokens_induction with
  | nil => rfl
  | blank c t hc ih =>
    rw [tokens_cons hc, ← ih]
    simp [squeeze, hc]
  | token w t hw ht ih =>
    have hkeep : w.filter (fun c => !isBlank c) = w :=
      List.filter_eq_self.2 fun c hc => by rw [hw.solid c hc, Bool.not_false]
    rw [tokens_token_append hw ht, List.flatten_cons, ← ih, squeeze, List.filter_append, hkeep]
    rfl

/-! ## Trimming -/

theorem dropTrailing_eq_rdropWhile {α : Type} (p : α → Bool) (l : List α) :
    dropTrailing p l = l.rdropWhile p := by
  induction l with
  | nil => rfl
  | cons a l ih =>
    rw [dropTrailing, ih, List.rdropWhile, List.rdropWhile, List.reverse_cons, List.dropWhile_append]
    cases h : l.reverse.dropWhile p with
    | nil => by_cases ha : p a <;> simp [ha]
    | cons b r =>
      obtain ⟨d, s, hs⟩ := List.exists_cons_of_ne_nil (l := (b :: r).reverse) (by simp)
      rw [hs]
      simp [← hs]

theorem tokens_trimStart (t : List Char) : tokens (trimStart t) = tokens t := by
  induction t with
  | nil => rfl
  | cons c t ih =>
    by_cases hc : isBlank c = true
    · rw [tokens_cons hc, ← ih]
      simp [trimStart, hc]
    · simp [trimStart, hc]

theorem tokens_trimEnd (t : List Char) : tokens (trimEnd t) = tokens t := by
  induction t using List.reverseRecOn with
  | nil => rfl
  | append_singleton t c ih =>
    rw [trimEnd, dropTrailing_eq_rdropWhile] at ih ⊢
    by_cases hc : isBlank c = true
    · rw [List.rdropWhile_concat_pos _ _ _ hc, ih, tokens_append_cons hc]
      simp
    · rw [List.rdropWhile_concat_neg _ _ _ (by simpa using hc)]

@[simp] theorem tokens_trim (t : List Char) : tokens (trim t) = tokens t := by
  rw [trim, tokens_trimEnd, tokens_trimStart]

/-- A token at the end keeps a text from being trimmed there. -/
theorem trimEnd_append_token (s : List Char) {w : List Char} (hw : IsToken w) : trimEnd (s ++ w) = s ++ w := by
  rw [trimEnd, dropTrailing_eq_rdropWhile, List.rdropWhile_eq_self_iff]
  intro hne
  rw [List.getLast_append_of_ne_nil hne hw.ne_nil, hw.solid _ (List.getLast_mem hw.ne_nil)]
  exact Bool.false_ne_true

theorem trimEnd_eq_nil_iff {t : List Char} : trimEnd t = [] ↔ ∀ c ∈ t, isBlank c = true := by
  rw [trimEnd, dropTrailing_eq_rdropWhile, List.rdropWhile_eq_nil_iff]

/-- Trimming stops in what is left at the end. -/
theorem trimEnd_append (s : List Char) {t : List Char} (h : trimEnd t ≠ []) : trimEnd (s ++ t) = s ++ trimEnd t := by
  induction s with
  | nil => rfl
  | cons c s ih =>
    obtain ⟨d, r, hr⟩ := List.exists_cons_of_ne_nil (List.append_ne_nil_of_right_ne_nil s h)
    rw [trimEnd] at ih ⊢
    rw [List.cons_append, dropTrailing, ih, List.cons_append, hr]

/-- Neither end of `t` is a blank. -/
structure IsTrimmed (t : List Char) : Prop where
  first : ∀ c ∈ t.head?, isBlank c = false
  last : ∀ c ∈ t.getLast?, isBlank c = false

theorem IsToken.isTrimmed {w : List Char} (h : IsToken w) : IsTrimmed w where
  first := fun c hc => h.solid c (List.mem_of_mem_head? hc)
  last := fun c hc => h.solid c (List.mem_of_getLast? hc)

theorem IsTrimmed.append {s t : List Char} (hs : IsTrimmed s) (ht : IsTrimmed t) (hsne : s ≠ []) (htne : t ≠ [])
    (b : List Char) : IsTrimmed (s ++ b ++ t) where
  first := fun c hc => by
    rw [List.append_assoc, List.head?_append_of_ne_nil _ hsne] at hc
    exact hs.first c hc
  last := fun c hc => by
    rw [List.getLast?_append_of_ne_nil _ htne] at hc
    exact ht.last c hc

theorem isTrimmed_trim (t : List Char) : IsTrimmed (trim t) := by
  rw [trim, trimEnd, dropTrailing_eq_rdropWhile]
  refine ⟨fun c hc => ?_, fun c hc => ?_⟩
  · obtain ⟨r, hr⟩ := List.rdropWhile_prefix isBlank (trimStart t)
    have hstart : (trimStart t).head? = some c := by
      rw [← hr, List.head?_append, Option.mem_def.1 hc, Option.some_or]
    have := List.head?_dropWhile_not isBlank t
    simp_all [trimStart]
  · obtain ⟨hne, rfl⟩ := List.mem_getLast?_eq_getLast hc
    simpa using List.rdropWhile_last_not isBlank (trimStart t) hne

/-- A text is what trimming leaves of it with blanks around. -/
theorem exists_eq_append_trim (t : List Char) :
    ∃ a b, (∀ c ∈ a, isBlank c = true) ∧ (∀ c ∈ b, isBlank c = true) ∧ t = a ++ trim t ++ b := by
  refine ⟨t.takeWhile isBlank, (trimStart t).rtakeWhile isBlank, fun c hc => List.mem_takeWhile_imp hc,
    fun c hc => List.mem_rtakeWhile_imp hc, ?_⟩
  rw [trim, trimEnd, dropTrailing_eq_rdropWhile, List.append_assoc, List.rdropWhile_append_rtakeWhile, trimStart,
    List.takeWhile_append_dropWhile]

/-- What is left of a trimmed text from some place on has a token, unless nothing is
left. -/
theorem IsTrimmed.tokens_suffix_ne_nil {t r : List Char} (h : IsTrimmed t) (hr : r <:+ t) (hne : r ≠ []) :
    tokens r ≠ [] := by
  rw [Ne, tokens_eq_nil_iff]
  intro hall
  have hlast : r.getLast hne ∈ t.getLast? := by
    rw [hr.getLast hne]
    exact List.getLast_mem_getLast? _
  have := h.last _ hlast
  rw [hall _ (List.getLast_mem hne)] at this
  exact absurd this (by simp)

/-- Trimming leaves nothing of a text exactly if it is all blank. -/
theorem trim_eq_nil_iff {t : List Char} : trim t = [] ↔ ∀ c ∈ t, isBlank c = true := by
  rw [← tokens_eq_nil_iff, ← tokens_trim]
  refine ⟨fun h => by rw [h, tokens_nil], fun h => ?_⟩
  by_contra hne
  exact (isTrimmed_trim t).tokens_suffix_ne_nil List.suffix_rfl hne h

/-- Trimming takes off the blanks around a trimmed text. -/
theorem IsTrimmed.trim_eq {a t b : List Char} (h : IsTrimmed t) (ha : ∀ c ∈ a, isBlank c = true)
    (hb : ∀ c ∈ b, isBlank c = true) : trim (a ++ t ++ b) = t := by
  cases t with
  | nil =>
    rw [trim_eq_nil_iff]
    simp only [List.append_nil, List.mem_append]
    rintro c (hc | hc)
    · exact ha c hc
    · exact hb c hc
  | cons c t =>
    have hstart : trimStart (a ++ (c :: t) ++ b) = (c :: t) ++ b := by
      rw [trimStart, List.append_assoc, List.dropWhile_append_of_pos ha, List.cons_append,
        List.dropWhile_cons_of_neg (by simp [h.first c (by simp)])]
    have hlast : (c :: t).rdropWhile isBlank = c :: t := by
      rw [List.rdropWhile_eq_self_iff]
      intro hne
      simp [h.last _ (List.getLast_mem_getLast? hne)]
    rw [trim, hstart, trimEnd, dropTrailing_eq_rdropWhile, List.rdropWhile, List.reverse_append,
      List.dropWhile_append_of_pos fun d hd => hb d (List.mem_reverse.1 hd)]
    exact hlast

end DecoderBench.Text
