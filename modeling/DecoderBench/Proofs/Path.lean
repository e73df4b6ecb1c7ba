/-
The steps of joined paths: first those of the path on the left, then those of the
path on the right, unless that one starts anew (`components_join`).
-/
import DecoderBench.Path

namespace DecoderBench

/-- No piece of a list that is cut at some elements holds one of them. -/
theorem not_of_mem_splitOnP {α : Type} {p : α → Bool} {t w : List α} (hw : w ∈ t.splitOnP p) {c : α}
    (hc : c ∈ w) : p c = false := by
  induction t generalizing w with
  | nil => simp_all [List.splitOnP_nil]
  | cons d t ih =>
    obtain ⟨q, qs, hqs⟩ := List.exists_cons_of_ne_nil (List.splitOnP_ne_nil p t)
    rw [List.splitOnP_cons_eq_if_modifyHead, hqs] at hw
    by_cases hd : p d = true
    · rw [if_pos hd, ← hqs, List.mem_cons] at hw
      rcases hw with rfl | hw
      · simp at hc
      · exact ih hw hc
    · rw [if_neg hd, List.modifyHead_cons, List.mem_cons] at hw
      rcases hw with rfl | hw
      · rcases List.mem_cons.1 hc with rfl | hc
        · simpa using hd
        · exact ih (by simp [hqs]) hc
      · exact ih (by simp [hqs, hw]) hc

namespace Path

/-- The steps that the parts of a text stand for. -/
def steps (t : List Char) : List Component := ((parts t).filter fun part => !isVoid part).map componentOf

theorem slash_not_mem_of_mem_parts {t w : List Char} (hw : w ∈ parts t) : '/' ∉ w := by
  rw [parts, List.splitOn_eq_splitOnP] at hw
  intro hslash
  have hcut := not_of_mem_splitOnP hw hslash
  contradiction

/-- What is put to the end of a text is put to its last part. -/
theorem parts_append {t e : List Char} (he : '/' ∉ e) :
    parts (t ++ e) = (parts t).dropLast ++ [(parts t).getLastD [] ++ e] := by
  unfold parts
  induction t with
  | nil => exact List.splitOn_eq_singleton he
  | cons c t ih =>
    obtain ⟨p, ps, hps⟩ := List.exists_cons_of_ne_nil (List.splitOn_ne_nil '/' t)
    rw [List.cons_append, List.splitOn_cons_eq_if_modifyHead, List.splitOn_cons_eq_if_modifyHead, ih, hps]
    by_cases hc : (c == '/') = true
    · rw [if_pos hc, if_pos hc]
      rfl
    · rw [if_neg hc, if_neg hc]
      cases ps <;> rfl

theorem isVoid_eq_isEmpty {w : List Char} (h : w ≠ ['.']) : isVoid w = w.isEmpty := by
  cases w <;> simp_all [isVoid]

theorem componentOf_eq_named {w : List Char} (h : w ≠ ['.', '.']) : componentOf w = .named (String.ofList w) := by
  simp [componentOf, h]

theorem components_eq (p : Path) : p.components = p.split.1.components ++ steps p.split.2 := rfl

@[simp] theorem steps_nil : steps [] = [] := rfl

theorem steps_append_slash (s t : List Char) : steps (s ++ '/' :: t) = steps s ++ steps t := by
  rw [steps, parts, List.splitOn_append_cons_self, List.filter_append, List.map_append]
  rfl

@[simp] theorem steps_slash (t : List Char) : steps ('/' :: t) = steps t := steps_append_slash [] t

/-! ## Starts -/

/-- A text that starts neither with a slash nor with the part `.`. -/
structure IsBare (t : List Char) : Prop where
  slash : ∀ r, t ≠ '/' :: r
  dot : t ≠ ['.']
  here : ∀ r, t ≠ '.' :: '/' :: r

theorem start_cases (t : List Char) :
    (∃ r, t = '/' :: r) ∨ t = ['.'] ∨ (∃ r, t = '.' :: '/' :: r) ∨ IsBare t := by
  by_cases hslash : ∃ r, t = '/' :: r
  · exact .inl hslash
  by_cases hdot : t = ['.']
  · exact .inr (.inl hdot)
  by_cases hhere : ∃ r, t = '.' :: '/' :: r
  · exact .inr (.inr (.inl hhere))
  · exact .inr (.inr (.inr ⟨not_exists.1 hslash, hdot, not_exists.1 hhere⟩))

theorem IsBare.append_slash {s : List Char} (h : IsBare s) (hne : s ≠ []) (t : List Char) :
    IsBare (s ++ '/' :: t) := by
  obtain ⟨c, s, rfl⟩ := List.exists_cons_of_ne_nil hne
  have hslash := h.slash s
  have hdot := h.dot
  have hhere := h.here
  refine ⟨?_, ?_, ?_⟩
  · simp_all
  · simp
  · cases s <;> simp_all

variable {p q : Path}

theorem split_eq_root {t : List Char} (h : p.text.toList = '/' :: t) : p.split = (.root, t) := by
  simp only [split, h]

theorem split_eq_here {t : List Char} (h : p.text.toList = '.' :: '/' :: t) : p.split = (.here, '/' :: t) := by
  simp only [split, h]

theorem split_eq_dot (h : p.text.toList = ['.']) : p.split = (.here, []) := by
  simp only [split, h]

theorem split_eq_bare (h : IsBare p.text.toList) : p.split = (.bare, p.text.toList) := by
  obtain ⟨hslash, hdot, hhere⟩ := h
  unfold split
  split <;> simp_all

/-! ## Joining -/

theorem join_of_isAbsolute (h : q.isAbsolute = true) : p.join q = q := by rw [join, if_pos h]

theorem join_of_root {t : List Char} (h : q.text.toList = '/' :: t) : p.join q = q := by
  refine join_of_isAbsolute ?_
  rw [isAbsolute, split_eq_root h]
  rfl

/-- What follows a slash only adds steps, unless the slash is the start. -/
theorem components_of_append_slash {s t : List Char} (hs : s ≠ []) (hp : p.text.toList = s)
    (hq : q.text.toList = s ++ '/' :: t) : q.components = p.components ++ steps t := by
  rw [components_eq, components_eq]
  rcases start_cases s with ⟨r, rfl⟩ | rfl | ⟨r, rfl⟩ | hbare
  · rw [split_eq_root hp, split_eq_root hq, List.append_eq, steps_append_slash, List.append_assoc]
  · rw [split_eq_dot hp, split_eq_here hq, steps_slash]
    rfl
  · rw [split_eq_here hp, split_eq_here hq, List.append_eq, steps_slash, steps_slash, steps_append_slash,
      List.append_assoc]
  · subst hp
    have hq' := hbare.append_slash hs t
    rw [← hq] at hq'
    rw [split_eq_bare hbare, split_eq_bare hq', hq, steps_append_slash]
    rfl

theorem components_of_root {t : List Char} (h : p.text.toList = '/' :: t) :
    p.components = .root :: steps p.text.toList := by
  rw [components_eq, split_eq_root h, h, steps_slash]
  rfl

theorem components_of_isBare (h : IsBare p.text.toList) : p.components = steps p.text.toList := by
  rw [components_eq, split_eq_bare h]
  rfl

/-- A text that goes on behind a slash at its end. -/
theorem components_of_append {s t : List Char} (hp : p.text.toList = s ++ ['/'])
    (hq : q.text.toList = s ++ '/' :: t) : q.components = p.components ++ steps t := by
  by_cases hs : s = []
  · subst hs
    rw [components_eq, components_eq, split_eq_root hp, split_eq_root hq]
    rfl
  · have hbefore : (⟨String.ofList s⟩ : Path).text.toList = s := String.toList_ofList
    rw [components_of_append_slash hs hbefore hp, components_of_append_slash hs hbefore hq, steps_nil,
      List.append_nil]

/-- What is not absolute is put behind the steps of a path. -/
theorem components_join_of_relative (hne : p.text.toList ≠ []) (h : q.isAbsolute = false) :
    (p.join q).components = p.components ++ steps q.text.toList := by
  rw [join, h, if_neg Bool.false_ne_true]
  cases hlast : p.text.toList.getLast? with
  | none => exact absurd (List.getLast?_eq_none_iff.1 hlast) hne
  | some c =>
    obtain ⟨s, hs⟩ := List.getLast?_eq_some_iff.1 hlast
    by_cases hc : c = '/'
    · subst hc
      exact components_of_append hs (by simp [hs])
    · simp only [beq_iff_eq, hc, if_false]
      exact components_of_append_slash hne rfl (by simp)

/-- **The steps of a joined path** are those of its two parts. -/
theorem components_join (h : IsBare q.text.toList) : (p.join q).components = p.components ++ q.components := by
  have hrelative : q.isAbsolute = false := by
    rw [isAbsolute, split_eq_bare h]
    rfl
  rw [components_of_isBare h]
  by_cases hne : p.text.toList = []
  · have hbare : IsBare p.text.toList := by
      rw [hne]
      exact ⟨by simp, by simp, by simp⟩
    rw [join, hrelative, if_neg Bool.false_ne_true, hne, List.getLast?_nil, components_of_isBare hbare, hne,
      steps_nil, components_of_isBare h, List.nil_append]
  · exact components_join_of_relative hne hrelative

end Path
end DecoderBench
