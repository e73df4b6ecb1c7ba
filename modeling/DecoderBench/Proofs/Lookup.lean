/-
Look-ups in lists of pairs, and in such lists after their values changed.
-/
import Mathlib.Data.List.Basic

namespace DecoderBench

variable {α β γ : Type} [BEq α]

/-- If each value changes in the same way, so does the value that is found. -/
theorem lookup_map_value (f : β → γ) (l : List (α × β)) (k : α) :
    (l.map fun x => (x.1, f x.2)).lookup k = (l.lookup k).map f := by
  induction l with
  | nil => rfl
  | cons x l ih =>
    rw [List.map_cons, List.lookup_cons, List.lookup_cons]
    cases hk : k == x.1 with
    | true => rfl
    | false => exact ih

variable [LawfulBEq α]

theorem mem_of_lookup {l : List (α × β)} {k : α} {v : β} (h : l.lookup k = some v) : (k, v) ∈ l := by
  obtain ⟨before, after, hl, -⟩ := List.lookup_eq_some_iff.1 h
  simp [hl]

/-- A value is put in the place of those that a key has. -/
theorem lookup_map_put_self (l : List (α × β)) (k : α) (v : β) :
    (l.map fun x => if x.1 == k then (k, v) else x).lookup k = (l.lookup k).map fun _ => v := by
  induction l with
  | nil => rfl
  | cons x l ih =>
    rw [List.map_cons, List.lookup_cons, List.lookup_cons]
    by_cases hk : k = x.1
    · subst hk
      simp
    · have hk' : (k == x.1) = false := by simpa using hk
      have hx : (x.1 == k) = false := by simpa using Ne.symm hk
      rw [hk', hx, if_neg Bool.false_ne_true, hk']
      exact ih

theorem lookup_map_put_other {l : List (α × β)} {k k' : α} (h : k' ≠ k) (v : β) :
    (l.map fun x => if x.1 == k then (k, v) else x).lookup k' = l.lookup k' := by
  induction l with
  | nil => rfl
  | cons x l ih =>
    rw [List.map_cons, List.lookup_cons, List.lookup_cons, ih]
    by_cases hx : x.1 = k
    · have hk' : (k' == k) = false := by simpa using h
      simp [hx, hk']
    · have hx' : (x.1 == k) = false := by simpa using hx
      rw [hx', if_neg Bool.false_ne_true]

end DecoderBench
