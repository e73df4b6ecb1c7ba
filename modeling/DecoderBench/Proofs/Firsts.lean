/-
The elements of a list whose keys did not occur before: no key is left twice, and the
keys that are left are those of the list, each at its first place
(`map_firstsBy`).
-/
import DecoderBench.Plan
import Mathlib.Data.List.Nodup

namespace DecoderBench

variable {α : Type} (key : α → String)

theorem firstsBy_go_spec (seen : List String) (l : List α) :
    ((firstsBy.go key seen l).map key).Nodup ∧ ∀ a ∈ firstsBy.go key seen l, key a ∉ seen := by
  fun_induction firstsBy.go key seen l with
  | case1 seen => simp
  | case2 seen a l h ih => exact ih
  | case3 seen a l h ih =>
    obtain ⟨hnodup, hseen⟩ := ih
    refine ⟨?_, ?_⟩
    · rw [List.map_cons, List.nodup_cons]
      refine ⟨fun hmem => ?_, hnodup⟩
      obtain ⟨b, hb, hkey⟩ := List.mem_map.1 hmem
      exact hseen b hb (by simp [hkey])
    · intro b hb
      rcases List.mem_cons.1 hb with rfl | hb
      · exact h
      · exact fun hmem => hseen b hb (List.mem_cons_of_mem _ hmem)

theorem nodup_map_firstsBy (l : List α) : ((firstsBy key l).map key).Nodup :=
  (firstsBy_go_spec key [] l).1

theorem map_firstsBy_go (seen : List String) (l : List α) :
    (firstsBy.go key seen l).map key = ((l.map key).filter fun k => k ∉ seen).eraseDups := by
  fun_induction firstsBy.go key seen l with
  | case1 seen => rfl
  | case2 seen a l h ih => rw [ih, List.map_cons, List.filter_cons_of_neg (by simpa using h)]
  | case3 seen a l h ih =>
    rw [List.map_cons, ih, List.map_cons, List.filter_cons_of_pos (by simpa using h), List.eraseDups_cons,
      List.filter_filter]
    refine congrArg (fun p : String → Bool => key a :: ((l.map key).filter p).eraseDups) (funext fun k => ?_)
    by_cases hk : k = key a <;> simp [hk]

/-- The keys that are left are those of the list, each at its first place. -/
theorem map_firstsBy (l : List α) : (firstsBy key l).map key = (l.map key).eraseDups := by
  rw [firstsBy, map_firstsBy_go]
  simp

end DecoderBench
