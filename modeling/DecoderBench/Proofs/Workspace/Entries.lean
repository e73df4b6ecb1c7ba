/-
What is where after an entry was put at a location: that entry, and everywhere
else what was there before (`get?_put_other`), but for other names of the same
file. A directory has no other name (`get?_put_directory`), and neither has a file
with a new number (`isSame_fresh`).
-/
import DecoderBench.Proofs.Lookup
import DecoderBench.Workspace.Entries

namespace DecoderBench.Workspace

variable {w : Workspace} {l l' : Location} {e : Entry}

/-! ## Putting an entry -/

@[simp] theorem get?_root (w : Workspace) : w.get? [] = some .directory := rfl

theorem get?_of_ne_nil (h : l ≠ []) : w.get? l = w.entries.lookup l := by
  rw [get?, if_neg (by simpa using h)]

theorem get?_renew (w : Workspace) (e : Entry) (l : Location) :
    (w.renew e).get? l = (w.get? l).map fun x => if x.isSame e then e else x := by
  by_cases hl : l = []
  · subst hl
    rfl
  · have hvalue : (w.renew e).entries = w.entries.map fun x => (x.1, if x.2.isSame e then e else x.2) := by
      refine congrArg (List.map · w.entries) (funext fun x => ?_)
      split <;> rfl
    rw [get?_of_ne_nil hl, get?_of_ne_nil hl, hvalue]
    exact lookup_map_value (fun x => if x.isSame e then e else x) w.entries l

theorem get?_put_self (w : Workspace) (e : Entry) (h : l ≠ []) : (w.put l e).get? l = some e := by
  rw [get?_of_ne_nil h, put]
  split
  · rename_i hsome
    rw [lookup_map_put_self]
    obtain ⟨x, hx⟩ := Option.isSome_iff_exists.1 hsome
    rw [hx, Option.map_some]
  · rename_i hnone
    rw [Option.not_isSome_iff_eq_none] at hnone
    rw [List.lookup_append, hnone, Option.none_or, List.lookup_cons_self]

theorem get?_put_other (w : Workspace) (e : Entry) (h : l' ≠ l) :
    (w.put l e).get? l' = (w.get? l').map fun x => if x.isSame e then e else x := by
  rw [← get?_renew]
  by_cases hl : l' = []
  · subst hl
    rfl
  rw [get?_of_ne_nil hl, get?_of_ne_nil hl, put]
  split
  · rw [lookup_map_put_other h]
  · have hl' : (l' == l) = false := by simpa using h
    rw [List.lookup_append, List.lookup_cons, hl', List.lookup_nil, Option.or_none]

@[simp] theorem directory_put (w : Workspace) (l : Location) (e : Entry) : (w.put l e).directory = w.directory := by
  rw [put]
  split <;> rfl

@[simp] theorem nameless_put (w : Workspace) (l : Location) (e : Entry) :
    (w.put l e).nameless = w.nameless.map fun x => if x.isSame e then e else x := by
  rw [put]
  split <;> rfl

/-! ## Entries of their own -/

/-- A directory has no number. -/
@[simp] theorem isSame_directory (x : Entry) : x.isSame .directory = false := by
  cases x <;> rfl

theorem get?_put_directory (w : Workspace) (h : l' ≠ l) : (w.put l .directory).get? l' = w.get? l' := by
  rw [get?_put_other w .directory h]
  simp

theorem nameless_put_directory (w : Workspace) (l : Location) : (w.put l .directory).nameless = w.nameless := by
  simp

theorem mem_of_get? (h : w.get? l = some e) (hl : l ≠ []) : e ∈ w.entries.map (·.2) := by
  rw [get?_of_ne_nil hl] at h
  exact List.mem_map_of_mem (mem_of_lookup h)

theorem lt_foldl_number (es : List Entry) (k : Nat) {n : Nat} (h : n < k ∨ ∃ e ∈ es, e.number? = some n) :
    n < es.foldl (fun n e => max n (e.number?.getD 0 + 1)) k := by
  induction es generalizing k with
  | nil => simpa using h
  | cons e es ih =>
    refine ih _ ?_
    rcases h with h | ⟨f, hf, hn⟩
    · exact .inl (Nat.lt_of_lt_of_le h (Nat.le_max_left ..))
    · rcases List.mem_cons.1 hf with rfl | hf
      · refine .inl (Nat.lt_of_lt_of_le ?_ (Nat.le_max_right ..))
        simp [hn]
      · exact .inr ⟨f, hf, hn⟩

/-- A number that no file has makes a file none of those that are there. -/
theorem isSame_fresh {x : Entry} (h : x ∈ w.entries.map (·.2) ++ w.nameless) (content : List UInt8) (mode : Mode) :
    x.isSame (.file w.fresh content mode) = false := by
  rw [Entry.isSame, Entry.number?]
  cases hn : x.number? with
  | none => rfl
  | some n =>
    have hlt : n < w.fresh := lt_foldl_number _ 0 (.inr ⟨x, h, hn⟩)
    simpa using Nat.ne_of_lt hlt

end DecoderBench.Workspace
