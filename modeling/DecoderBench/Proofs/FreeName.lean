/-
The search for a free name, offer by offer. The names of a base are offered one after the
other, the base itself first, and each offer puts its name among those that are taken. With
one offer more than there are taken names, at most, the search gets to the name that `fresh`
computes. That is the first free one, and the only one that the search adds
(`search_finds_fresh`).

`Search.step` is one offer; `Search.iterate_step` follows the search as long as the names are
taken, and `le_card_of_numbered_mem` says how long that can be.
-/
import DecoderBench.Proofs.Numbering
import Mathlib.Order.Interval.Finset.Nat

namespace DecoderBench

namespace Identifier

/-! ## The least free name -/

/-- A name is fresh because those before it are taken. -/
theorem exists_fresh_eq_numbered (base : String) (taken : List String) :
    ∃ n, 1 ≤ n ∧ fresh base taken = numbered base n ∧ ∀ j, 1 ≤ j → j < n → numbered base j ∈ taken := by
  unfold fresh
  split
  · rename_i hbase
    have htwo := le_freeNumber base taken 2
    refine ⟨freeNumber base taken 2, by omega, by rw [numbered, if_neg (by omega)], fun j hj hlt => ?_⟩
    unfold numbered
    split
    · exact hbase
    · exact mem_of_lt_freeNumber (by omega) hlt
  · exact ⟨1, le_rfl, by rw [numbered, if_pos rfl], fun j hj hlt => by omega⟩

theorem isLeast_freeNumber (base : String) (taken : List String) :
    IsLeast {k | 2 ≤ k ∧ base ++ toString k ∉ taken} (freeNumber base taken 2) := by
  refine ⟨⟨le_freeNumber base taken 2, freeNumber_not_mem base taken 2⟩, fun k hk => Nat.not_lt.1 fun hlt => ?_⟩
  exact hk.2 (mem_of_lt_freeNumber hk.1 hlt)

/-- The names of one base are all different, so no more of them are taken than there are names. -/
theorem le_card_of_numbered_mem {base : String} {taken : Finset String} {n : Nat}
    (h : ∀ j, 1 ≤ j → j ≤ n → numbered base j ∈ taken) : n ≤ taken.card := by
  have hcard := Finset.card_le_card_of_injOn (s := Finset.Icc 1 n) (numbered base)
    (fun j hj => h j (Finset.mem_Icc.1 hj).1 (Finset.mem_Icc.1 hj).2) (numbered_injective base).injOn
  simpa using hcard

/-! ## Offers -/

/-- The largest number that can stand behind a base: numbers have 32 bits, one of them for
the sign. -/
def largestNumber : Nat := 2 ^ 31 - 1

/-- How far a search has come, with the names that are taken by then. -/
inductive Search
  /-- The `n`th name of the base is offered next. -/
  | offering (n : Nat) (taken : Finset String)
  /-- A name was found. -/
  | found (name : String) (taken : Finset String)
  /-- There is no number left. -/
  | exhausted (taken : Finset String)
  deriving DecidableEq

namespace Search

/-- One offer. The name is put among the taken ones. If it was not there before, it is found;
otherwise the next number is tried. -/
def step (base : String) : Search → Search
  | offering n taken =>
    let name := numbered base n
    if name ∉ taken then found name (insert name taken)
    else if n < largestNumber then offering (n + 1) (insert name taken)
    else exhausted (insert name taken)
  | s => s

variable {base : String} {taken : Finset String} {n : Nat}

theorem step_of_not_mem (h : numbered base n ∉ taken) :
    (offering n taken).step base = found (numbered base n) (insert (numbered base n) taken) := by
  simp only [step, if_pos h]

/-- An offer of a taken name leaves the taken names as they are. -/
theorem step_of_mem (h : numbered base n ∈ taken) (hn : n < largestNumber) :
    (offering n taken).step base = offering (n + 1) taken := by
  simp only [step, not_not.2 h, if_false, if_pos hn, Finset.insert_eq_of_mem h]

/-- As long as the names are taken, the search goes on. -/
theorem iterate_step (h : ∀ j, 1 ≤ j → j < n → numbered base j ∈ taken) (hn : n ≤ largestNumber) {i : Nat}
    (hi : i < n) : (step base)^[i] (offering 1 taken) = offering (i + 1) taken := by
  induction i with
  | zero => rfl
  | succ i ih =>
    rw [Function.iterate_succ_apply', ih (by omega)]
    exact step_of_mem (h (i + 1) (by omega) hi) (by omega)

/-- The search ends with the fresh name, which is the only one it adds. -/
theorem exists_iterate_step_eq_found {taken : List String} (h : taken.toFinset.card < largestNumber) :
    ∃ offers ≤ taken.toFinset.card + 1,
      (∀ i < offers, (step base)^[i] (offering 1 taken.toFinset) = offering (i + 1) taken.toFinset) ∧
      (step base)^[offers] (offering 1 taken.toFinset) =
        found (fresh base taken) (insert (fresh base taken) taken.toFinset) := by
  obtain ⟨n, hn, hfresh, hbefore⟩ := exists_fresh_eq_numbered base taken
  have hfree : numbered base n ∉ taken.toFinset := by
    rw [List.mem_toFinset, ← hfresh]
    exact fresh_not_mem base taken
  have htaken : ∀ j, 1 ≤ j → j < n → numbered base j ∈ taken.toFinset :=
    fun j hj hlt => List.mem_toFinset.2 (hbefore j hj hlt)
  have hcount : n - 1 ≤ taken.toFinset.card :=
    le_card_of_numbered_mem fun j hj hle => htaken j hj (by omega)
  obtain ⟨i, rfl⟩ : ∃ i, n = i + 1 := ⟨n - 1, by omega⟩
  refine ⟨i + 1, by omega, fun j hj => iterate_step htaken (by omega) hj, ?_⟩
  rw [Function.iterate_succ_apply', iterate_step htaken (by omega) (Nat.lt_succ_self i), step_of_not_mem hfree,
    hfresh]

end Search

/-! ## The name that the search finds -/

/-- **The search for a free name ends, with the least one.** Let fewer than 2 ^ 31 - 2 names be
taken. The fresh name of a base is none of them: it is the base itself if that is free, and
otherwise the base with the least number from two on that makes a free name. The search gets to
it with one offer more than there are taken names, at most. The offers before the last leave the
taken names as they are, and the last adds the fresh name and nothing else. So does a table of
decoders that gets a case. -/
theorem search_finds_fresh (base : String) (taken : List String) (h : taken.toFinset.card < 2 ^ 31 - 2) :
    fresh base taken ∉ taken ∧
    (if base ∈ taken then
      ∃ k, IsLeast {k | 2 ≤ k ∧ base ++ toString k ∉ taken} k ∧ fresh base taken = base ++ toString k
    else fresh base taken = base) ∧
    (∃ offers ≤ taken.toFinset.card + 1,
      (∀ i < offers, (Search.step base)^[i] (.offering 1 taken.toFinset) = .offering (i + 1) taken.toFinset) ∧
      (Search.step base)^[offers] (.offering 1 taken.toFinset) =
        .found (fresh base taken) (insert (fresh base taken) taken.toFinset)) ∧
    ∀ (classifier : Classifier) (t : DecoderTable) (p : Pairing), (t.add classifier p).taken =
      if (t.cases.lookup p.key).isSome then t.taken else t.taken ++ [fresh p.decoder.payloadName t.taken] := by
  have hnumbers : taken.toFinset.card < largestNumber := by
    unfold largestNumber
    omega
  refine ⟨fresh_not_mem base taken, ?_, Search.exists_iterate_step_eq_found hnumbers,
    DecoderTable.taken_add⟩
  split
  · rename_i hbase
    exact ⟨freeNumber base taken 2, isLeast_freeNumber base taken, by rw [fresh, if_pos hbase]⟩
  · rename_i hbase
    rw [fresh, if_neg hbase]

/-- Names that look like numbered ones, one of them twice and one of them above a gap. -/
theorem search_finds_fresh_gap :
    let taken := ["IntPayload3", "IntPayload", "IntPayload2", "IntPayload5", "IntPayload2"]
    taken.toFinset.card < 2 ^ 31 - 2 ∧ fresh "IntPayload" taken = "IntPayload4" ∧ "IntPayload4" ∉ taken := by
  intro taken
  have hcard : taken.toFinset.card < 2 ^ 31 - 2 :=
    Nat.lt_of_le_of_lt (List.toFinset_card_le taken) (by decide)
  have hfresh : fresh "IntPayload" taken = "IntPayload4" := by decide +kernel
  refine ⟨hcard, hfresh, ?_⟩
  rw [← hfresh]
  exact (search_finds_fresh "IntPayload" taken hcard).1

end Identifier
end DecoderBench
