/-
The plan of a program. It reads the references of the pairings and nothing else
of their modules, so it is the same whether pairing saw all signatures or only
decoders and simple views (`plan_eq_of_pair`): classifying, pairing and writing
stage by stage gives what one step gives (`generate_eq_assemble`).

`rows_plan` says which case each decoder's row names, and `knownViews_plan` which
views are known.
-/
import DecoderBench.PairedProgram
import DecoderBench.Proofs.DecoderTable
import DecoderBench.Proofs.Pairing

namespace DecoderBench

variable {classifier : Classifier}

namespace DecoderTable

theorem add_restrict (t : DecoderTable) (p : Pairing) :
    t.add classifier (p.restrict classifier) = t.add classifier p := by
  have hrow : rowOf (p.restrict classifier) = rowOf p := by
    funext name
    simp [rowOf]
  have hcase : newCase classifier t (p.restrict classifier) = newCase classifier t p := by
    simp [newCase]
  simp only [add, hrow, hcase, Pairing.decoder_restrict]

/-- A table does not tell whether the modules of the pairings were reduced. -/
theorem of_map_restrict (ps : List Pairing) :
    of classifier (ps.map (Pairing.restrict classifier)) = of classifier ps := by
  rw [of, List.foldl_map]
  simp only [add_restrict]
  rfl

end DecoderTable

namespace PairedProgram

/-- The plan of a paired program. -/
def plan (p : PairedProgram) (classifier : Classifier) : Plan := .of classifier p.modules p.pairings

theorem generate_eq_render (p : PairedProgram) (classifier : Classifier) (name : String) :
    p.generate classifier name = Program.render (p.plan classifier) name := rfl

theorem pairings_of (classifier : Classifier) (modules : List Module) :
    (of classifier modules).pairings = (pair classifier modules).map (Pairing.restrict classifier) :=
  pair_classify modules

/-- The plan of a program, from the pairings of all its signatures. -/
theorem plan_eq_of_pair (classifier : Classifier) (modules : List Module) :
    (of classifier modules).plan classifier =
      .of classifier (classify classifier modules) (pair classifier modules) := by
  rw [plan, pairings_of, Plan.of, DecoderTable.of_map_restrict]
  rfl

/-- **Stage by stage or in one step**: the generated module is the same, and the
pairings differ in their modules only, which the stages reduce to decoders and
simple views. -/
theorem generate_eq_assemble (classifier : Classifier) (modules : List Module) (name : String) :
    (of classifier modules).generate classifier name = Program.assemble classifier name modules ∧
      (of classifier modules).pairings = (pair classifier modules).map (Pairing.restrict classifier) := by
  refine ⟨?_, pairings_of classifier modules⟩
  rw [generate_eq_render, plan_eq_of_pair, Program.assemble]

/-! ## Cases and rows of a program's plan -/

section

variable (classifier) (modules : List Module)

theorem decodedCases_plan : ((of classifier modules).plan classifier).decodedCases =
    (DecoderTable.of classifier (pair classifier modules)).cases.map (·.2) := by
  rw [plan_eq_of_pair]
  rfl

theorem decoderRows_plan : ((of classifier modules).plan classifier).decoderRows =
    (DecoderTable.of classifier (pair classifier modules)).rows := by
  rw [plan_eq_of_pair]
  rfl

theorem map_rows_plan {α : Type} {f : DecoderRow → α} {g : Pairing → α}
    (h : ∀ p constructor, f (DecoderTable.rowOf p constructor) = g p) :
    ((of classifier modules).plan classifier).decoderRows.map f = (pair classifier modules).map g := by
  rw [decoderRows_plan, DecoderTable.map_rows_of h]

/-- No two cases have one constructor. -/
theorem nodup_names_plan :
    (((of classifier modules).plan classifier).decodedCases.map (·.name)).Nodup := by
  rw [decodedCases_plan, List.map_map]
  exact (DecoderTable.tells_of classifier (pair classifier modules)).names

/-- Each case was made for some decoder. -/
theorem exists_madeFor_plan {d : DecodedCase}
    (h : d ∈ ((of classifier modules).plan classifier).decodedCases) :
    ∃ p ∈ pair classifier modules, p.MadeFor classifier d := by
  have ht := DecoderTable.tells_of classifier (pair classifier modules)
  rw [decodedCases_plan] at h
  obtain ⟨⟨k, d⟩, hc, rfl⟩ := List.mem_map.1 h
  obtain ⟨p, hp, hmade⟩ := ht.exists_madeFor (ht.lookup_of_mem hc)
  exact ⟨p, List.mem_of_find?_eq_some hp, hmade⟩

/-- Each decoder's row names the constructor of a case, which was made for the first
decoder whose type has the same tokens. -/
theorem rows_plan :
    List.Forall₂
      (fun p r => ∃ q d, (pair classifier modules).find? (fun q => q.key == p.key) = some q ∧
        q.MadeFor classifier d ∧ d ∈ ((of classifier modules).plan classifier).decodedCases ∧
        r = DecoderTable.rowOf p d.name)
      (pair classifier modules) ((of classifier modules).plan classifier).decoderRows := by
  have ht := DecoderTable.tells_of classifier (pair classifier modules)
  rw [decoderRows_plan, decodedCases_plan]
  refine ht.rows.imp fun p r ⟨d, hd, hr⟩ => ?_
  obtain ⟨q, hq, hmade⟩ := ht.exists_madeFor hd
  exact ⟨q, d, hq, hmade, List.mem_map.2 ⟨_, mem_of_lookup hd, rfl⟩, hr⟩

/-! ## Views of a program's plan -/

/-- What is made of each view that classifying leaves is made of each view there is, if it
does not tell whether modules were reduced. -/
theorem flatMap_views_classify {α : Type} {f : Module → Signature → α}
    (hf : ∀ (m : Module) (s : Selection), f (m.restrict classifier s) = f m) :
    (classify classifier modules).flatMap (fun m => (m.restrict classifier .views).signatures.map (f m)) =
      ((ownedSignatures modules).filter fun s => classifier.isView s.2).map fun s => f s.1 s.2 := by
  rw [classify, List.flatMap_map]
  simp only [Module.restrict_kept, hf]
  exact flatMap_restrict classifier .views f modules

theorem knownViews_plan : ((of classifier modules).plan classifier).knownViews =
    ((ownedSignatures modules).filter fun s => classifier.isView s.2).map fun s =>
      (s.1.reference s.2.name, s.2.tagName) :=
  flatMap_views_classify classifier modules (f := fun m v => (m.reference v.name, v.tagName)) fun _ _ => rfl

end

end PairedProgram
end DecoderBench
