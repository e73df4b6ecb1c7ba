/-
A program with modules put behind it. What was decided for the program stays:
pairings keep their views (`Pairing.Keeps`), and imports, constructors and known
views keep their places (`plan_append`). Only a value that was shown as text may
find a view, among the new modules.

Which constructor a decoder gets does not depend on how values are shown, so a
table is compared with the one of the same decoders whose values are all shown as
text (`DecoderTable.of_map_asText`).
-/
import DecoderBench.Proofs.Declarations
import DecoderBench.Proofs.Lookup
import DecoderBench.Proofs.PairedProgram

namespace DecoderBench

variable {classifier : Classifier}

/-! ## Pairings -/

theorem findView?_append (modules extra : List Module) (d : Signature) :
    findView? classifier (modules ++ extra) d =
      (findView? classifier modules d).or (findView? classifier extra d) := by
  rw [findView?, findView?, findView?, List.findSome?_append]

/-- `q` keeps what `p` decided: the decoder, its module, and the view if there is one.
Instead of text there may be a view of one of the modules `extra`. -/
structure Pairing.Keeps (extra : List Module) (p q : Pairing) : Prop where
  owner : q.owner = p.owner
  decoder : q.decoder = p.decoder
  view : ∀ m v, p.rendering = .view m v → q.rendering = .view m v
  text : p.rendering.isText = true →
    q.rendering = p.rendering ∨ ∃ m ∈ extra, ∃ v ∈ m.signatures, q.rendering = .view m v

theorem keeps_renderingOf_append (modules extra : List Module) (m : Module) (d : Signature) :
    Pairing.Keeps extra ⟨m, d, renderingOf classifier modules d⟩
      ⟨m, d, renderingOf classifier (modules ++ extra) d⟩ where
  owner := rfl
  decoder := rfl
  view m' v h := by
    simp only [renderingOf_eq_view_iff] at h ⊢
    rw [findView?_append, h, Option.some_or]
  text h := by
    rw [isText_renderingOf_iff] at h
    have htext : renderingOf classifier modules d = @Rendering.text .nameless := by rw [renderingOf, h]
    have hextra : renderingOf classifier (modules ++ extra) d = renderingOf classifier extra d := by
      rw [renderingOf, renderingOf, findView?_append, h, Option.none_or]
    simp only [hextra]
    rcases renderingOf_cases classifier extra d with hsame | ⟨m', hm, v, hv, hview, -⟩
    · exact .inl (hsame.trans htext.symm)
    · exact .inr ⟨m', hm, v, hv, hview⟩

/-- The pairings of a program are the first ones of the longer program, as many as there
are, with views that may be found behind it. -/
theorem pair_append (classifier : Classifier) (modules extra : List Module) :
    ∃ rest, pair classifier (modules ++ extra) =
      (pair classifier modules).map (fun p =>
        { p with rendering := renderingOf classifier (modules ++ extra) p.decoder }) ++ rest := by
  refine ⟨_, (List.flatMap_append ..).trans (congrArg (· ++ _) ?_)⟩
  rw [pair, List.map_flatMap]
  simp only [List.map_map, Function.comp_def]

theorem take_pair_append (classifier : Classifier) (modules extra : List Module) :
    List.Forall₂ (Pairing.Keeps extra) (pair classifier modules)
      ((pair classifier (modules ++ extra)).take (pair classifier modules).length) := by
  obtain ⟨rest, hrest⟩ := pair_append classifier modules extra
  rw [hrest, List.take_left' (List.length_map _), List.forall₂_map_right_iff, List.forall₂_same]
  rintro ⟨m, d, r⟩ hp
  obtain rfl : r = renderingOf classifier modules d := rendering_of_mem_pair hp
  exact keeps_renderingOf_append modules extra m d

/-! ## Constructors -/

/-- The pairing, if its values were shown as text. -/
def Pairing.asText (p : Pairing) : Pairing := { p with rendering := @Rendering.text .nameless }

/-- The case, if its values were shown as text. -/
def DecodedCase.asText (d : DecodedCase) : DecodedCase := { d with view := (@Rendering.text .nameless).reference }

/-- The row, if its values were shown as text. -/
def DecoderRow.asText (r : DecoderRow) : DecoderRow := { r with view := (@Rendering.text .nameless).reference }

namespace DecoderTable

/-- The table, if all values were shown as text. -/
def asText (t : DecoderTable) : DecoderTable where
  cases := t.cases.map fun c => (c.1, c.2.asText)
  rows := t.rows.map DecoderRow.asText

theorem taken_asText (t : DecoderTable) : t.asText.taken = t.taken := by
  simp only [taken, asText, List.map_map]
  rfl

theorem newCase_asText (t : DecoderTable) (p : Pairing) :
    newCase classifier t.asText p.asText = (newCase classifier t p).asText := by
  rw [newCase, taken_asText]
  rfl

theorem add_asText (t : DecoderTable) (p : Pairing) :
    t.asText.add classifier p.asText = (t.add classifier p).asText := by
  have hlookup : t.asText.cases.lookup p.asText.key = (t.cases.lookup p.key).map DecodedCase.asText :=
    lookup_map_value DecodedCase.asText t.cases p.key
  cases hp : t.cases.lookup p.key with
  | some d =>
    rw [hp, Option.map_some] at hlookup
    rw [add_of_some hlookup, add_of_some hp]
    simp only [asText, List.map_append, List.map_singleton]
    rfl
  | none =>
    rw [hp, Option.map_none] at hlookup
    rw [add_of_none hlookup, add_of_none hp, newCase_asText]
    simp only [asText, List.map_append, List.map_singleton]
    rfl

/-- How values are shown is all that differs in the table. -/
theorem of_map_asText (ps : List Pairing) :
    of classifier (ps.map Pairing.asText) = (of classifier ps).asText := by
  induction ps using List.reverseRecOn with
  | nil => rfl
  | append_singleton ps p ih => rw [List.map_append, List.map_singleton, of_concat, of_concat, ih, add_asText]

/-- One pairing more leaves cases and rows where they are. -/
theorem prefix_add (classifier : Classifier) (t : DecoderTable) (p : Pairing) :
    t.cases <+: (t.add classifier p).cases ∧ t.rows <+: (t.add classifier p).rows := by
  cases hp : t.cases.lookup p.key with
  | some d =>
    rw [add_of_some hp]
    exact ⟨List.prefix_rfl, List.prefix_append ..⟩
  | none =>
    rw [add_of_none hp]
    exact ⟨List.prefix_append .., List.prefix_append ..⟩

theorem prefix_of (classifier : Classifier) {ps qs : List Pairing} (h : ps <+: qs) :
    (of classifier ps).cases <+: (of classifier qs).cases ∧
      (of classifier ps).rows <+: (of classifier qs).rows := by
  obtain ⟨rest, rfl⟩ := h
  induction rest using List.reverseRecOn with
  | nil => simp
  | append_singleton rest p ih =>
    obtain ⟨hcases, hrows⟩ := prefix_add classifier (of classifier (ps ++ rest)) p
    rw [← List.append_assoc, of_concat]
    exact ⟨ih.1.trans hcases, ih.2.trans hrows⟩

end DecoderTable

theorem map_asText_pair_append (classifier : Classifier) (modules extra : List Module) :
    (pair classifier modules).map Pairing.asText <+:
      (pair classifier (modules ++ extra)).map Pairing.asText := by
  obtain ⟨rest, hrest⟩ := pair_append classifier modules extra
  rw [hrest, List.map_append, List.map_map]
  exact List.prefix_append ..

/-! ## First places -/

theorem prefix_firstsBy_go {α : Type} (key : α → String) (seen : List String) (l l' : List α) :
    firstsBy.go key seen l <+: firstsBy.go key seen (l ++ l') := by
  fun_induction firstsBy.go key seen l with
  | case1 seen => exact List.nil_prefix
  | case2 seen a l h ih => rwa [List.cons_append, firstsBy.go, if_pos h]
  | case3 seen a l h ih =>
    rw [List.cons_append, firstsBy.go, if_neg h]
    exact (List.prefix_cons_inj a).2 ih

theorem prefix_firstsBy {α : Type} (key : α → String) (l l' : List α) :
    firstsBy key l <+: firstsBy key (l ++ l') := prefix_firstsBy_go key [] l l'

namespace Plan

theorem importsOf_append (modules extra : List Module) :
    importsOf modules <+: importsOf (modules ++ extra) := by
  rw [importsOf, importsOf, List.filter_append, List.map_append]
  exact prefix_firstsBy ..

theorem viewCasesOf_append (classifier : Classifier) (modules extra : List Module) :
    viewCasesOf classifier modules <+: viewCasesOf classifier (modules ++ extra) := by
  rw [viewCasesOf, viewCasesOf, List.flatMap_append]
  exact (prefix_firstsBy ..).map _

theorem knownViewsOf_append (classifier : Classifier) (modules extra : List Module) :
    knownViewsOf classifier modules <+: knownViewsOf classifier (modules ++ extra) := by
  rw [knownViewsOf, knownViewsOf, List.flatMap_append]
  exact List.prefix_append ..

end Plan

/-! ## Plans -/

/-- **Modules that are put behind a program change nothing in front of them.** Each
pairing stays where it is, with its decoder, its module and its view; where values were
shown as text, they still are or by a view of a new module. In the plan all imports,
view cases and known views stay in front, and so do the references of decoders with
their constructors and the constructors with their payloads: none gets another name. -/
theorem plan_append (classifier : Classifier) (modules extra : List Module) :
    let before := (PairedProgram.of classifier modules).plan classifier
    let after := (PairedProgram.of classifier (modules ++ extra)).plan classifier
    List.Forall₂ (Pairing.Keeps extra) (pair classifier modules)
        ((pair classifier (modules ++ extra)).take (pair classifier modules).length) ∧
      before.imports <+: after.imports ∧
      before.viewCases <+: after.viewCases ∧
      before.knownViews <+: after.knownViews ∧
      before.decoderRows.map (fun r => (r.reference, r.constructor)) <+:
        after.decoderRows.map (fun r => (r.reference, r.constructor)) ∧
      before.decodedCases.map (fun d => (d.name, d.payload)) <+:
        after.decodedCases.map (fun d => (d.name, d.payload)) := by
  intro before after
  have hmodules : (PairedProgram.of classifier (modules ++ extra)).modules =
      classify classifier modules ++ classify classifier extra := List.map_append
  obtain ⟨hcases, hrows⟩ := DecoderTable.prefix_of classifier
    (map_asText_pair_append classifier modules extra)
  rw [DecoderTable.of_map_asText, DecoderTable.of_map_asText] at hcases hrows
  refine ⟨take_pair_append classifier modules extra, ?_, ?_, ?_, ?_, ?_⟩
  · have himports : after.imports = _ := congrArg Plan.importsOf hmodules
    rw [himports]
    exact Plan.importsOf_append ..
  · have hviewCases : after.viewCases = _ := congrArg (Plan.viewCasesOf classifier) hmodules
    rw [hviewCases]
    exact Plan.viewCasesOf_append ..
  · have hknownViews : after.knownViews = _ := congrArg (Plan.knownViewsOf classifier) hmodules
    rw [hknownViews]
    exact Plan.knownViewsOf_append ..
  · have hcolumn := hrows.map fun r => (r.reference, r.constructor)
    simp only [DecoderTable.asText, List.map_map] at hcolumn
    rw [PairedProgram.decoderRows_plan, PairedProgram.decoderRows_plan]
    exact hcolumn
  · have hcolumn := hcases.map fun c => (c.2.name, c.2.payload)
    simp only [DecoderTable.asText, List.map_map] at hcolumn
    rw [PairedProgram.decodedCases_plan, PairedProgram.decodedCases_plan, List.map_map, List.map_map]
    exact hcolumn

end DecoderBench
