/-
The signatures of a program in order, each with its module and its place. Pairing
goes through them twice: it takes the decoders one by one, and for each it looks for
the first view, which is the view at the least place (`pair_first_match`).
-/
import DecoderBench.Proofs.Pairing
import Mathlib.Data.List.Forall2
import Mathlib.Data.Prod.Lex
import Mathlib.Order.Bounds.Basic

namespace DecoderBench

/-! ## Places -/

/-- Where a signature stands in a program: the position of its module, and its
position in that module. Of two places the one in the earlier module is less. -/
abbrev Place := Nat ×ₗ Nat

/-- A signature of a program, with its module and its place. -/
structure Declaration where
  place : Place
  owner : Module
  signature : Signature

/-- The modules have the declaration at its place. -/
structure Declaration.In (d : Declaration) (modules : List Module) : Prop where
  owner : modules[(ofLex d.place).1]? = some d.owner
  signature : d.owner.signatures[(ofLex d.place).2]? = some d.signature

/-- All declarations of a program, module by module. -/
def declarations (modules : List Module) : List Declaration :=
  modules.zipIdx.flatMap fun m => m.1.signatures.zipIdx.map fun s => ⟨toLex (m.2, s.2), m.1, s.1⟩

theorem mem_declarations {modules : List Module} {d : Declaration} :
    d ∈ declarations modules ↔ d.In modules := by
  simp only [declarations, List.mem_flatMap, List.mem_map, Prod.exists]
  constructor
  · rintro ⟨m, i, hm, s, j, hs, rfl⟩
    exact ⟨List.mk_mem_zipIdx_iff_getElem?.1 hm, List.mk_mem_zipIdx_iff_getElem?.1 hs⟩
  · rintro ⟨hm, hs⟩
    exact ⟨d.owner, (ofLex d.place).1, List.mk_mem_zipIdx_iff_getElem?.2 hm, d.signature,
      (ofLex d.place).2, List.mk_mem_zipIdx_iff_getElem?.2 hs, rfl⟩

/-- A place holds one declaration at most. -/
theorem Declaration.In.eq_of_place {modules : List Module} {d e : Declaration} (hd : d.In modules)
    (he : e.In modules) (h : d.place = e.place) : d = e := by
  obtain ⟨x, m, s⟩ := d
  obtain ⟨y, n, t⟩ := e
  obtain rfl : x = y := h
  obtain rfl : m = n := Option.some.inj (hd.owner.symm.trans he.owner)
  obtain rfl : s = t := Option.some.inj (hd.signature.symm.trans he.signature)
  rfl

theorem pairwise_zipIdx {α : Type} (l : List α) : l.zipIdx.Pairwise fun a b => a.2 < b.2 := by
  rw [← List.pairwise_map (f := Prod.snd), List.zipIdx_map_snd]
  exact List.pairwise_lt_range'

theorem pairwise_declarations (modules : List Module) :
    (declarations modules).Pairwise fun a b => a.place < b.place := by
  rw [declarations, List.pairwise_flatMap]
  refine ⟨fun m _ => ?_, (pairwise_zipIdx modules).imp fun {m n} hmn a ha b hb => ?_⟩
  · rw [List.pairwise_map]
    refine (pairwise_zipIdx m.1.signatures).imp ?_
    intro s t hst
    exact Prod.Lex.toLex_lt_toLex.2 (.inr ⟨rfl, hst⟩)
  · obtain ⟨s, -, rfl⟩ := List.mem_map.1 ha
    obtain ⟨t, -, rfl⟩ := List.mem_map.1 hb
    exact Prod.Lex.toLex_lt_toLex.2 (.inl hmn)

theorem map_declarations (modules : List Module) :
    (declarations modules).map (fun d => (d.owner, d.signature)) = ownedSignatures modules := by
  have hmodules : ownedSignatures modules =
      modules.zipIdx.flatMap fun m => m.1.signatures.map fun s => (m.1, s) := by
    rw [ownedSignatures, ← List.flatMap_map (f := Prod.fst) (g := fun m : Module => m.signatures.map fun s => (m, s)),
      List.zipIdx_map_fst]
  rw [hmodules, declarations, List.map_flatMap]
  refine congrArg (fun f => List.flatMap f modules.zipIdx) (funext fun m => ?_)
  conv_rhs => rw [← List.zipIdx_map_fst 0 m.1.signatures]
  simp only [List.map_map]
  rfl

/-! ## The first that qualifies -/

/-- In a list whose keys ascend, the first element that qualifies is the one of the
least key. -/
theorem find?_eq_some_iff_of_pairwise {α β : Type} [Preorder β] {key : α → β} {l : List α}
    (h : l.Pairwise fun a b => key a < key b) {p : α → Bool} {a : α} :
    l.find? p = some a ↔ a ∈ l ∧ p a = true ∧ ∀ b ∈ l, p b = true → key a ≤ key b := by
  induction l with
  | nil => simp
  | cons c l ih =>
    rw [List.pairwise_cons] at h
    obtain ⟨hc, hl⟩ := h
    by_cases hp : p c = true
    · rw [List.find?_cons_of_pos hp, Option.some.injEq]
      constructor
      · rintro rfl
        refine ⟨by simp, hp, fun b hb _ => ?_⟩
        rcases List.mem_cons.1 hb with rfl | hb
        · exact le_rfl
        · exact (hc b hb).le
      · rintro ⟨ha, -, hleast⟩
        rcases List.mem_cons.1 ha with rfl | ha
        · rfl
        · exact absurd (hleast c (by simp) hp) (hc a ha).not_ge
    · rw [List.find?_cons_of_neg hp, ih hl]
      constructor
      · rintro ⟨ha, hpa, hleast⟩
        refine ⟨List.mem_cons_of_mem _ ha, hpa, fun b hb hpb => ?_⟩
        rcases List.mem_cons.1 hb with rfl | hb
        · exact absurd hpb hp
        · exact hleast b hb hpb
      · rintro ⟨ha, hpa, hleast⟩
        rcases List.mem_cons.1 ha with rfl | ha
        · exact absurd hpa hp
        · exact ⟨ha, hpa, fun b hb => hleast b (List.mem_cons_of_mem _ hb)⟩

/-! ## Pairing by declarations -/

variable (classifier : Classifier) (modules : List Module)

/-- The first view of a decoder is the first declaration that shows its values. -/
theorem findView?_eq_map_find? (d : Signature) :
    findView? classifier modules d =
      ((declarations modules).find? fun s => classifier.shows d s.signature).map
        fun s => (s.owner, s.signature) := by
  rw [findView?_eq_find?, ← map_declarations, List.find?_map]
  rfl

/-- The pairings are those of the declarations that are decoders. -/
theorem pair_eq_map_declarations :
    pair classifier modules =
      ((declarations modules).filter fun d => classifier.isDecoder d.signature).map fun d =>
        ⟨d.owner, d.signature, renderingOf classifier modules d.signature⟩ := by
  rw [pair_eq_map_filter, ← map_declarations, List.filter_map, List.map_map]
  rfl

/-! ## First match -/

/-- The places of the views that show the values of `d`: simple views of the
classifier which the generated program can show as they are, and whose input is
written as the payload of `d` is. -/
def viewPlaces (d : Signature) : Set Place :=
  {x | ∃ m v, Declaration.In ⟨x, m, v⟩ modules ∧ classifier.isView v = true ∧
    Lexical.isView "Html.Html" v.type = true ∧ classifier.input? v = some (classifier.payload d)}

theorem mem_viewPlaces {d : Signature} {x : Place} :
    x ∈ viewPlaces classifier modules d ↔
      ∃ s ∈ declarations modules, classifier.shows d s.signature = true ∧ s.place = x := by
  simp only [viewPlaces, Set.mem_ofPred_eq, mem_declarations, Classifier.shows, Signature.isEmbeddable,
    Classifier.defaultViewType, Bool.and_eq_true, beq_iff_eq]
  constructor
  · rintro ⟨m, v, hin, hview, hhtml, hinput⟩
    exact ⟨⟨x, m, v⟩, hin, ⟨⟨hview, hhtml⟩, hinput⟩, rfl⟩
  · rintro ⟨s, hin, ⟨⟨hview, hhtml⟩, hinput⟩, rfl⟩
    exact ⟨s.owner, s.signature, hin, hview, hhtml, hinput⟩

theorem findView?_eq_some_iff {d : Signature} {m : Module} {v : Signature} :
    findView? classifier modules d = some (m, v) ↔
      ∃ x, IsLeast (viewPlaces classifier modules d) x ∧ Declaration.In ⟨x, m, v⟩ modules := by
  have hfirst (s : Declaration) := find?_eq_some_iff_of_pairwise (a := s) (pairwise_declarations modules)
    (p := fun s => classifier.shows d s.signature)
  rw [findView?_eq_map_find?, Option.map_eq_some_iff]
  constructor
  · rintro ⟨s, hs, hsv⟩
    obtain ⟨rfl, rfl⟩ := Prod.mk.inj hsv
    obtain ⟨hmem, hshows, hleast⟩ := (hfirst s).1 hs
    refine ⟨s.place, ⟨(mem_viewPlaces ..).2 ⟨s, hmem, hshows, rfl⟩, ?_⟩, mem_declarations.1 hmem⟩
    intro y hy
    obtain ⟨t, ht, htshows, rfl⟩ := (mem_viewPlaces ..).1 hy
    exact hleast t ht htshows
  · rintro ⟨x, ⟨hx, hleast⟩, hin⟩
    obtain ⟨s, hs, hshows, rfl⟩ := (mem_viewPlaces ..).1 hx
    have hsv : s = ⟨s.place, m, v⟩ := (mem_declarations.1 hs).eq_of_place hin rfl
    refine ⟨s, (hfirst s).2 ⟨hs, hshows, fun t ht htshows => ?_⟩, by rw [hsv]⟩
    exact hleast ((mem_viewPlaces ..).2 ⟨t, ht, htshows, rfl⟩)

theorem findView?_eq_none_iff {d : Signature} :
    findView? classifier modules d = none ↔ viewPlaces classifier modules d = ∅ := by
  rw [findView?_eq_map_find?, Option.map_eq_none_iff, List.find?_eq_none, Set.eq_empty_iff_forall_notMem]
  constructor
  · intro h x hx
    obtain ⟨s, hs, hshows, -⟩ := (mem_viewPlaces ..).1 hx
    exact h s hs hshows
  · intro h s hs hshows
    exact h s.place ((mem_viewPlaces ..).2 ⟨s, hs, hshows, rfl⟩)

theorem renderingOf_eq_view_iff {d : Signature} {m : Module} {v : Signature} :
    renderingOf classifier modules d = .view m v ↔ findView? classifier modules d = some (m, v) := by
  rw [renderingOf]
  cases findView? classifier modules d <;> simp [Prod.ext_iff]

theorem isText_renderingOf_iff {d : Signature} :
    (renderingOf classifier modules d).isText = true ↔ findView? classifier modules d = none := by
  rw [renderingOf]
  cases findView? classifier modules d <;> simp [Rendering.isText]

/-- What is shown as text is shown by no module of the program. -/
theorem owner_of_isText_renderingOf {d : Signature} (h : (renderingOf classifier modules d).isText = true) :
    (renderingOf classifier modules d).owner = .nameless := by
  rw [isText_renderingOf_iff] at h
  rw [renderingOf, h]
  rfl

/-- **Pairing is total, exact and first-match.** There is one pairing for each place
that holds a decoder, in the order of the places, with that decoder and its whole
module. Its values are shown by the view at the least place of those that qualify, and
as text, by no module of the program, if and only if no place does. -/
theorem pair_first_match :
    ∃ places : List Place, places.Pairwise (· < ·) ∧
      (∀ x, x ∈ places ↔ ∃ m d, Declaration.In ⟨x, m, d⟩ modules ∧ classifier.isDecoder d = true) ∧
      List.Forall₂
        (fun x p => Declaration.In ⟨x, p.owner, p.decoder⟩ modules ∧
          (∀ m v, p.rendering = .view m v ↔
            ∃ y, IsLeast (viewPlaces classifier modules p.decoder) y ∧ Declaration.In ⟨y, m, v⟩ modules) ∧
          (p.rendering.isText = true ∧ p.rendering.owner = .nameless ↔
            viewPlaces classifier modules p.decoder = ∅))
        places (pair classifier modules) := by
  have hmem (s : Declaration) :
      s ∈ (declarations modules).filter (fun d => classifier.isDecoder d.signature) ↔
        s.In modules ∧ classifier.isDecoder s.signature = true := by
    rw [List.mem_filter, mem_declarations]
  refine ⟨((declarations modules).filter fun d => classifier.isDecoder d.signature).map (·.place), ?_, ?_, ?_⟩
  · exact List.pairwise_map.2 ((pairwise_declarations modules).filter _)
  · intro x
    rw [List.mem_map]
    constructor
    · rintro ⟨s, hs, rfl⟩
      exact ⟨s.owner, s.signature, (hmem s).1 hs⟩
    · rintro ⟨m, d, hin, hd⟩
      exact ⟨⟨x, m, d⟩, (hmem _).2 ⟨hin, hd⟩, rfl⟩
  · rw [pair_eq_map_declarations, List.forall₂_map_left_iff, List.forall₂_map_right_iff, List.forall₂_same]
    intro s hs
    refine ⟨((hmem s).1 hs).1, fun m v => ?_, ?_⟩
    · rw [renderingOf_eq_view_iff, findView?_eq_some_iff]
    · rw [← findView?_eq_none_iff, ← isText_renderingOf_iff]
      exact ⟨And.left, fun h => ⟨h, owner_of_isText_renderingOf classifier modules h⟩⟩

end DecoderBench
