/-
Classifying a program's modules before they are paired takes nothing from the
pairing: each decoder is shown by the same view (`pair_classify`), and only the
modules that the pairings speak of are reduced.
-/
import DecoderBench.Pairing

namespace DecoderBench

variable {classifier : Classifier}

namespace Module

theorem toList_reference {m : Module} (h : m.name ≠ "") (name : String) :
    (m.reference name).toList = m.name.toList ++ '.' :: name.toList := by
  have hnamed : m.isNameless = false := by simpa [isNameless] using h
  simp [reference, hnamed]

theorem reference_of_nameless {m : Module} (h : m.name = "") (name : String) : m.reference name = name := by
  simp [reference, isNameless, h]

@[simp] theorem restrict_name (m : Module) (s : Selection) : (m.restrict classifier s).name = m.name := rfl

@[simp] theorem reference_restrict (m : Module) (s : Selection) (name : String) :
    (m.restrict classifier s).reference name = m.reference name := rfl

/-- A selection that takes in what `p` asks for loses none of it. -/
theorem filter_restrict {p : Signature → Bool} (m : Module) {s : Selection}
    (h : ∀ v, p v = true → s.keeps classifier v = true) :
    (m.restrict classifier s).signatures.filter p = m.signatures.filter p := by
  rw [restrict, List.filter_filter]
  refine List.filter_congr fun v _ => ?_
  cases hp : p v with
  | false => rfl
  | true => simp [h v hp]

/-- To select from the decoders and simple views is to select from all signatures. -/
theorem restrict_kept (m : Module) (selection : Selection) :
    (m.restrict classifier .decodersAndViews).restrict classifier selection = m.restrict classifier selection := by
  have hkept : ∀ s, selection.keeps classifier s = true → Selection.decodersAndViews.keeps classifier s = true := by
    intro s hs
    cases selection <;> simp_all [Selection.keeps]
  have hsignatures := filter_restrict m hkept
  rw [restrict, hsignatures, restrict_name, restrict]

theorem find?_restrict {p : Signature → Bool} (m : Module) {s : Selection}
    (h : ∀ v, p v = true → s.keeps classifier v = true) :
    (m.restrict classifier s).signatures.find? p = m.signatures.find? p := by
  rw [← List.head?_filter, filter_restrict m h, List.head?_filter]

end Module

/-! ## Reduced modules -/

/-- The rendering with the view's module reduced to its decoders and simple views. -/
def Rendering.restrict (classifier : Classifier) : Rendering → Rendering
  | .view m v => .view (m.restrict classifier .decodersAndViews) v
  | @Rendering.text m => @Rendering.text m

/-- The pairing with its modules reduced to their decoders and simple views. -/
def Pairing.restrict (classifier : Classifier) (p : Pairing) : Pairing :=
  ⟨p.owner.restrict classifier .decodersAndViews, p.decoder, p.rendering.restrict classifier⟩

@[simp] theorem Rendering.reference_restrict (r : Rendering) :
    (r.restrict classifier).reference = r.reference := by
  cases r <;> rfl

@[simp] theorem Pairing.reference_restrict (p : Pairing) :
    (p.restrict classifier).reference = p.reference := rfl

@[simp] theorem Pairing.decoder_restrict (p : Pairing) : (p.restrict classifier).decoder = p.decoder := rfl

@[simp] theorem Pairing.rendering_restrict (p : Pairing) :
    (p.restrict classifier).rendering = p.rendering.restrict classifier := rfl

/-! ## Pairing reduced modules -/

theorem findView?_classify (modules : List Module) (d : Signature) :
    findView? classifier (classify classifier modules) d =
      (findView? classifier modules d).map fun v =>
        (v.1.restrict classifier .decodersAndViews, v.2) := by
  have hkeeps : ∀ v, classifier.shows d v = true →
      Selection.decodersAndViews.keeps classifier v = true := by
    intro v hv
    simp only [Classifier.shows, Bool.and_eq_true] at hv
    simp [Selection.keeps, hv.1.1]
  rw [findView?, findView?, classify, List.findSome?_map, List.map_findSome?]
  refine congrArg (fun f => List.findSome? f modules) (funext fun m => ?_)
  simp only [Function.comp, Module.find?_restrict m hkeeps, Option.map_map]
  rfl

theorem renderingOf_classify (modules : List Module) (d : Signature) :
    renderingOf classifier (classify classifier modules) d =
      (renderingOf classifier modules d).restrict classifier := by
  rw [renderingOf, renderingOf, findView?_classify]
  cases findView? classifier modules d <;> rfl

/-- **Classifying first changes the modules of the pairings only.** -/
theorem pair_classify (modules : List Module) :
    pair classifier (classify classifier modules) =
      (pair classifier modules).map (Pairing.restrict classifier) := by
  have hkeeps : ∀ v, classifier.isDecoder v = true →
      Selection.decodersAndViews.keeps classifier v = true := by
    intro v hv
    simp [Selection.keeps, hv]
  simp only [pair, renderingOf_classify, List.map_flatMap, List.map_map]
  rw [classify, List.flatMap_map]
  refine congrArg (fun f => List.flatMap f modules) (funext fun m => ?_)
  rw [Module.filter_restrict m hkeeps]
  rfl

/-! ## Where pairings come from -/

theorem rendering_of_mem_pair {modules : List Module} {p : Pairing} (h : p ∈ pair classifier modules) :
    p.rendering = renderingOf classifier modules p.decoder := by
  simp only [pair, List.mem_flatMap, List.mem_map] at h
  obtain ⟨m, -, d, -, rfl⟩ := h
  rfl

/-- How a decoder's values are shown depends on the payload as it is written and on
nothing else. -/
theorem renderingOf_congr {modules : List Module} {d e : Signature}
    (h : classifier.payload d = classifier.payload e) :
    renderingOf classifier modules d = renderingOf classifier modules e := by
  have hshows : classifier.shows d = classifier.shows e := by
    funext v
    rw [Classifier.shows, Classifier.shows, h]
  rw [renderingOf, renderingOf, findView?, findView?, hshows]

theorem of_findView?_eq_some {modules : List Module} {d : Signature} {m : Module} {v : Signature}
    (h : findView? classifier modules d = some (m, v)) :
    m ∈ modules ∧ v ∈ m.signatures ∧ classifier.shows d v = true := by
  obtain ⟨m', hm, hv⟩ := List.exists_of_findSome?_eq_some h
  obtain ⟨v', hv', he⟩ := Option.map_eq_some_iff.1 hv
  cases he
  exact ⟨hm, List.mem_of_find?_eq_some hv', List.find?_some hv'⟩

theorem renderingOf_cases (classifier : Classifier) (modules : List Module) (d : Signature) :
    renderingOf classifier modules d = @Rendering.text .nameless ∨
      ∃ m ∈ modules, ∃ v ∈ m.signatures,
        renderingOf classifier modules d = .view m v ∧ classifier.shows d v = true := by
  cases h : findView? classifier modules d with
  | none => exact .inl (by rw [renderingOf, h])
  | some w =>
    obtain ⟨m, v⟩ := w
    obtain ⟨hm, hv, hs⟩ := of_findView?_eq_some h
    exact .inr ⟨m, hm, v, hv, by rw [renderingOf, h], hs⟩

/-! ## Pairing as a pass over all signatures -/

/-- The signatures of a program in order, each with its module. -/
def ownedSignatures (modules : List Module) : List (Module × Signature) :=
  modules.flatMap fun m => m.signatures.map fun s => (m, s)

/-- What is made of each selected signature, module by module, is made of the selected ones
among all signatures. -/
theorem flatMap_restrict {α : Type} (classifier : Classifier) (selection : Selection)
    (f : Module → Signature → α) (modules : List Module) :
    modules.flatMap (fun m => (m.restrict classifier selection).signatures.map (f m)) =
      ((ownedSignatures modules).filter fun s => selection.keeps classifier s.2).map fun s => f s.1 s.2 := by
  simp only [ownedSignatures, List.filter_flatMap, List.filter_map, List.map_flatMap, List.map_map]
  rfl

theorem findView?_eq_find? (classifier : Classifier) (modules : List Module) (d : Signature) :
    findView? classifier modules d = (ownedSignatures modules).find? fun s => classifier.shows d s.2 := by
  simp only [findView?, ownedSignatures, List.find?_flatMap, List.find?_map, Function.comp_def]

theorem pair_eq_map_filter (classifier : Classifier) (modules : List Module) :
    pair classifier modules = ((ownedSignatures modules).filter fun s => classifier.isDecoder s.2).map
      fun s => ⟨s.1, s.2, renderingOf classifier modules s.2⟩ :=
  flatMap_restrict classifier .decoders 
    (fun m d => (⟨m, d, renderingOf classifier modules d⟩ : Pairing)) modules

end DecoderBench
