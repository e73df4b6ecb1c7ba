/-
Signatures that are neither decoders nor simple views leave no trace: with any number
of them put into a program, and modules that hold nothing else, the generated module
and the report are the same (`output_eq_of_padded`).

A paired program is written and reported from those of its modules that have
signatures left (`PairedProgram.trim`), and padding leaves these alone
(`filter_classify_of_padded`).
-/
import DecoderBench.Proofs.PairedProgram
import DecoderBench.Report
import DecoderBench.Settings

namespace DecoderBench

/-! ## Padding -/

/-- The second list is the first with elements that satisfy `p` put in anywhere, and
with elements changed as `R` allows. -/
inductive Padded {α : Type} (R : α → α → Prop) (p : α → Prop) : List α → List α → Prop
  | nil : Padded R p [] []
  | keep {a b : α} {l l' : List α} : R a b → Padded R p l l' → Padded R p (a :: l) (b :: l')
  | insert {b : α} {l l' : List α} : p b → Padded R p l l' → Padded R p l (b :: l')

/-- What is put in and is then left out again leaves no trace. -/
theorem Padded.filter_eq {α : Type} {p : α → Prop} {q : α → Bool} {l l' : List α} (h : Padded Eq p l l')
    (hq : ∀ a, p a → q a = false) : l.filter q = l'.filter q := by
  induction h with
  | nil => rfl
  | keep hab _ ih => rw [hab, List.filter_cons, List.filter_cons, ih]
  | insert hb _ ih => rw [List.filter_cons_of_neg (by simp [hq _ hb]), ih]

variable (classifier : Classifier)

/-- A signature that is neither a decoder nor a simple view. -/
def Signature.Irrelevant (s : Signature) : Prop := classifier.isDecoder s = false ∧ classifier.isView s = false

instance (s : Signature) : Decidable (s.Irrelevant classifier) := inferInstanceAs (Decidable (_ ∧ _))

namespace Module

/-- A module of irrelevant signatures only, or of none. -/
def Irrelevant (m : Module) : Prop := ∀ s ∈ m.signatures, s.Irrelevant classifier

instance (m : Module) : Decidable (m.Irrelevant classifier) := inferInstanceAs (Decidable (∀ s ∈ m.signatures, _))

/-- The second module is the first with irrelevant signatures put in. -/
structure PaddedTo (m m' : Module) : Prop where
  name : m.name = m'.name
  signatures : Padded Eq (Signature.Irrelevant classifier) m.signatures m'.signatures

end Module

/-- The second program is the first with irrelevant signatures put into its modules,
and irrelevant modules put in between. -/
def ProgramPadded : List Module → List Module → Prop :=
  Padded (Module.PaddedTo classifier) (Module.Irrelevant classifier)

variable {classifier}

theorem Signature.Irrelevant.keeps_eq_false {s : Signature} (h : s.Irrelevant classifier) :
    Selection.decodersAndViews.keeps classifier s = false := by
  simp [Selection.keeps, h.1, h.2]

theorem Module.PaddedTo.restrict_eq {m m' : Module} (h : m.PaddedTo classifier m') :
    m.restrict classifier .decodersAndViews = m'.restrict classifier .decodersAndViews := by
  rw [restrict, restrict, h.signatures.filter_eq fun s hs => hs.keeps_eq_false, h.name]

theorem Module.Irrelevant.isEmpty_restrict {m : Module} (h : m.Irrelevant classifier) :
    (m.restrict classifier .decodersAndViews).isEmpty = true := by
  have hnone : m.signatures.filter (Selection.decodersAndViews.keeps classifier) = [] :=
    List.filter_eq_nil_iff.2 fun s hs => by simp [(h s hs).keeps_eq_false]
  rw [isEmpty, restrict, hnone, List.isEmpty_nil]

/-- Padding leaves the classified modules alone that have signatures left. -/
theorem filter_classify_of_padded {modules modules' : List Module}
    (h : ProgramPadded classifier modules modules') :
    (classify classifier modules).filter (fun m => !m.isEmpty) =
      (classify classifier modules').filter fun m => !m.isEmpty := by
  induction h with
  | nil => rfl
  | keep hm _ ih =>
    simp only [classify, List.map_cons, List.filter_cons] at ih ⊢
    rw [hm.restrict_eq, ih]
  | insert hm _ ih =>
    simp only [classify, List.map_cons, List.filter_cons] at ih ⊢
    rw [hm.isEmpty_restrict, ih]
    rfl

/-! ## Modules without signatures -/

theorem flatMap_filter_isEmpty {α : Type} {f : Module → List α} (h : ∀ m, m.isEmpty = true → f m = [])
    (modules : List Module) : (modules.filter fun m => !m.isEmpty).flatMap f = modules.flatMap f := by
  induction modules with
  | nil => rfl
  | cons m modules ih =>
    rw [List.filter_cons, List.flatMap_cons]
    cases hm : m.isEmpty with
    | false => simp [ih]
    | true => simp [ih, h m hm]

/-- What is made of each signature that a selection keeps is not made of a module
without signatures. -/
theorem map_restrict_of_isEmpty {α : Type} (f : Signature → α) (selection : Selection) {m : Module}
    (h : m.isEmpty = true) : (m.restrict classifier selection).signatures.map f = [] := by
  rw [Module.isEmpty, List.isEmpty_iff] at h
  rw [Module.restrict, h, List.filter_nil, List.map_nil]

theorem pair_congr {modules modules' : List Module} (h : ownedSignatures modules = ownedSignatures modules') :
    pair classifier modules = pair classifier modules' := by
  have hrendering : renderingOf classifier modules = renderingOf classifier modules' := by
    funext d
    rw [renderingOf, renderingOf, findView?_eq_find?, findView?_eq_find?, h]
  rw [pair_eq_map_filter, pair_eq_map_filter, h, hrendering]

theorem pair_filter_isEmpty (modules : List Module) :
    pair classifier (modules.filter fun m => !m.isEmpty) = pair classifier modules := by
  refine pair_congr (flatMap_filter_isEmpty (fun m hm => ?_) modules)
  rw [Module.isEmpty, List.isEmpty_iff] at hm
  rw [hm, List.map_nil]

namespace Plan

theorem importsOf_filter_isEmpty (modules : List Module) :
    importsOf (modules.filter fun m => !m.isEmpty) = importsOf modules := by
  rw [importsOf, importsOf, List.filter_filter]
  refine congrArg (fun p : Module → Bool => firstsBy id ((modules.filter p).map (·.name))) (funext fun m => ?_)
  cases m.isEmpty <;> simp

theorem viewCasesOf_filter_isEmpty (modules : List Module) :
    viewCasesOf classifier (modules.filter fun m => !m.isEmpty) = viewCasesOf classifier modules := by
  rw [viewCasesOf, viewCasesOf, flatMap_filter_isEmpty]
  intro m hm
  simpa using map_restrict_of_isEmpty id .views hm

theorem knownViewsOf_filter_isEmpty (modules : List Module) :
    knownViewsOf classifier (modules.filter fun m => !m.isEmpty) = knownViewsOf classifier modules :=
  flatMap_filter_isEmpty (fun _ hm => map_restrict_of_isEmpty _ .views hm) modules

end Plan

namespace PairedProgram

/-- The paired program without modules that have no signatures. -/
def trim (p : PairedProgram) : PairedProgram := ⟨p.modules.filter fun m => !m.isEmpty, p.pairings⟩

theorem trim_of (classifier : Classifier) (modules : List Module) :
    (of classifier modules).trim =
      let kept := (classify classifier modules).filter fun m => !m.isEmpty
      ⟨kept, pair classifier kept⟩ := by
  simp only [trim, of, pair_filter_isEmpty]

theorem plan_trim (p : PairedProgram) (classifier : Classifier) : p.trim.plan classifier = p.plan classifier := by
  rw [plan, plan, Plan.of, Plan.of, trim, Plan.importsOf_filter_isEmpty, Plan.viewCasesOf_filter_isEmpty,
    Plan.knownViewsOf_filter_isEmpty]

theorem report_trim (p : PairedProgram) (classifier : Classifier) :
    Report.of classifier p.trim = Report.of classifier p := by
  have hdecoders : p.trim.modules.flatMap (Report.decoderLines classifier) =
      p.modules.flatMap (Report.decoderLines classifier) :=
    flatMap_filter_isEmpty (fun _ hm => map_restrict_of_isEmpty _ .decoders hm) p.modules
  have hviews : p.trim.modules.flatMap (Report.viewLines classifier) =
      p.modules.flatMap (Report.viewLines classifier) :=
    flatMap_filter_isEmpty (fun _ hm => map_restrict_of_isEmpty _ .views hm) p.modules
  rw [Report.of, hdecoders, hviews]
  rfl

theorem trim_of_padded {modules modules' : List Module} (h : ProgramPadded classifier modules modules') :
    (of classifier modules).trim = (of classifier modules').trim := by
  rw [trim_of, trim_of, filter_classify_of_padded h]

end PairedProgram

/-! ## The output -/

/-- **Irrelevant signatures do not show.** Whatever the settings, a program gives the
same generated module and the same report after signatures that are neither decoders
nor simple views are put into its modules, and modules of such signatures, or of none,
in between. -/
theorem output_eq_of_padded (s : Settings) {modules modules' : List Module}
    (h : ProgramPadded s.classifier modules modules') :
    s.generate modules = s.generate modules' ∧
      Report.of s.classifier (.of s.classifier modules) = Report.of s.classifier (.of s.classifier modules') := by
  have htrim := PairedProgram.trim_of_padded h
  constructor
  · rw [Settings.generate, Settings.generate, PairedProgram.generate_eq_render, PairedProgram.generate_eq_render,
      ← PairedProgram.plan_trim, htrim, PairedProgram.plan_trim]
  · rw [← PairedProgram.report_trim, htrim, PairedProgram.report_trim]

/-- A decoder and its view. -/
def quietProgram : List Module :=
  [⟨"M", [⟨"decode", "Json.Decode.Decoder Int"⟩]⟩, ⟨"V", [⟨"show", "Int -> Html.Html msg"⟩]⟩]

/-- The same with signatures around the decoder that only look like a decoder and a
view, and with modules of such signatures and of none. -/
def noisyProgram : List Module :=
  [⟨"Empty", []⟩,
    ⟨"M", [⟨"decodeWith", "Int -> Json.Decode.Decoder Int"⟩, ⟨"decode", "Json.Decode.Decoder Int"⟩,
      ⟨"styled", "Int -> Html.Styled.Html msg"⟩]⟩,
    ⟨"Noise", [⟨"showBoth", "Int -> Int -> Html.Html msg"⟩, ⟨"bare", "Html.Html"⟩]⟩,
    ⟨"V", [⟨"show", "Int -> Html.Html msg"⟩]⟩]

theorem output_eq_noisyProgram :
    ProgramPadded Settings.none.classifier quietProgram noisyProgram ∧
      Settings.none.generate quietProgram = Settings.none.generate noisyProgram ∧
      Report.of Settings.none.classifier (.of Settings.none.classifier quietProgram) =
        Report.of Settings.none.classifier (.of Settings.none.classifier noisyProgram) := by
  have hpadded : ProgramPadded Settings.none.classifier quietProgram noisyProgram := by
    refine .insert (by decide) (.keep ⟨rfl, ?_⟩ (.insert (by decide) (.keep ⟨rfl, ?_⟩ .nil)))
    · exact .insert (by decide) (.keep rfl (.insert (by decide) .nil))
    · exact .keep rfl .nil
  exact ⟨hpadded, output_eq_of_padded Settings.none hpadded⟩

end DecoderBench
