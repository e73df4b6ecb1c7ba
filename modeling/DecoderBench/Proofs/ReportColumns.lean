/-
The report on a program and the plan for it say the same of its decoders and views
(`report_eq_plan`): column by column the references, the views that show the values,
and the known views are the same lists, and the counts are those of the lines.
-/
import DecoderBench.Proofs.PairedProgram
import DecoderBench.Report
import DecoderBench.Settings

namespace DecoderBench

namespace Report

variable (classifier : Classifier)

/-! ## Columns of a report -/

theorem decoders_pair (modules : List Module) :
    (modules.flatMap (decoderLines classifier)).map (·.reference) =
      (pair classifier modules).map Pairing.reference := by
  rw [pair, List.map_flatMap, List.map_flatMap]
  simp only [decoderLines, List.map_map]
  rfl

theorem views_knownViewsOf (modules : List Module) :
    (modules.flatMap (viewLines classifier)).map (·.reference) =
      (Plan.knownViewsOf classifier modules).map (·.1) := by
  rw [Plan.knownViewsOf, List.map_flatMap, List.map_flatMap]
  simp only [viewLines, List.map_map]
  rfl

/-! ## Fallbacks -/

/-- A reference with a module in front is none of the program's own functions. -/
theorem reference_ne_textView {m : Module} (h : m.name ≠ "") (name : String) :
    m.reference name ≠ "viewAsText" := by
  intro he
  have hdot : '.' ∈ (m.reference name).toList := by simp [Module.toList_reference h]
  rw [he] at hdot
  exact absurd hdot (by decide)

theorem isText_iff_reference {modules : List Module} (hnames : ∀ m ∈ modules, m.name ≠ "") {p : Pairing}
    (hp : p ∈ pair classifier modules) :
    p.rendering.isText = true ↔ p.rendering.reference = "viewAsText" := by
  rw [rendering_of_mem_pair hp]
  rcases renderingOf_cases classifier modules p.decoder with ht | ⟨m, hm, v, -, hv, -⟩
  · rw [ht]
    exact ⟨fun _ => rfl, fun _ => rfl⟩
  · rw [hv]
    exact ⟨fun h => absurd h Bool.false_ne_true, fun h => absurd h (reference_ne_textView (hnames m hm) v.name)⟩

/-- **What is reported is what is generated.** The decoders that a report lists, those
that it pairs, and those in the plan's table are the same in the same order; the pairs
and the table name the same views; and the views that it lists are the plan's known
views. Its counts are the numbers of these lines. Unless a module has no name, a line
is marked as a fallback exactly if the values are shown as text. -/
theorem report_eq_plan (modules : List Module) :
    let paired := PairedProgram.of classifier modules
    let report := Report.of classifier paired
    let plan := paired.plan classifier
    report.decoders.map (·.reference) = plan.decoderRows.map (·.reference) ∧
      report.pairs.map (·.decoder) = plan.decoderRows.map (·.reference) ∧
      report.pairs.map (·.view) = plan.decoderRows.map (·.view) ∧
      report.views.map (·.reference) = plan.knownViews.map (·.1) ∧
      report.summary.decoders = report.decoders.length ∧
      report.summary.fallbacks = report.pairs.countP (·.fallback) ∧
      report.summary.matched + report.summary.fallbacks = report.summary.decoders ∧
      ((∀ m ∈ modules, m.name ≠ "") →
        ∀ l ∈ report.pairs, l.fallback = true ↔ l.view = "viewAsText") := by
  intro paired report plan
  have hpairings : paired.pairings = pair classifier paired.modules := rfl
  have hdecoders : report.decoders.map (·.reference) = paired.pairings.map Pairing.reference :=
    decoders_pair classifier paired.modules
  have hrows : plan.decoderRows.map (·.reference) = paired.pairings.map Pairing.reference :=
    DecoderTable.map_rows_of (fun _ _ => rfl) classifier paired.pairings
  have hrowViews : plan.decoderRows.map (·.view) = paired.pairings.map fun p => p.rendering.reference :=
    DecoderTable.map_rows_of (fun _ _ => rfl) classifier paired.pairings
  have hpairs : report.pairs = paired.pairings.map pairLine := rfl
  refine ⟨hdecoders.trans hrows.symm, ?_, ?_, views_knownViewsOf classifier paired.modules, ?_, ?_, ?_, ?_⟩
  · rw [hpairs, hrows, List.map_map]
    rfl
  · rw [hpairs, hrowViews, List.map_map]
    rfl
  · have hlength := congrArg List.length hdecoders
    rw [List.length_map, List.length_map] at hlength
    exact hlength.symm
  · rw [hpairs, List.countP_map]
    rfl
  · change paired.pairings.countP _ + paired.pairings.countP _ = paired.pairings.length
    rw [List.length_eq_countP_add_countP fun p : Pairing => p.rendering.isText, Nat.add_comm]
    simp
  · intro hnames l hl
    obtain ⟨p, hp, rfl⟩ := List.mem_map.1 (hpairs ▸ hl)
    have hnames' : ∀ m ∈ paired.modules, m.name ≠ "" := List.forall_mem_map.2 hnames
    exact isText_iff_reference classifier hnames' (hpairings ▸ hp)

/-- A decoder with a view that has the name of the program's own one. -/
def namesakeProgram (owner : String) : List Module :=
  [⟨"M", [⟨"decode", "Json.Decode.Decoder Int"⟩, ⟨"other", "Json.Decode.Decoder Bool"⟩]⟩,
    ⟨owner, [⟨"viewAsText", "Int -> Html.Html msg"⟩]⟩]

theorem report_eq_plan_namesake :
    let report := Report.of Settings.none.classifier (.of Settings.none.classifier (namesakeProgram "V"))
    (∀ m ∈ namesakeProgram "V", m.name ≠ "") ∧
      ∀ l ∈ report.pairs, l.fallback = true ↔ l.view = "viewAsText" := by
  have hnames : ∀ m ∈ namesakeProgram "V", m.name ≠ "" := by decide
  obtain ⟨-, -, -, -, -, -, -, hfallback⟩ := report_eq_plan Settings.none.classifier (namesakeProgram "V")
  exact ⟨hnames, hfallback hnames⟩

/-- In a module without a name the two cannot be told apart. -/
example : ⟨"M.decode", "viewAsText", false⟩ ∈
    (Report.of Settings.none.classifier (.of Settings.none.classifier (namesakeProgram ""))).pairs := by
  decide

end Report
end DecoderBench
