/-
A report justifies its pairings. Its lines for decoders and for views are those of the
signatures that pairing goes through, in the same order; so to look for each decoder's
payload among the views' inputs, line by line, gives the lines of its pairings again
(`pairs_eq_replay`).
-/
import DecoderBench.Proofs.Pairing
import DecoderBench.Report

namespace DecoderBench

namespace Report

/-- The pairing that the lines of views justify for a decoder's line: the first view whose
input is written as the payload is, or else the program's own function. -/
def replay (views : List ViewLine) (d : DecoderLine) : PairLine :=
  match views.find? fun v => v.input == some d.payload with
  | some v => ⟨d.reference, v.reference, false⟩
  | none => ⟨d.reference, "viewAsText", true⟩

section

variable (classifier : Classifier) (modules : List Module)

/-! ## Lines and signatures -/

/-- The line of one decoder. -/
def decoderLine (m : Module) (d : Signature) : DecoderLine := ⟨m.reference d.name, d.type, classifier.payload d⟩

/-- The line of one view. -/
def viewLine (m : Module) (v : Signature) : ViewLine := ⟨m.reference v.name, v.type, classifier.input? v⟩

theorem flatMap_decoderLines : modules.flatMap (decoderLines classifier) =
    ((ownedSignatures modules).filter fun s => classifier.isDecoder s.2).map fun s => decoderLine classifier s.1 s.2 :=
  flatMap_restrict classifier .decoders (decoderLine classifier) modules

theorem flatMap_viewLines : modules.flatMap (viewLines classifier) =
    ((ownedSignatures modules).filter fun s => classifier.isView s.2).map fun s => viewLine classifier s.1 s.2 :=
  flatMap_restrict classifier .views (viewLine classifier) modules

/-! ## The search -/

variable {classifier} (h : ∀ v, classifier.isView v = true → v.isEmbeddable = true)
include h

/-- Where the generated program can show all views, the first line with the payload as its
input is that of the view that pairing finds. -/
theorem find?_viewLines (d : Signature) :
    (modules.flatMap (viewLines classifier)).find? (fun v => v.input == some (classifier.payload d)) =
      (findView? classifier modules d).map fun s => viewLine classifier s.1 s.2 := by
  have hshows (s : Module × Signature) : classifier.shows d s.2 =
      (classifier.isView s.2 && (viewLine classifier s.1 s.2).input == some (classifier.payload d)) := by
    cases hview : classifier.isView s.2 with
    | false => simp [Classifier.shows, hview]
    | true => simp [Classifier.shows, hview, h _ hview, viewLine]
  rw [flatMap_viewLines, List.find?_map, List.find?_filter, findView?_eq_find?]
  simp only [hshows, Function.comp_def, Bool.decide_and, Bool.decide_eq_true]

theorem pairLine_renderingOf (m : Module) (d : Signature) :
    pairLine ⟨m, d, renderingOf classifier modules d⟩ =
      replay (modules.flatMap (viewLines classifier)) (decoderLine classifier m d) := by
  have hfind := find?_viewLines modules h d
  cases hview : findView? classifier modules d with
  | none =>
    rw [hview, Option.map_none] at hfind
    simp only [replay, decoderLine, hfind, renderingOf, hview]
    rfl
  | some s =>
    rw [hview, Option.map_some] at hfind
    simp only [replay, decoderLine, hfind, renderingOf, hview]
    rfl

end

/-- **A report justifies its pairings.** Where views are of the program's own type, the
lines of the pairings are those that the report's other lines give: one for each decoder
in its order, with the reference of the first view whose input is written as the payload
is, and marked as a fallback, with the name of the program's own function, if there is no
such view. -/
theorem pairs_eq_replay (decoderType : String) (modules : List Module) :
    let classifier := Classifier.lexical decoderType "Html.Html"
    let report := Report.of classifier (.of classifier modules)
    report.pairs = report.decoders.map (replay report.views) := by
  intro classifier report
  have hviews : ∀ v, classifier.isView v = true → v.isEmbeddable = true := fun _ hv => hv
  change (pair classifier (classify classifier modules)).map pairLine =
    ((classify classifier modules).flatMap (decoderLines classifier)).map
      (replay ((classify classifier modules).flatMap (viewLines classifier)))
  rw [pair_eq_map_filter, flatMap_decoderLines, List.map_map, List.map_map]
  exact List.map_congr_left fun s _ => pairLine_renderingOf _ hviews s.1 s.2

/-- Views of another type are listed, but no pairing uses them. -/
example :
    let classifier := Classifier.lexical "Json.Decode.Decoder" "Html.Styled.Html"
    let report := Report.of classifier (.of classifier
      [⟨"M", [⟨"decode", "Json.Decode.Decoder Int"⟩, ⟨"styled", "Int -> Html.Styled.Html msg"⟩]⟩])
    report.pairs ≠ report.decoders.map (replay report.views) := by
  decide

end Report
end DecoderBench
