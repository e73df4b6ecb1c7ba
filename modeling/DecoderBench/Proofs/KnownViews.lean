/-
Which simple views share a constructor. A view is known by the spelling of its type, so
views of one type share one, and so do views whose types are spelled alike
(`constructors_knownViews_iff`). Those may be different types
(`unlike_views_share_constructor`), unless both are plain.
-/
import DecoderBench.Proofs.Branches
import DecoderBench.Proofs.Spelling
import DecoderBench.Settings

namespace DecoderBench

open Identifier (Alike IsPlain capitalize writeArrows)
open Text (squeeze)

/-! ## Constructors of types -/

theorem Signature.tagName_eq_iff {s t : Signature} :
    s.tagName = t.tagName ↔ List.Forall₂ Alike (capitalize (writeArrows (squeeze s.type.toList)))
      (capitalize (writeArrows (squeeze t.type.toList))) := by
  rw [tagName, tagName, String.append_left_inj, Identifier.ofType_eq_iff]

theorem Signature.tagName_inj_of_isPlain {s t : Signature} (hs : IsPlain (squeeze s.type.toList))
    (ht : IsPlain (squeeze t.type.toList)) :
    s.tagName = t.tagName ↔ squeeze s.type.toList = squeeze t.type.toList := by
  rw [tagName, tagName, String.append_left_inj]
  exact Identifier.ofType_inj_of_isPlain hs ht

namespace PairedProgram

/-- **A constructor for each spelling.** The known views are the simple views, in their
order, and the constructors that are declared for them are theirs, each once. Two views
have one constructor if and only if their types are spelled alike. So views whose types
differ in blanks only always have one; and where the types are plain, no others have. -/
theorem constructors_knownViews_iff (classifier : Classifier) (modules : List Module) :
    let plan := (of classifier modules).plan classifier
    let views := (ownedSignatures modules).filter fun s => classifier.isView s.2
    plan.knownViews.map (·.1) = views.map (fun v => v.1.reference v.2.name) ∧
    plan.viewCases.map (·.name) = (plan.knownViews.map (·.2)).eraseDups ∧
    ∀ a ∈ views.zip plan.knownViews, ∀ b ∈ views.zip plan.knownViews,
      let s := squeeze a.1.2.type.toList
      let t := squeeze b.1.2.type.toList
      (a.2.2 = b.2.2 ↔ List.Forall₂ Alike (capitalize (writeArrows s)) (capitalize (writeArrows t))) ∧
      (s = t → a.2.2 = b.2.2) ∧
      (IsPlain s → IsPlain t → (a.2.2 = b.2.2 ↔ s = t)) := by
  intro plan views
  have hknown : plan.knownViews = views.map fun v => (v.1.reference v.2.name, v.2.tagName) :=
    knownViews_plan classifier modules
  have htag : ∀ a ∈ views.zip plan.knownViews, a.2.2 = a.1.2.tagName := by
    intro a ha
    rw [hknown, List.zip_eq_zipWith, List.zipWith_map_right, List.zipWith_self, List.mem_map] at ha
    obtain ⟨v, -, rfl⟩ := ha
    rfl
  refine ⟨?_, Plan.names_viewCasesOf classifier (classify classifier modules), fun a ha b hb => ?_⟩
  · rw [hknown, List.map_map]
    rfl
  · intro s t
    rw [htag a ha, htag b hb]
    exact ⟨Signature.tagName_eq_iff, Identifier.tagName_congr_of_squeeze, Signature.tagName_inj_of_isPlain⟩

/-- Views of plain types, none of which is another. -/
def plainViews : List Module :=
  [⟨"V", [⟨"int", "Int -> Html.Html msg"⟩]⟩, ⟨"W", [⟨"unit", "Unit->Html.Html msg"⟩]⟩]

theorem constructors_knownViews_iff_plainViews :
    let classifier := Settings.none.classifier
    let views := (ownedSignatures plainViews).filter fun s => classifier.isView s.2
    let known := views.zip ((of classifier plainViews).plan classifier).knownViews
    ∃ a ∈ known, ∃ b ∈ known, IsPlain (squeeze a.1.2.type.toList) ∧ IsPlain (squeeze b.1.2.type.toList) ∧
      a.2.2 ≠ b.2.2 := by
  intro classifier views known
  let int : Signature := ⟨"int", "Int -> Html.Html msg"⟩
  let unit : Signature := ⟨"unit", "Unit->Html.Html msg"⟩
  have ha : ((⟨"V", [int]⟩, int), ("V.int", "Int_to_Html_HtmlmsgTag")) ∈ known := by decide
  have hb : ((⟨"W", [unit]⟩, unit), ("W.unit", "Unit_to_Html_HtmlmsgTag")) ∈ known := by decide
  have hint : IsPlain (squeeze int.type.toList) := by decide
  have hunit : IsPlain (squeeze unit.type.toList) := by decide
  have hplain := ((constructors_knownViews_iff classifier plainViews).2.2 _ ha _ hb).2.2 hint hunit
  refine ⟨_, ha, _, hb, hint, hunit, fun h => ?_⟩
  exact absurd (hplain.1 h) (by decide)

/-- The type of a pair and that of a record may be spelled alike. Views of both have one
constructor then, whose case has the type of the first. -/
theorem unlike_views_share_constructor :
    let classifier := Settings.none.classifier
    let modules : List Module :=
      [⟨"M", [⟨"pair", "(a, Int) -> Html.Html msg"⟩, ⟨"record", "{a : Int} -> Html.Html msg"⟩]⟩]
    let plan := (of classifier modules).plan classifier
    let views := (ownedSignatures modules).filter fun s => classifier.isView s.2
    plan.viewCases = [⟨"T_a_Int__to_Html_HtmlmsgTag", "(a, Int) -> Html.Html msg"⟩] ∧
      ∃ a ∈ views.zip plan.knownViews, ∃ b ∈ views.zip plan.knownViews,
        a.2.2 = b.2.2 ∧ squeeze a.1.2.type.toList ≠ squeeze b.1.2.type.toList := by
  decide

end PairedProgram
end DecoderBench
