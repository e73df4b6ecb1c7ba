/-
Sorting the signatures of a program. No type is a decoder of one type and a view of
another, so where the two differ, each signature that is kept is either a decoder or a
view, and the counts of both add up (`sorted_once`).
-/
import DecoderBench.Proofs.Lexical
import DecoderBench.Proofs.Pairing
import DecoderBench.Report
import Mathlib.Algebra.BigOperators.Group.List.Basic

namespace DecoderBench

variable {classifier : Classifier}

/-- No signature is sorted as a decoder and as a view. -/
def Classifier.SortsOnce (classifier : Classifier) : Prop :=
  ∀ s, classifier.isDecoder s = true → classifier.isView s = false

theorem Classifier.sortsOnce_lexical {decoderType viewType : String} (h : decoderType ≠ viewType) :
    (lexical decoderType viewType).SortsOnce := by
  intro s hdecoder
  rw [Bool.eq_false_iff]
  exact fun hview => h (Lexical.eq_of_isDecoder_of_isView hdecoder hview)

/-! ## One module -/

namespace Module

/-- What is kept of a module is its decoders and its views, and nothing is both. -/
structure IsSortedOnce (classifier : Classifier) (m : Module) : Prop where
  /-- A signature that is kept is a decoder, or else a view. -/
  either : ∀ s ∈ (m.restrict classifier .decodersAndViews).signatures,
    s ∈ (m.restrict classifier .decoders).signatures ↔ s ∉ (m.restrict classifier .views).signatures
  /-- With their repetitions, the signatures that are kept are the decoders and the views. -/
  perm : ((m.restrict classifier .decoders).signatures ++ (m.restrict classifier .views).signatures).Perm
    (m.restrict classifier .decodersAndViews).signatures
  /-- Each selection has the order of what it is selected from. -/
  inOrder : ∀ selection, (m.restrict classifier selection).signatures.Sublist
    (m.restrict classifier .decodersAndViews).signatures
  kept_inOrder : (m.restrict classifier .decodersAndViews).signatures.Sublist m.signatures
  /-- To select from what is kept is to select from the module. -/
  restrict_kept : ∀ selection, (m.restrict classifier .decodersAndViews).restrict classifier selection =
    m.restrict classifier selection

variable (h : classifier.SortsOnce) (m : Module)
include h

theorem perm_restrict :
    ((m.restrict classifier .decoders).signatures ++ (m.restrict classifier .views).signatures).Perm
      (m.restrict classifier .decodersAndViews).signatures := by
  have hviews : (m.restrict classifier .decodersAndViews).signatures.filter (fun s => !classifier.isDecoder s) =
      (m.restrict classifier .views).signatures := by
    rw [restrict, restrict, List.filter_filter]
    refine List.filter_congr fun s _ => ?_
    have hs := h s
    cases hdecoder : classifier.isDecoder s <;> simp_all [Selection.keeps]
  rw [← restrict_kept m .decoders, ← hviews]
  exact List.filter_append_perm _ _

theorem isSortedOnce : m.IsSortedOnce classifier where
  either s hs := by
    simp only [restrict, List.mem_filter, Selection.keeps, Bool.or_eq_true] at hs ⊢
    obtain ⟨hmem, hkept⟩ := hs
    have hs := h s
    cases hdecoder : classifier.isDecoder s <;> simp_all
  perm := perm_restrict h m
  inOrder selection := by
    rw [← restrict_kept m selection]
    exact List.filter_sublist
  kept_inOrder := List.filter_sublist
  restrict_kept := restrict_kept m

end Module

/-! ## A program -/

namespace Report

/-- The lines of a report count the signatures that are kept. -/
theorem signatureCount_eq (h : classifier.SortsOnce) (modules : List Module) :
    let report := Report.of classifier (.of classifier modules)
    signatureCount (classify classifier modules) = report.decoders.length + report.views.length := by
  have hmodule (m : Module) : (m.restrict classifier .decodersAndViews).signatures.length =
      (decoderLines classifier (m.restrict classifier .decodersAndViews)).length +
        (viewLines classifier (m.restrict classifier .decodersAndViews)).length := by
    rw [decoderLines, viewLines, List.length_map, List.length_map, Module.restrict_kept, Module.restrict_kept,
      ← (Module.perm_restrict h m).length_eq, List.length_append]
  simp only [signatureCount, Report.of, PairedProgram.of, classify, List.length_flatMap, List.map_map,
    Function.comp_def, hmodule, List.sum_map_add]

end Report

/-- **Each signature is sorted once.** No type is a decoder of one type and a view of
another; the decoders of a type that are views of it too are those with something behind
the type. Where the types of decoders and of views differ, what is kept of a module is its
decoders and its views, each in the order of the module, and no signature is both. So the
report on a program has as many lines for decoders and for views as signatures are kept. -/
theorem sorted_once :
    (∀ decoderType viewType type, Lexical.isDecoder decoderType type = true →
      Lexical.isView viewType type = true → decoderType = viewType) ∧
    (∀ head type, Lexical.isDecoder head type = true ∧ Lexical.isView head type = true ↔
      Lexical.isDecoder head type = true ∧ 2 ≤ (Text.tokens type.toList).length) ∧
    ∀ decoderType viewType, decoderType ≠ viewType → ∀ modules : List Module,
      let classifier := Classifier.lexical decoderType viewType
      let report := Report.of classifier (.of classifier modules)
      (∀ m ∈ modules, m.IsSortedOnce classifier) ∧
        signatureCount (classify classifier modules) = report.decoders.length + report.views.length := by
  refine ⟨fun _ _ _ => Lexical.eq_of_isDecoder_of_isView, fun head type => ?_, ?_⟩
  · exact and_congr_right fun h => Lexical.isView_iff_of_isDecoder h
  · intro decoderType viewType hne modules
    have honce := Classifier.sortsOnce_lexical hne
    exact ⟨fun m _ => m.isSortedOnce honce, Report.signatureCount_eq honce modules⟩

/-- Decoders and views, one decoder twice, and a signature that is neither. -/
def mixedProgram : List Module :=
  [⟨"M", [⟨"decode", "Json.Decode.Decoder Int"⟩, ⟨"show", "Int -> Html.Html msg"⟩,
      ⟨"decode", "Json.Decode.Decoder Int"⟩, ⟨"size", "Int"⟩]⟩,
    ⟨"N", [⟨"bare", "Json.Decode.Decoder"⟩, ⟨"page", "Html.Html msg"⟩]⟩]

theorem sorted_once_mixedProgram :
    let classifier := Classifier.lexical "Json.Decode.Decoder" "Html.Html"
    "Json.Decode.Decoder" ≠ "Html.Html" ∧ (∀ m ∈ mixedProgram, m.IsSortedOnce classifier) ∧
      (Report.of classifier (.of classifier mixedProgram)).decoders.length +
        (Report.of classifier (.of classifier mixedProgram)).views.length = 5 ∧
      Lexical.isDecoder "Html.Html" "Html.Html msg" = true ∧ Lexical.isView "Html.Html" "Html.Html msg" = true := by
  obtain ⟨-, hboth, hprogram⟩ := sorted_once
  have hne : "Json.Decode.Decoder" ≠ "Html.Html" := by decide
  obtain ⟨hmodules, hcount⟩ := hprogram _ _ hne mixedProgram
  refine ⟨hne, hmodules, ?_, ((hboth "Html.Html" "Html.Html msg").2 ?_)⟩
  · rw [← hcount]
    decide
  · decide

end DecoderBench
