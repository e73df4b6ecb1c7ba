/-
Colours only add style sequences to the text of a report: without them it is the text
that has no colours, unless a text that it shows holds such sequences itself
(`strip_render`).
-/
import DecoderBench.Proofs.Identifier
import DecoderBench.Proofs.Terminal
import DecoderBench.Report.Format

namespace DecoderBench.Report

open Terminal

/-- The texts that the lines of a report show. -/
def texts (r : Report) : List String :=
  (r.decoders.flatMap fun d => [d.reference, d.signature]) ++
    (r.views.flatMap fun v => [v.reference, v.signature]) ++
    r.pairs.flatMap fun l => [l.decoder, l.view]

/-! ## Lines -/

theorem strip_styled (color : Bool) (style : Style) (s : String) :
    strip (styled color style s).toList = strip s.toList := by
  cases color with
  | false => rfl
  | true => exact strip_paint style s

theorem escape_not_mem_toString (n : Nat) : escape ∉ (toString n).toList := by
  intro hmem
  have hdigit := Identifier.isDigit_of_mem_toString hmem
  cases hdigit

theorem escape_not_mem_counted {title : String} (h : escape ∉ title.toList) (n : Nat) :
    escape ∉ (counted title n).toList := by
  have hopen : escape ∉ " (".toList := by decide
  have hclose : escape ∉ ")".toList := by decide
  simp only [counted, String.toList_append, List.mem_append, not_or]
  exact ⟨⟨⟨h, hopen⟩, escape_not_mem_toString n⟩, hclose⟩

theorem escape_not_mem_summaryText (s : Summary) : escape ∉ (summaryText s).toList := by
  have hdecoders : escape ∉ " decoders, ".toList := by decide
  have hmatched : escape ∉ " paired with a view, ".toList := by decide
  have hfallbacks : escape ∉ " rendered as text".toList := by decide
  simp only [summaryText, String.toList_append, List.mem_append, not_or]
  exact ⟨⟨⟨⟨⟨escape_not_mem_toString _, hdecoders⟩, escape_not_mem_toString _⟩, hmatched⟩,
    escape_not_mem_toString _⟩, hfallbacks⟩

/-- A line that says something of something else, with a sign between the two. -/
def entry (left : String) (sign : List Char) (right : String) : List Char :=
  [' ', ' '] ++ (left.toList ++ ([' '] ++ (sign ++ ([' '] ++ right.toList))))

section

variable {left right : String} {sign : List Char}

theorem strip_entry (hsign : escape ∉ sign) :
    strip (entry left sign right) =
      [' ', ' '] ++ (strip left.toList ++ ([' '] ++ (sign ++ ([' '] ++ strip right.toList)))) := by
  rw [entry, strip_append_of_not_mem (by decide), strip_append _ rfl, strip_append_of_not_mem (by decide),
    strip_append_of_not_mem hsign, strip_append_of_not_mem (by decide)]

theorem strip_entry_eq_self_iff (hsign : escape ∉ sign) :
    strip (entry left sign right) = entry left sign right ↔
      strip left.toList = left.toList ∧ strip right.toList = right.toList := by
  rw [entry, strip_append_of_not_mem_eq_self_iff (by decide), strip_append_eq_self_iff rfl,
    strip_append_of_not_mem_eq_self_iff (by decide), strip_append_of_not_mem_eq_self_iff hsign,
    strip_append_of_not_mem_eq_self_iff (by decide)]

end

theorem toList_typed (color : Bool) (reference signature : String) :
    (typed color reference signature).toList = entry reference [':'] (styled color .dimmed signature) := by
  simp [typed, entry]

theorem strip_typed (color : Bool) (reference signature : String) :
    strip (typed color reference signature).toList = strip (typed false reference signature).toList := by
  have hsign : escape ∉ [':'] := by decide
  simp only [toList_typed, strip_entry hsign, strip_styled]

theorem strip_typed_eq_self_iff (reference signature : String) :
    strip (typed false reference signature).toList = (typed false reference signature).toList ↔
      strip reference.toList = reference.toList ∧ strip signature.toList = signature.toList := by
  rw [toList_typed, strip_entry_eq_self_iff (by decide)]
  rfl

/-- What is said of a decoder's view. -/
def PairLine.shown (l : PairLine) : String := if l.fallback then l.view ++ " (fallback)" else l.view

theorem toList_pairText (color : Bool) (l : PairLine) :
    (l.text color).toList =
      entry l.decoder ['-', '>'] (styled color (if l.fallback then .warning else .success) l.shown) := by
  cases h : l.fallback <;> simp [PairLine.text, PairLine.shown, entry, h]

theorem strip_shown_eq_self_iff (l : PairLine) :
    strip l.shown.toList = l.shown.toList ↔ strip l.view.toList = l.view.toList := by
  have hnote : strip " (fallback)".toList = " (fallback)".toList := strip_eq_self_of_not_mem (by decide)
  rw [PairLine.shown]
  split
  · rw [String.toList_append, strip_append_eq_self_iff rfl, and_iff_left hnote]
  · rfl

theorem strip_pairText (color : Bool) (l : PairLine) : strip (l.text color).toList = strip (l.text false).toList := by
  have hsign : escape ∉ ['-', '>'] := by decide
  simp only [toList_pairText, strip_entry hsign, strip_styled]

theorem strip_pairText_eq_self_iff (l : PairLine) :
    strip (l.text false).toList = (l.text false).toList ↔
      strip l.decoder.toList = l.decoder.toList ∧ strip l.view.toList = l.view.toList := by
  rw [toList_pairText, strip_entry_eq_self_iff (by decide), ← strip_shown_eq_self_iff l]
  rfl

/-! ## Reports -/

theorem toList_render (r : Report) (color : Bool) :
    (r.render .terminal color).toList = ['\n'].intercalate ((terminalLines color r).map String.toList) :=
  String.toList_intercalate

/-- Each line leaves the same with colours and without. -/
theorem map_strip_terminalLines (r : Report) (color : Bool) :
    (terminalLines color r).map (fun l => strip l.toList) = (terminalLines false r).map fun l => strip l.toList := by
  simp only [terminalLines, List.map_append, List.map_cons, List.map_map, Function.comp_def, strip_styled,
    strip_typed color, strip_pairText color]

/-- Lines without colours are left as they are if what they show is. -/
theorem strip_lines_eq_self_iff (r : Report) :
    (∀ l ∈ terminalLines false r, strip l.toList = l.toList) ↔ ∀ t ∈ r.texts, strip t.toList = t.toList := by
  have hdecoders : ∀ n, strip (counted "Decoders" n).toList = (counted "Decoders" n).toList :=
    fun n => strip_eq_self_of_not_mem (escape_not_mem_counted (by decide) n)
  have hviews : ∀ n, strip (counted "Views" n).toList = (counted "Views" n).toList :=
    fun n => strip_eq_self_of_not_mem (escape_not_mem_counted (by decide) n)
  have hpairings : strip "Pairings".toList = "Pairings".toList := strip_eq_self_of_not_mem (by decide)
  have hempty : strip "".toList = "".toList := strip_eq_self_of_not_mem (by decide)
  have hsummary : strip (summaryText r.summary).toList = (summaryText r.summary).toList :=
    strip_eq_self_of_not_mem (escape_not_mem_summaryText r.summary)
  simp only [terminalLines, texts, styled, Bool.false_eq_true, if_false, List.forall_mem_append, List.forall_mem_cons,
    List.forall_mem_map, List.forall_mem_flatMap, List.not_mem_nil, false_implies, implies_true, true_and, and_true,
    and_assoc, hdecoders, hviews, hpairings, hempty, hsummary, strip_typed_eq_self_iff, strip_pairText_eq_self_iff]

/-- **Colours only add style sequences.** With colours and without, the terminal text of a
report leaves the same. This is the text without colours exactly if none of the texts that
it shows holds a style sequence. -/
theorem strip_render (r : Report) :
    strip (r.render .terminal true).toList = strip (r.render .terminal false).toList ∧
    (strip (r.render .terminal true).toList = (r.render .terminal false).toList ↔
      ∀ t ∈ r.texts, ¬ HasSequence t.toList) := by
  have hsame : strip (r.render .terminal true).toList = strip (r.render .terminal false).toList := by
    rw [toList_render, toList_render, strip_intercalate, strip_intercalate, List.map_map, List.map_map]
    exact congrArg _ (map_strip_terminalLines r true)
  refine ⟨hsame, ?_⟩
  rw [hsame, toList_render, strip_intercalate_eq_self_iff, List.forall_mem_map, strip_lines_eq_self_iff]
  simp only [strip_eq_self_iff]

end DecoderBench.Report
