/-
Reports as JSON lose nothing: the text of a report, read as JSON, gives the object from
which the report is taken back field by field (`report_read_back`).
-/
import DecoderBench.Proofs.Json
import DecoderBench.Report.Format

namespace DecoderBench

/-! ## Taking values apart -/

namespace Json

/-- The value that an object has under a key, if it has just one. -/
def field? (key : String) : Json → Option Json
  | .object members =>
    match valuesAt key members with
    | [v] => some v
    | _ => none
  | _ => none

/-- The text that a string denotes. -/
def text? : Json → Option String
  | .string text => text
  | _ => none

/-- The text that a string denotes, or that there is none. -/
def textOrNull? : Json → Option (Option String)
  | .null => some none
  | v => v.text?.map some

def truth? : Json → Option Bool
  | .bool b => some b
  | _ => none

/-- The number that digits denote. -/
def natural? : Json → Option Nat
  | .number lexeme => if lexeme.all Char.isDigit then some (Nat.ofDigitChars 10 lexeme 0) else none
  | _ => none

/-- The elements of a list, if all of them can be read. -/
def elements? {α : Type} (read? : Json → Option α) : Json → Option (List α)
  | .array es => es.mapM read?
  | _ => none

@[simp] theorem text?_ofString (s : String) : (ofString s).text? = some s := rfl

@[simp] theorem textOrNull?_elim (s : Option String) : textOrNull? (s.elim .null ofString) = some s := by
  cases s <;> rfl

@[simp] theorem truth?_bool (b : Bool) : (Json.bool b).truth? = some b := rfl

@[simp] theorem natural?_ofNat (n : Nat) : (ofNat n).natural? = some n := by
  have hdigits : (Nat.toDigits 10 n).all Char.isDigit = true :=
    List.all_eq_true.2 fun _ hc => Nat.isDigit_of_mem_toDigits (by decide) (by decide) hc
  rw [ofNat, natural?, if_pos hdigits, Nat.ofDigitChars_ten_toDigits]

theorem elements?_map {α : Type} {read? : Json → Option α} {write : α → Json} (h : ∀ a, read? (write a) = some a)
    (l : List α) : elements? read? (.array (l.map write)) = some l := by
  rw [elements?]
  induction l with
  | nil => rfl
  | cons a l ih => simp [h, ih]

end Json

/-! ## Reports out of objects -/

/-- The counts that an object gives. -/
def Summary.ofJson? (v : Json) : Option Summary := do
  let decoders ← (← v.field? "decoders").natural?
  let matched ← (← v.field? "matched").natural?
  let fallbacks ← (← v.field? "fallbacks").natural?
  return { decoders, matched, fallbacks }

namespace Report

/-- The line of a decoder that an object gives. -/
def DecoderLine.ofJson? (v : Json) : Option DecoderLine := do
  let reference ← (← v.field? "reference").text?
  let signature ← (← v.field? "signature").text?
  let payload ← (← v.field? "payload").text?
  return { reference, signature, payload }

/-- The line of a view that an object gives. -/
def ViewLine.ofJson? (v : Json) : Option ViewLine := do
  let reference ← (← v.field? "reference").text?
  let signature ← (← v.field? "signature").text?
  let input ← (← v.field? "input").textOrNull?
  return { reference, signature, input }

/-- The line of a pairing that an object gives. -/
def PairLine.ofJson? (v : Json) : Option PairLine := do
  let decoder ← (← v.field? "decoder").text?
  let view ← (← v.field? "view").text?
  let fallback ← (← v.field? "fallback").truth?
  return { decoder, view, fallback }

/-- The report that an object gives. -/
def ofJson? (v : Json) : Option Report := do
  let decoders ← (← v.field? "decoders").elements? DecoderLine.ofJson?
  let views ← (← v.field? "views").elements? ViewLine.ofJson?
  let pairs ← (← v.field? "pairs").elements? PairLine.ofJson?
  let summary ← Summary.ofJson? (← v.field? "summary")
  return { decoders, views, pairs, summary }

/-! ## What is written is read -/

theorem DecoderLine.ofJson?_toJson (l : DecoderLine) : ofJson? l.toJson = some l := rfl

theorem ViewLine.ofJson?_toJson (l : ViewLine) : ofJson? l.toJson = some l := by
  have hinput : l.toJson.field? "input" = some (l.input.elim .null .ofString) := rfl
  rw [ofJson?, hinput]
  simp only [Option.bind_eq_bind, Option.bind_some, Json.textOrNull?_elim]
  rfl

theorem PairLine.ofJson?_toJson (l : PairLine) : ofJson? l.toJson = some l := rfl

theorem ofJson?_summaryJson (s : Summary) : Summary.ofJson? (summaryJson s) = some s := by
  have hdecoders : (summaryJson s).field? "decoders" = some (.ofNat s.decoders) := rfl
  have hmatched : (summaryJson s).field? "matched" = some (.ofNat s.matched) := rfl
  have hfallbacks : (summaryJson s).field? "fallbacks" = some (.ofNat s.fallbacks) := rfl
  simp [Summary.ofJson?, hdecoders, hmatched, hfallbacks]

theorem ofJson?_toJson (r : Report) : ofJson? r.toJson = some r := by
  have hdecoders : r.toJson.field? "decoders" = some (.array (r.decoders.map DecoderLine.toJson)) := rfl
  have hviews : r.toJson.field? "views" = some (.array (r.views.map ViewLine.toJson)) := rfl
  have hpairs : r.toJson.field? "pairs" = some (.array (r.pairs.map PairLine.toJson)) := rfl
  have hsummary : r.toJson.field? "summary" = some (summaryJson r.summary) := rfl
  simp [ofJson?, hdecoders, hviews, hpairs, hsummary, ofJson?_summaryJson,
    Json.elements?_map DecoderLine.ofJson?_toJson, Json.elements?_map ViewLine.ofJson?_toJson,
    Json.elements?_map PairLine.ofJson?_toJson]

/-! ## What is written is JSON -/

theorem DecoderLine.isWritable_toJson (l : DecoderLine) : l.toJson.IsWritable :=
  Json.isWritable_record (by simp)

theorem ViewLine.isWritable_toJson (l : ViewLine) : l.toJson.IsWritable := by
  have hinput : (l.input.elim Json.null Json.ofString).IsWritable := by
    cases l.input with
    | none => exact .null
    | some input => exact Json.isWritable_ofString input
  exact Json.isWritable_record (by simp [hinput])

theorem PairLine.isWritable_toJson (l : PairLine) : l.toJson.IsWritable :=
  Json.isWritable_record (by simp [Json.IsWritable.bool])

theorem isWritable_summaryJson (s : Summary) : (summaryJson s).IsWritable :=
  Json.isWritable_record (by simp)

theorem isWritable_toJson (r : Report) : r.toJson.IsWritable := by
  have hdecoders := Json.isWritable_map DecoderLine.isWritable_toJson r.decoders
  have hviews := Json.isWritable_map ViewLine.isWritable_toJson r.views
  have hpairs := Json.isWritable_map PairLine.isWritable_toJson r.pairs
  exact Json.isWritable_record (by simp [hdecoders, hviews, hpairs, isWritable_summaryJson])

/-- **Reports as JSON lose nothing.** With or without colours, the text of a report is
JSON, and the value that it spells gives the report back. So different reports have
different texts. -/
theorem report_read_back (r : Report) (color : Bool) :
    (∃ v, Json.parse (r.render .json color).toList = some v ∧ ofJson? v = some r) ∧
    ∀ (s : Report) (color' : Bool), r.render .json color = s.render .json color' ↔ r = s := by
  have hread : ∀ r : Report, Json.parse r.toJson.pretty.toList = some r.toJson :=
    fun r => Json.parse_pretty r.isWritable_toJson
  refine ⟨⟨r.toJson, hread r, ofJson?_toJson r⟩, fun s color' => ⟨fun htext => ?_, fun h => by rw [h]; rfl⟩⟩
  have hvalue : some r.toJson = some s.toJson := by
    rw [← hread r, ← hread s]
    exact congrArg (fun text : String => Json.parse text.toList) htext
  have hreport : some r = some s := by
    rw [← ofJson?_toJson r, ← ofJson?_toJson s, Option.some.inj hvalue]
  exact Option.some.inj hreport

end Report
end DecoderBench
