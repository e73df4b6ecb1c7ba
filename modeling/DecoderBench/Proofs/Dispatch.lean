/-
How the generated program shows a decoded value: the decoder's row wraps the
value in a constructor, and the constructor's case applies a view to it.

`dispatch_typed`: the view takes what the case carries, and the case carries what
the decoder gives. `rows_truthful_iff`: when the view that a row names is the one
that is applied. It may be another one, as decoders share a case if their types
have the same tokens, while views are looked up by the payload as it is written
(`row_names_other_view`). `foreign_view_type_shows_text`: no view of another type than
the program's own is ever applied.
-/
import DecoderBench.Proofs.Lexical
import DecoderBench.Proofs.PairedProgram
import DecoderBench.Settings

namespace DecoderBench

/-- The case that is taken for values in `constructor`: the first of that name. -/
def Plan.case? (plan : Plan) (constructor : String) : Option DecodedCase :=
  plan.decodedCases.find? fun d => d.name == constructor

theorem Plan.case?_eq_some {plan : Plan} (h : (plan.decodedCases.map (·.name)).Nodup) {d : DecodedCase}
    (hd : d ∈ plan.decodedCases) : plan.case? d.name = some d := by
  cases he : plan.case? d.name with
  | none => exact absurd (List.find?_eq_none.1 he d hd) (by simp)
  | some e =>
    have hname : e.name = d.name := by simpa using List.find?_some he
    rw [List.inj_on_of_nodup_map h (List.mem_of_find?_eq_some he) hd hname]

namespace PairedProgram

variable {classifier : Classifier} {modules : List Module}

/-- The values of a decoder are shown by the view of the first decoder whose type has
the same tokens. -/
theorem case?_rows_plan :
    List.Forall₂
      (fun p r => ∃ q d, (pair classifier modules).find? (fun q => q.key == p.key) = some q ∧
        q.MadeFor classifier d ∧
        ((of classifier modules).plan classifier).case? r.constructor = some d ∧
        r = DecoderTable.rowOf p r.constructor)
      (pair classifier modules) ((of classifier modules).plan classifier).decoderRows := by
  refine (rows_plan classifier modules).imp fun p r ⟨q, d, hq, hmade, hd, hr⟩ => ?_
  subst hr
  exact ⟨q, d, hq, hmade, Plan.case?_eq_some (nodup_names_plan classifier modules) hd, rfl⟩

/-- **Dispatch is typed**, as far as texts tell. A case made for a decoder without a
view shows its values as text; any other case applies a view whose input is written
as the case's payload is. And each decoder has a row, and the payload of the case that
the row names has the tokens of the decoder's own payload. -/
theorem dispatch_typed (isDecoder isView : Signature → Bool) (modules : List Module) :
    let classifier := Classifier.ofTests isDecoder isView
    let plan := (of classifier modules).plan classifier
    (∀ d ∈ plan.decodedCases,
      (∃ p ∈ pair classifier modules, p.rendering.isText = true ∧
        d.payload = Lexical.payload p.decoder.type ∧ d.view = "viewAsText") ∨
      ∃ m ∈ modules, ∃ v ∈ m.signatures, isView v = true ∧ v.isEmbeddable = true ∧
        Lexical.input? v.type = some d.payload ∧ d.view = m.reference v.name) ∧
    List.Forall₂
      (fun p r => r.reference = p.reference ∧ ∃ d, plan.case? r.constructor = some d ∧
        Text.tokens d.payload.toList = Text.tokens (Lexical.payload p.decoder.type).toList)
      (pair classifier modules) plan.decoderRows := by
  intro classifier plan
  refine ⟨fun d hd => ?_, ?_⟩
  · obtain ⟨p, hp, hmade⟩ := exists_madeFor_plan classifier modules hd
    have hview := hmade.view
    rw [rendering_of_mem_pair hp] at hview
    rcases renderingOf_cases classifier modules p.decoder with ht | ⟨m, hm, v, hv, hr, hs⟩
    · rw [ht] at hview
      exact .inl ⟨p, hp, by rw [rendering_of_mem_pair hp, ht]; rfl, hmade.payload, hview⟩
    · rw [hr] at hview
      simp only [Classifier.shows, Bool.and_eq_true, beq_iff_eq] at hs
      exact .inr ⟨m, hm, v, hv, hs.1.1, hs.1.2, by rw [hmade.payload]; exact hs.2, hview⟩
  · refine case?_rows_plan.imp fun p r h => ?_
    obtain ⟨q, d, hq, hmade, hd, hr⟩ := h
    refine ⟨by rw [hr]; rfl, d, hd, ?_⟩
    have hkey : q.key = p.key := by simpa using List.find?_some hq
    rw [hmade.payload]
    exact Lexical.tokens_payload_congr hkey

/-- Two decoders of one type whose blanks differ, and a view for the first. -/
def spacedDecoders : List Module :=
  [⟨"M", [⟨"tight", "Json.Decode.Decoder (List Int)"⟩, ⟨"loose", "Json.Decode.Decoder (List  Int)"⟩,
    ⟨"show", "(List Int) -> Html.Html msg"⟩]⟩]

theorem dispatch_typed_spacedDecoders :
    let plan := (of Settings.none.classifier spacedDecoders).plan Settings.none.classifier
    ⟨"T_ListInt_Payload", "(List Int)", "M.show"⟩ ∈ plan.decodedCases ∧
      ∃ m ∈ spacedDecoders, ∃ v ∈ m.signatures, v.isEmbeddable = true ∧
        Lexical.input? v.type = some "(List Int)" ∧ "M.show" = m.reference v.name := by
  intro plan
  have hmem : ⟨"T_ListInt_Payload", "(List Int)", "M.show"⟩ ∈ plan.decodedCases := by decide
  refine ⟨hmem, ?_⟩
  rcases (dispatch_typed _ _ spacedDecoders).1 _ hmem with
    ⟨p, -, -, -, htext⟩ | ⟨m, hm, v, hv, -, hembed, hinput, href⟩
  · exact absurd htext (by decide)
  · exact ⟨m, hm, v, hv, hembed, hinput, href⟩

/-! ## What rows say and what is applied -/

/-- A row names the view that is applied if the decoder that the case was made for,
the first whose type has the same tokens, has a view of the same reference. -/
theorem rows_truthful_iff_first :
    (∀ r ∈ ((of classifier modules).plan classifier).decoderRows,
      (((of classifier modules).plan classifier).case? r.constructor).map (·.view) = some r.view) ↔
    ∀ p ∈ pair classifier modules, ∀ q,
      (pair classifier modules).find? (fun q => q.key == p.key) = some q →
      q.rendering.reference = p.rendering.reference := by
  refine (forall_mem_iff_of_forall₂ case?_rows_plan fun p r ⟨q, d, hq, hmade, hd, hr⟩ => ?_).symm
  have hview : r.view = p.rendering.reference := by rw [hr]; rfl
  simp only [hd, hview, hmade.view, Option.map_some, Option.some.injEq]
  exact ⟨fun h => h q hq, fun h q' hq' => by rw [hq, Option.some.injEq] at hq'; rw [← hq', h]⟩

/-- **When rows name the view that is applied**: if and only if decoders whose types
have the same tokens, but whose payloads are not written alike, are shown by
functions of one reference. -/
theorem rows_truthful_iff (classifier : Classifier) (modules : List Module) :
    (∀ r ∈ ((of classifier modules).plan classifier).decoderRows,
      (((of classifier modules).plan classifier).case? r.constructor).map (·.view) = some r.view) ↔
    ∀ p ∈ pair classifier modules, ∀ q ∈ pair classifier modules,
      Text.tokens p.decoder.type.toList = Text.tokens q.decoder.type.toList →
      classifier.payload p.decoder ≠ classifier.payload q.decoder →
      p.rendering.reference = q.rendering.reference := by
  rw [rows_truthful_iff_first]
  constructor
  · intro h p hp q hq hkey _
    -- Both are shown as the first decoder of their type is.
    obtain ⟨f, hf⟩ := Option.isSome_iff_exists.1
      (List.find?_isSome.2 ⟨p, hp, beq_self_eq_true p.key⟩ :
        ((pair classifier modules).find? fun f => f.key == p.key).isSome = true)
    have hkey' : p.key = q.key := hkey
    exact (h p hp f hf).symm.trans (h q hq f (hkey' ▸ hf))
  · intro h p hp q hq
    have hmem : q ∈ pair classifier modules := List.mem_of_find?_eq_some hq
    by_cases hpay : classifier.payload q.decoder = classifier.payload p.decoder
    · rw [rendering_of_mem_pair hmem, rendering_of_mem_pair hp, renderingOf_congr hpay]
    · have hkey : q.key = p.key := by simpa using List.find?_some hq
      exact h q hmem p hp hkey hpay

/-- A row may name another view than the one that is applied: the payload of `loose`
has a blank more than the input of `show`, so its row says that its values are shown
as text, but they go through the case of `tight`. -/
theorem row_names_other_view :
    let plan := (of Settings.none.classifier spacedDecoders).plan Settings.none.classifier
    ∃ r ∈ plan.decoderRows, r.reference = "M.loose" ∧ r.view = "viewAsText" ∧
      (plan.case? r.constructor).map (·.view) = some "M.show" := by
  decide

/-! ## Views of another type -/

section

variable (decoderType : String) {viewType : String} (h : viewType ≠ "Html.Html") (modules : List Module)
include h

/-- A view of another type than the program's own shows no values. -/
theorem shows_lexical_eq_false (d v : Signature) : (Classifier.lexical decoderType viewType).shows d v = false := by
  rw [Bool.eq_false_iff]
  intro hshows
  simp only [Classifier.shows, Bool.and_eq_true] at hshows
  exact h (Lexical.eq_of_isView hshows.1.1 hshows.1.2)

theorem rendering_of_mem_pair_lexical {p : Pairing} (hp : p ∈ pair (.lexical decoderType viewType) modules) :
    p.rendering = @Rendering.text .nameless := by
  rw [rendering_of_mem_pair hp]
  rcases renderingOf_cases (.lexical decoderType viewType) modules p.decoder with ht | ⟨m, hm, v, hv, hr, hshows⟩
  · exact ht
  · rw [shows_lexical_eq_false decoderType h] at hshows
    cases hshows

/-- **A foreign view type never reaches the dispatch.** Where views are configured to be
of another type than the program's own, every decoder is shown as text, by no module of
the program, and every case and every row says so. All views of the configured type are
known to the program none the less. -/
theorem foreign_view_type_shows_text :
    let classifier := Classifier.lexical decoderType viewType
    let plan := (of classifier modules).plan classifier
    (∀ p ∈ pair classifier modules, p.rendering.isText = true ∧ p.rendering.owner = .nameless) ∧
    (∀ d ∈ plan.decodedCases, d.view = "viewAsText") ∧
    (∀ r ∈ plan.decoderRows, r.view = "viewAsText") ∧
    plan.knownViews = ((ownedSignatures modules).filter fun s => Lexical.isView viewType s.2.type).map
      fun s => (s.1.reference s.2.name, s.2.tagName) := by
  intro classifier plan
  have htext : ∀ p ∈ pair classifier modules, p.rendering = @Rendering.text .nameless :=
    fun p hp => rendering_of_mem_pair_lexical decoderType h modules hp
  have hview : ∀ p ∈ pair classifier modules, p.rendering.reference = "viewAsText" :=
    fun p hp => congrArg Rendering.reference (htext p hp)
  refine ⟨fun p hp => ⟨congrArg Rendering.isText (htext p hp), congrArg Rendering.owner (htext p hp)⟩, fun d hd => ?_, ?_,
    knownViews_plan classifier modules⟩
  · obtain ⟨p, hp, hmade⟩ := exists_madeFor_plan classifier modules hd
    rw [hmade.view, hview p hp]
  · refine (forall_mem_iff_of_forall₂ (rows_plan classifier modules) ?_).1 hview
    rintro p r ⟨q, d, -, -, -, rfl⟩
    exact Iff.rfl

end

/-- A decoder with a view of a configured type, and one of the program's own, which is no
view then. -/
def styledProgram : List Module :=
  [⟨"M", [⟨"decode", "Json.Decode.Decoder Int"⟩, ⟨"styled", "Int -> Html.Styled.Html msg"⟩,
    ⟨"plain", "Int -> Html.Html msg"⟩]⟩]

theorem foreign_view_type_shows_text_styledProgram :
    let classifier := Classifier.lexical "Json.Decode.Decoder" "Html.Styled.Html"
    let plan := (of classifier styledProgram).plan classifier
    "Html.Styled.Html" ≠ "Html.Html" ∧
      (∀ r ∈ plan.decoderRows, r.view = "viewAsText") ∧ plan.decoderRows.map (·.reference) = ["M.decode"] ∧
      plan.knownViews = [("M.styled", "Int_to_Html_Styled_HtmlmsgTag")] := by
  intro classifier plan
  have hne : "Html.Styled.Html" ≠ "Html.Html" := by decide
  obtain ⟨-, -, hrows, hknown⟩ := foreign_view_type_shows_text "Json.Decode.Decoder" hne styledProgram
  exact ⟨hne, hrows, by decide, hknown.trans (by decide)⟩

end PairedProgram
end DecoderBench
