/-
How a type is spaced makes no difference: types that have the same tokens are sorted
alike and give the same constructors, and their payloads and inputs have the same
tokens again (`reading_eq_of_tokens_eq`).
-/
import DecoderBench.Proofs.Identifier
import DecoderBench.Proofs.Lexical

namespace DecoderBench

open Lexical Text

/-- An identifier is made of a type's text without blanks, so of its tokens. -/
theorem Identifier.ofType_congr {s t : String} (h : tokens s.toList = tokens t.toList) : ofType s = ofType t :=
  ofType_congr_of_squeeze (by rw [squeeze_eq_flatten_tokens, squeeze_eq_flatten_tokens, h])

/-- **Only the tokens of a type are read.** Signatures whose types have the same tokens,
whatever blanks stand around them and between them, are decoders of the same decoder types
and views of the same view types; they give the same two constructors; their payloads
have the same tokens; and either both have an input, with the same tokens, or neither
has. -/
theorem reading_eq_of_tokens_eq {s t : Signature} (h : tokens s.type.toList = tokens t.type.toList) :
    (∀ head, isDecoder head s.type = isDecoder head t.type) ∧
      (∀ head, isView head s.type = isView head t.type) ∧
      s.tagName = t.tagName ∧
      s.payloadName = t.payloadName ∧
      tokens (payload s.type).toList = tokens (payload t.type).toList ∧
      (input? s.type).map (fun i => tokens i.toList) = (input? t.type).map fun i => tokens i.toList := by
  have hpayload := tokens_payload_congr h
  refine ⟨fun head => ?_, fun head => ?_, ?_, ?_, hpayload, ?_⟩
  · rw [isDecoder_eq, isDecoder_eq, h]
  · rw [isView_eq, isView_eq, h]
  · rw [Signature.tagName, Signature.tagName, Identifier.ofType_congr h]
  · rw [Signature.payloadName, Signature.payloadName, Identifier.ofType_congr hpayload]
  · rw [tokens_input?, tokens_input?, h]

/-- A view whose arrow stands inside a token, with one blank where blanks have to be. -/
def tightView : Signature := ⟨"tight", "List Int->Html.Html msg"⟩

/-- The same with other blanks, among them some that are not ASCII. -/
def looseView : Signature := ⟨"loose", "\n List\u2003\tInt->Html.Html\u00A0 msg\r\n"⟩

theorem reading_eq_looseView :
    tokens tightView.type.toList = tokens looseView.type.toList ∧
      isView "Html.Html" looseView.type = true ∧ tightView.tagName = looseView.tagName ∧
      (input? looseView.type).map (fun i => tokens i.toList) = some ["List".toList, "Int".toList] := by
  have htokens : tokens tightView.type.toList = tokens looseView.type.toList := by decide
  obtain ⟨-, hview, htag, -, -, hinput⟩ := reading_eq_of_tokens_eq htokens
  refine ⟨htokens, ?_, htag, ?_⟩
  · rw [← hview]
    decide
  · rw [← hinput]
    decide

end DecoderBench
