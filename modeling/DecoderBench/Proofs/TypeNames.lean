/-
Which names of types match anything. A name has decoders, and it has views, exactly if it is
a token without an arrow (`exists_isDecoder_iff`, `exists_isView_iff`).

Settings refuse the names that are no tokens and look for no arrows. So a type that they
refuse has matched nothing, and one that they accept matches nothing exactly if an arrow
stands in it (`typeNames_match_iff`).
-/
import DecoderBench.Proofs.Lexical.Forms
import DecoderBench.Proofs.SettingsFile

namespace DecoderBench

open Lexical (isDecoder isView)
open Text (isBlank)

/-! ## Names and types -/

namespace Lexical

open Text

variable {head type : String}

theorem isHead_iff :
    IsHead head ↔ head ≠ "" ∧ (∀ c ∈ head.toList, isBlank c = false) ∧ ¬['-', '>'] <:+: head.toList := by
  constructor
  · rintro ⟨⟨hne, hsolid⟩, harrow⟩
    exact ⟨mt String.toList_eq_nil_iff.2 hne, hsolid, harrow⟩
  · rintro ⟨hne, hsolid, harrow⟩
    exact ⟨⟨mt String.toList_eq_nil_iff.1 hne, hsolid⟩, harrow⟩

theorem IsDecoderOf.isHead {p : String} (h : IsDecoderOf head p type) : IsHead head := by
  cases h with
  | bare hhead _ => exact hhead
  | applied hhead => exact hhead

theorem IsResult.isHead {result : String} (h : IsResult head result) : IsHead head := by
  obtain ⟨hhead, -⟩ := h
  exact hhead

theorem IsViewOf.isHead {i : Option String} (h : IsViewOf head i type) : IsHead head := by
  cases h with
  | value hresult => exact hresult.isHead
  | function _ hresult => exact hresult.isHead

/-- A name that has a decoder is itself one. -/
theorem exists_isDecoder_iff : (∃ type, isDecoder head type = true) ↔ IsHead head := by
  constructor
  · rintro ⟨type, hdecoder⟩
    obtain ⟨p, hp⟩ := exists_isDecoderOf hdecoder
    exact hp.isHead
  · intro hhead
    have htrim : trim head.toList = head.toList := by
      simpa using hhead.isToken.isTrimmed.trim_eq (a := []) (b := []) (by simp) (by simp)
    exact ⟨head, (IsDecoderOf.bare hhead htrim).read.1⟩

/-- A name that has a view has one without an argument. -/
theorem exists_isView_iff : (∃ type, isView head type = true) ↔ IsHead head := by
  constructor
  · rintro ⟨type, hview⟩
    obtain ⟨i, hi⟩ := exists_isViewOf hview
    exact hi.isHead
  · intro hhead
    have hresult : IsResult head ("" ++ head ++ " " ++ "msg") := by
      refine .mk hhead ?_ ?_ (by decide) ?_ ?_
      · simp [Blank]
      · simp [Blank, isBlank]
      · rw [arrowFree_iff]
        rfl
      · simp [Blank, isBlank]
    exact ⟨_, (IsViewOf.value hresult).read.1⟩

end Lexical

/-! ## Names in settings -/

theorem Signature.forall_type_eq_false_iff (test : String → Bool) :
    (∀ s : Signature, test s.type = false) ↔ ¬∃ type, test type = true := by
  rw [not_exists]
  constructor
  · intro hnone type
    exact Bool.eq_false_iff.1 (hnone ⟨"", type⟩)
  · intro hnone s
    exact Bool.eq_false_iff.2 (hnone s.type)

namespace Settings

/-- Whether something is found wrong with the value of a setting. -/
def Refuses (s : Settings) (k : Setting) : Prop := ∃ p ∈ s.problems, p.setting = k

theorem refuses_iff {s : Settings} {k : Setting} : s.Refuses k ↔ ¬k.Fits (s.value k) := by
  rw [← problem?_eq_none_iff]
  constructor
  · rintro ⟨p, hp, rfl⟩ hnone
    obtain ⟨k, -, hk⟩ := List.mem_filterMap.1 hp
    rw [setting_of_problem? hk, hk] at hnone
    cases hnone
  · intro hsome
    obtain ⟨p, hp⟩ := Option.ne_none_iff_exists'.1 hsome
    exact ⟨p, List.mem_filterMap.2 ⟨k, k.mem_all, hp⟩, setting_of_problem? hp⟩

/-- The names that are accepted are those that can match, and those that hold an arrow. -/
theorem not_isHead_iff {s : Settings} {k : Setting} (hk : k = .decoderType ∨ k = .viewType) :
    ¬Lexical.IsHead (s.value k) ↔ s.Refuses k ∨ ['-', '>'] <:+: (s.value k).toList := by
  have hfits : Lexical.IsHead (s.value k) ↔ k.Fits (s.value k) ∧ ¬['-', '>'] <:+: (s.value k).toList := by
    rw [Lexical.isHead_iff, ← and_assoc]
    rcases hk with rfl | rfl <;> rfl
  rw [refuses_iff, hfits, not_and_or, not_not]

end Settings

/-- **Which names of types match anything.** There is a decoder of the type `head`, and there
is a view of the type `head`, if and only if `head` is not empty and neither a blank nor an
arrow stands in it. So with some settings there are no decoders at all if and only if their
decoder type is refused or holds an arrow: one that is refused has none, and one that is
accepted has none exactly if it holds an arrow. The same goes for views and the view type. -/
theorem typeNames_match_iff :
    (∀ head : String, (∃ type, isDecoder head type = true) ↔
      head ≠ "" ∧ (∀ c ∈ head.toList, isBlank c = false) ∧ ¬['-', '>'] <:+: head.toList) ∧
    (∀ head : String, (∃ type, isView head type = true) ↔
      head ≠ "" ∧ (∀ c ∈ head.toList, isBlank c = false) ∧ ¬['-', '>'] <:+: head.toList) ∧
    ∀ s : Settings,
      ((∀ d, s.classifier.isDecoder d = false) ↔
        s.Refuses .decoderType ∨ ['-', '>'] <:+: (s.value .decoderType).toList) ∧
      ((∀ v, s.classifier.isView v = false) ↔
        s.Refuses .viewType ∨ ['-', '>'] <:+: (s.value .viewType).toList) := by
  refine ⟨fun head => ?_, fun head => ?_, fun s => ⟨?_, ?_⟩⟩
  · rw [Lexical.exists_isDecoder_iff, Lexical.isHead_iff]
  · rw [Lexical.exists_isView_iff, Lexical.isHead_iff]
  · rw [← Settings.not_isHead_iff (.inl rfl), ← Lexical.exists_isDecoder_iff]
    exact Signature.forall_type_eq_false_iff (isDecoder (s.value .decoderType))
  · rw [← Settings.not_isHead_iff (.inr rfl), ← Lexical.exists_isView_iff]
    exact Signature.forall_type_eq_false_iff (isView (s.value .viewType))

/-- A view type that settings accept and that has no views. -/
example : Settings.problem? .viewType "Html->Html" = .none ∧ isView "Html->Html" "Html->Html msg" = false := by
  decide

end DecoderBench
