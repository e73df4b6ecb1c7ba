/-
Interfaces are read as they are written: the text of some modules gives these modules,
in whichever order the fields of its objects stand, and whether a module without
signatures has a field for them or not (`modulesOf_write`).
-/
import DecoderBench.Extractor
import DecoderBench.Proofs.Json
import Mathlib.Data.List.Forall2

namespace DecoderBench

open Json (IsWritable)

/-! ## Objects that describe signatures and modules -/

/-- An object of two fields describes a signature, whichever comes first. -/
inductive Signature.IsDescribedBy (s : Signature) : Json → Prop
  | inOrder : s.IsDescribedBy (.record [("name", .ofString s.name), ("signature", .ofString s.type)])
  | swapped : s.IsDescribedBy (.record [("signature", .ofString s.type), ("name", .ofString s.name)])

/-- An object with the name and the signatures of a module describes it, whichever comes
first. One without signatures may leave them out. -/
inductive Module.IsDescribedBy (m : Module) : Json → Prop
  | inOrder {signatures : List Json} (h : List.Forall₂ Signature.IsDescribedBy m.signatures signatures) :
    m.IsDescribedBy (.record [("moduleName", .ofString m.name), ("types", .array signatures)])
  | swapped {signatures : List Json} (h : List.Forall₂ Signature.IsDescribedBy m.signatures signatures) :
    m.IsDescribedBy (.record [("types", .array signatures), ("moduleName", .ofString m.name)])
  | omitted (h : m.signatures = []) : m.IsDescribedBy (.record [("moduleName", .ofString m.name)])

theorem forall_of_forall₂ {α β : Type} {R : α → β → Prop} {p : β → Prop} {l : List α} {l' : List β}
    (hR : ∀ a b, R a b → p b) (h : List.Forall₂ R l l') : ∀ b ∈ l', p b := by
  induction h with
  | nil => exact nofun
  | cons hab _ ih => exact List.forall_mem_cons.2 ⟨hR _ _ hab, ih⟩

theorem mapM_of_forall₂ {α β : Type} {f : β → Option α} {l : List α} {l' : List β}
    (h : List.Forall₂ (fun a b => f b = some a) l l') : l'.mapM f = some l := by
  induction h with
  | nil => rfl
  | cons hab _ ih => simp [hab, ih]

namespace Signature.IsDescribedBy

variable {s : Signature} {v : Json}

theorem ofJson? (h : s.IsDescribedBy v) : Signature.ofJson? v = some s := by
  cases h <;> rfl

theorem isWritable (h : s.IsDescribedBy v) : v.IsWritable := by
  cases h <;> exact Json.isWritable_record (by simp [Json.ofString, IsWritable.string])

end Signature.IsDescribedBy

namespace Module

theorem ofFields?_of_described {name : String} {signatures : List Signature} {values : List Json}
    (h : List.Forall₂ Signature.IsDescribedBy signatures values) : ofFields? name values = some ⟨name, signatures⟩ := by
  rw [ofFields?, mapM_of_forall₂ (h.imp fun _ _ hs => hs.ofJson?)]
  rfl

namespace IsDescribedBy

variable {m : Module} {v : Json}

theorem ofJson? (h : m.IsDescribedBy v) : Module.ofJson? v = some m := by
  cases h with
  | inOrder h => exact ofFields?_of_described h
  | swapped h => exact ofFields?_of_described h
  | omitted h =>
    obtain ⟨name, signatures⟩ := m
    obtain rfl : signatures = [] := h
    rfl

theorem isWritable (h : m.IsDescribedBy v) : v.IsWritable := by
  have hname : (Json.ofString m.name).IsWritable := .string _
  have hsignatures : ∀ {values : List Json}, List.Forall₂ Signature.IsDescribedBy m.signatures values →
      (Json.array values).IsWritable :=
    fun h => .array (forall_of_forall₂ (fun _ _ hs => hs.isWritable) h)
  cases h with
  | inOrder h => exact Json.isWritable_record (by simp [hname, hsignatures h])
  | swapped h => exact Json.isWritable_record (by simp [hname, hsignatures h])
  | omitted => exact Json.isWritable_record (by simp [hname])

end IsDescribedBy

theorem isDescribedBy_toJson (m : Module) : m.IsDescribedBy m.toJson := by
  refine .inOrder ?_
  rw [List.forall₂_map_right_iff, List.forall₂_same]
  exact fun s _ => .inOrder

end Module

/-! ## Reading interfaces -/

namespace Interface

open Extractor (modulesOf)

theorem modulesOf_of_described {text : String} {modules : List Module} {values : List Json}
    (hjson : Json.parse text.toList = some (.array values)) (h : List.Forall₂ Module.IsDescribedBy modules values) :
    modulesOf text = .ok modules := by
  have hparse : parse text = some modules := by
    rw [parse, hjson]
    exact mapM_of_forall₂ (h.imp fun _ _ hm => hm.ofJson?)
  rw [modulesOf, hparse]

/-- **Interfaces are read as they are written.** The text of any modules gives them back,
and so does each text that lists objects which describe them: with the two fields of any
object in either order, with or without a field for the signatures that a module does not
have, on one line or on several. -/
theorem modulesOf_write (modules : List Module) :
    modulesOf (write modules) = .ok modules ∧
    ∀ values, List.Forall₂ Module.IsDescribedBy modules values →
      modulesOf (String.ofList (Json.compact (.array values))) = .ok modules ∧
        modulesOf (Json.pretty (.array values)) = .ok modules := by
  have hread : ∀ values, List.Forall₂ Module.IsDescribedBy modules values →
      modulesOf (String.ofList (Json.compact (.array values))) = .ok modules ∧
        modulesOf (Json.pretty (.array values)) = .ok modules := by
    intro values h
    have hwritable : (Json.array values).IsWritable := .array (forall_of_forall₂ (fun _ _ hm => hm.isWritable) h)
    constructor
    · refine modulesOf_of_described ?_ h
      rw [String.toList_ofList, Json.parse_compact hwritable]
    · exact modulesOf_of_described (Json.parse_pretty hwritable) h
  refine ⟨(hread _ ?_).1, hread⟩
  rw [List.forall₂_map_right_iff, List.forall₂_same]
  exact fun m _ => m.isDescribedBy_toJson

/-- Modules whose texts need escapes, and one without signatures. -/
def awkwardModules : List Module :=
  [⟨"A\\\"B", [⟨"decode\x01", "Json.Decode.Decoder 😀"⟩, ⟨"", "\t/\x7f\r\n"⟩]⟩, ⟨"None", []⟩]

/-- Objects that describe `awkwardModules`: some have their fields in the other order, and
one has no field for signatures. -/
def awkwardValues : List Json :=
  [ .record
      [ ("types", .array
          [ .record [("signature", .ofString "Json.Decode.Decoder 😀"), ("name", .ofString "decode\x01")]
          , .record [("name", .ofString ""), ("signature", .ofString "\t/\x7f\r\n")] ])
      , ("moduleName", .ofString "A\\\"B") ]
  , .record [("moduleName", .ofString "None")] ]

theorem modulesOf_write_awkwardModules :
    List.Forall₂ Module.IsDescribedBy awkwardModules awkwardValues ∧
      modulesOf (String.ofList (Json.compact (.array awkwardValues))) = .ok awkwardModules := by
  have h : List.Forall₂ Module.IsDescribedBy awkwardModules awkwardValues :=
    .cons (Module.IsDescribedBy.swapped (.cons .swapped (.cons .inOrder .nil)))
      (.cons (Module.IsDescribedBy.omitted rfl) .nil)
  exact ⟨h, ((modulesOf_write awkwardModules).2 awkwardValues h).1⟩

end Interface
end DecoderBench
