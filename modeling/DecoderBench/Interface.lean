/-
Module interfaces as JSON, which is how an extractor hands them over.

A module is an object with the keys `moduleName` and `types`, a signature one with
the keys `name` and `signature`; other keys are passed over. Either may also be
the plain list of its fields in this order. A module without `types` has none.
-/
import DecoderBench.Json.Reader
import DecoderBench.Signature

namespace DecoderBench

open Json (valuesAt)

namespace Signature

/-- The signature that a value describes. A key that denotes no text could be any
key, so it is refused. -/
def ofJson? : Json → Option Signature
  | .array [.string (some name), .string (some type)] => some ⟨name, type⟩
  | .object members =>
    if members.all (·.1.isSome) then
      match valuesAt "name" members, valuesAt "signature" members with
      | [.string (some name)], [.string (some type)] => some ⟨name, type⟩
      | _, _ => none
    else none
  | _ => none

/-- The object that describes a signature. -/
def toJson (s : Signature) : Json :=
  .record [("name", .ofString s.name), ("signature", .ofString s.type)]

end Signature

namespace Module

/-- The module with the given name whose signatures the values describe. -/
def ofFields? (name : String) (signatures : List Json) : Option Module :=
  (signatures.mapM Signature.ofJson?).map fun ss => ⟨name, ss⟩

/-- The module that a value describes. -/
def ofJson? : Json → Option Module
  | .array [.string (some name)] => some ⟨name, []⟩
  | .array [.string (some name), .array signatures] => ofFields? name signatures
  | .object members =>
    if members.all (·.1.isSome) then
      match valuesAt "moduleName" members, valuesAt "types" members with
      | [.string (some name)], [] => some ⟨name, []⟩
      | [.string (some name)], [.array signatures] => ofFields? name signatures
      | _, _ => none
    else none
  | _ => none

/-- The object that describes a module. -/
def toJson (m : Module) : Json :=
  .record [("moduleName", .ofString m.name), ("types", .array (m.signatures.map Signature.toJson))]

end Module

namespace Interface

/-- The modules that a text describes, if it is a list of modules. -/
def parse (text : String) : Option (List Module) :=
  match Json.parse text.toList with
  | some (.array modules) => modules.mapM Module.ofJson?
  | _ => none

/-- The text that describes some modules. -/
def write (modules : List Module) : String :=
  String.ofList (Json.compact (.array (modules.map Module.toJson)))

end Interface
end DecoderBench
