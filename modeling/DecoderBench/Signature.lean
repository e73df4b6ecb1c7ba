/-
What a program exports: modules, each with the signatures it declares.

A signature's type is kept as raw text. It uses arrows (`A -> B -> C`) and
dotted names (`Json.Decode.Decoder`), and nothing here reads it any deeper.
-/
namespace DecoderBench

/-- An exported value and the text of its type. -/
structure Signature where
  name : String
  type : String
  deriving DecidableEq, Inhabited

/-- A module and its exported signatures, in the order of their declaration. -/
structure Module where
  name : String
  signatures : List Signature
  deriving DecidableEq, Inhabited

namespace Module

/-- The owner of names that belong to no module of the program. -/
def nameless : Module := ⟨"", []⟩

/-- Whether names of `m` are written without a module in front. -/
def isNameless (m : Module) : Bool := m.name.isEmpty

/-- Whether `m` has no signatures. -/
def isEmpty (m : Module) : Bool := m.signatures.isEmpty

/-- How other modules refer to the value called `name` of `m`: `m.name.name`, or
the bare name where `m` has none of its own. -/
def reference (m : Module) (name : String) : String :=
  if m.isNameless then name else m.name ++ "." ++ name

end Module
end DecoderBench
