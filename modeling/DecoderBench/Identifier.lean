/-
Constructor names for the generated program.

A constructor is named after the text of a type and never after a module, so
that decoders of one type in several modules share a constructor.
-/
import DecoderBench.Lexical
import DecoderBench.Signature

namespace DecoderBench

namespace Identifier

/-- The characters of an identifier: ASCII letters and digits, and `_`. -/
def isWord (c : Char) : Bool := c.isAlphanum || c == '_'

/-- An arrow is spelled `_to_`, and any other character that no identifier has
is spelled `_`. -/
def spell : List Char → List Char
  | [] => []
  | '-' :: '>' :: r => '_' :: 't' :: 'o' :: '_' :: spell r
  | c :: r => (if isWord c then c else '_') :: spell r

/-- Constructors start with an ASCII capital: a `T` is put before any other
start, so that `Msg` and `msg` stay two names. -/
def capitalize : List Char → List Char
  | [] => ['T']
  | c :: r => if c.isUpper then c :: r else 'T' :: c :: r

/-- The identifier for a type: its text without blanks, spelled and capitalized. -/
def ofType (type : String) : String :=
  String.ofList (capitalize (spell (Text.squeeze type.toList)))

end Identifier

namespace Signature

/-- The constructor that stands for the signature itself. -/
def tagName (s : Signature) : String := Identifier.ofType s.type ++ "Tag"

/-- The constructor around a value of the signature's payload type. -/
def payloadName (s : Signature) : String :=
  Identifier.ofType (Lexical.payload s.type) ++ "Payload"

end Signature

namespace Identifier

/-- The least number from `k` on that makes a name outside `taken` out of `base`.
A number whose name is taken takes that name out of the list, so the list's length
bounds the search. -/
def freeNumber (base : String) (taken : List String) (k : Nat) : Nat :=
  if base ++ toString k ∈ taken then freeNumber base (taken.erase (base ++ toString k)) (k + 1)
  else k
termination_by taken.length
decreasing_by
  rename_i h
  rw [List.length_erase_of_mem h]
  exact Nat.sub_lt (List.length_pos_of_mem h) Nat.one_pos

/-- `base` itself if it is not taken; otherwise `base` with the least number from
two on that makes it a new name. -/
def fresh (base : String) (taken : List String) : String :=
  if base ∈ taken then base ++ toString (freeNumber base taken 2) else base

end Identifier
end DecoderBench
