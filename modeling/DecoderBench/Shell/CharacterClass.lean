/-
Classes of characters that patterns, regular expressions and tools know by name.
Each character stands for one byte, and only those of ASCII belong to a class.
-/
namespace DecoderBench.Shell

/-- A class of characters. -/
inductive CharacterClass
  | alphanumeric
  | alphabetic
  | blank
  | control
  | digit
  | graphic
  | lower
  | printable
  | punctuation
  | space
  | upper
  | hexadecimal
  deriving DecidableEq

namespace CharacterClass

/-- Every class with the name that it goes by. -/
def named : List (String × CharacterClass) :=
  [("alnum", .alphanumeric), ("alpha", .alphabetic), ("blank", .blank), ("cntrl", .control),
    ("digit", .digit), ("graph", .graphic), ("lower", .lower), ("print", .printable),
    ("punct", .punctuation), ("space", .space), ("upper", .upper), ("xdigit", .hexadecimal)]

/-- Whether a character belongs to a class. -/
def admits (k : CharacterClass) (c : Char) : Bool :=
  match k with
  | .alphanumeric => c.isAlphanum
  | .alphabetic => c.isAlpha
  | .blank => c == ' ' || c == '\t'
  | .control => decide (c.toNat < 32) || c.toNat == 127
  | .digit => c.isDigit
  | .graphic => decide (33 ≤ c.toNat) && decide (c.toNat < 127)
  | .lower => c.isLower
  | .printable => decide (32 ≤ c.toNat) && decide (c.toNat < 127)
  | .punctuation => decide (33 ≤ c.toNat) && decide (c.toNat < 127) && !c.isAlphanum
  | .space => c == ' ' || (decide (9 ≤ c.toNat) && decide (c.toNat ≤ 13))
  | .upper => c.isUpper
  | .hexadecimal =>
    c.isDigit || (decide ('a' ≤ c) && decide (c ≤ 'f')) || (decide ('A' ≤ c) && decide (c ≤ 'F'))

/-- The members of a class, in order. -/
def members (k : CharacterClass) : List Char :=
  ((List.range 128).map Char.ofNat).filter k.admits

end CharacterClass
end DecoderBench.Shell
