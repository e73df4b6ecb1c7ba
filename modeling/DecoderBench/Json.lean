/-
JSON values, and the printers of JSON text.

A number is kept as it is written. A string may hold an escape for half of a
surrogate pair, and then it denotes no text: such strings, and such keys, are
`none`.
-/
namespace DecoderBench

/-- A JSON value. -/
inductive Json
  | null
  | bool (b : Bool)
  | number (lexeme : List Char)
  | string (text : Option String)
  | array (elements : List Json)
  | object (members : List (Option String × Json))
  deriving Inhabited

namespace Json

/-- A string that denotes a text. -/
def ofString (s : String) : Json := .string (some s)

/-- A natural number. -/
def ofNat (n : Nat) : Json := .number (Nat.toDigits 10 n)

/-- An object whose keys denote texts. -/
def record (fields : List (String × Json)) : Json := .object (fields.map fun f => (some f.1, f.2))

/-- The values that members have under `key`. -/
def valuesAt (key : String) (members : List (Option String × Json)) : List Json :=
  members.filterMap fun m => if m.1 = some key then some m.2 else none

/-! ## Printing -/

/-- A hexadecimal digit in lower case. -/
def hexDigit (n : Nat) : Char := Nat.digitChar n

/-- A character inside a string. Quotes, backslashes and control characters are
escaped, all others stand for themselves. -/
def escape (c : Char) : List Char :=
  match c with
  | '"' => ['\\', '"']
  | '\\' => ['\\', '\\']
  | '\x08' => ['\\', 'b']
  | '\t' => ['\\', 't']
  | '\n' => ['\\', 'n']
  | '\x0c' => ['\\', 'f']
  | '\r' => ['\\', 'r']
  | c =>
    if c.toNat < 0x20 then ['\\', 'u', '0', '0', hexDigit (c.toNat / 16), hexDigit (c.toNat % 16)]
    else [c]

/-- A string with its quotes. A string that denotes no text is written as half of a
surrogate pair. -/
def printString : Option String → List Char
  | some s => '"' :: (s.toList.flatMap escape ++ ['"'])
  | none => ['"', '\\', 'u', 'd', '8', '0', '0', '"']

/-- A value that is neither a list nor an object. -/
def printScalar : Json → List Char
  | .null => ['n', 'u', 'l', 'l']
  | .bool true => ['t', 'r', 'u', 'e']
  | .bool false => ['f', 'a', 'l', 's', 'e']
  | .number lexeme => lexeme
  | .string s => printString s
  | .array _ => ['[', ']']
  | .object _ => ['\x7b', '\x7d']

mutual

/-- The shortest text of a value, without blanks between its parts. -/
def compact : Json → List Char
  | .array (e :: es) => '[' :: (compact e ++ compactElements es)
  | .object (m :: ms) => '\x7b' :: (printString m.1 ++ ':' :: compact m.2 ++ compactMembers ms)
  | v => printScalar v

/-- The further elements of a list, each after a comma, and its end. -/
def compactElements : List Json → List Char
  | [] => [']']
  | e :: es => ',' :: (compact e ++ compactElements es)

/-- The further members of an object, each after a comma, and its end. -/
def compactMembers : List (Option String × Json) → List Char
  | [] => ['\x7d']
  | m :: ms => ',' :: (printString m.1 ++ ':' :: compact m.2 ++ compactMembers ms)

end

/-- A line break and the indentation of a level, two blanks each. -/
def newline (level : Nat) : List Char := '\n' :: List.replicate (2 * level) ' '

mutual

/-- The text of a value with each element and each member on a line of its own. -/
def prettyAt (level : Nat) : Json → List Char
  | .array (e :: es) =>
    '[' :: (newline (level + 1) ++ prettyAt (level + 1) e ++ prettyElements level es)
  | .object (m :: ms) =>
    '\x7b' :: (newline (level + 1) ++ printString m.1 ++ ':' :: ' ' :: prettyAt (level + 1) m.2 ++
      prettyMembers level ms)
  | v => printScalar v

/-- The further elements of a list at a level, and its end. -/
def prettyElements (level : Nat) : List Json → List Char
  | [] => newline level ++ [']']
  | e :: es => ',' :: (newline (level + 1) ++ prettyAt (level + 1) e ++ prettyElements level es)

/-- The further members of an object at a level, and its end. -/
def prettyMembers (level : Nat) : List (Option String × Json) → List Char
  | [] => newline level ++ ['\x7d']
  | m :: ms =>
    ',' :: (newline (level + 1) ++ printString m.1 ++ ':' :: ' ' :: prettyAt (level + 1) m.2 ++
      prettyMembers level ms)

end

/-- The text of a value on several lines. -/
def pretty (v : Json) : String := String.ofList (prettyAt 0 v)

end Json
end DecoderBench
