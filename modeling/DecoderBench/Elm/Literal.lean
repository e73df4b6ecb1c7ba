/-
Elm string literals, written and read, and type expressions as arguments of a
constructor.
-/
import DecoderBench.Text.Tokens

namespace DecoderBench.Elm

/-! ## Writing -/

/-- A character inside a string literal: the quote, the backslash, the line breaks
and the tab are escaped, all others stand for themselves. -/
def escape : Char → List Char
  | '"' => ['\\', '"']
  | '\\' => ['\\', '\\']
  | '\n' => ['\\', 'n']
  | '\r' => ['\\', 'r']
  | '\t' => ['\\', 't']
  | c => [c]

/-- The string literal that denotes `s`. -/
def literal (s : String) : String :=
  String.ofList ('"' :: (s.toList.flatMap escape ++ ['"']))

/-- `type` in a place where an application needs parentheses around it. -/
def argument (type : String) : String :=
  let t := Text.trim type.toList
  match Text.tokens t with
  | _ :: _ :: _ => "(" ++ String.ofList t ++ ")"
  | _ => String.ofList t

/-! ## Reading -/

/-- The character that a backslash and one more character denote. -/
def unescape? : Char → Option Char
  | '"' => some '"'
  | '\\' => some '\\'
  | 'n' => some '\n'
  | 'r' => some '\r'
  | 't' => some '\t'
  | _ => none

/-- A literal after its opening quote: the text that it denotes, and what follows its
closing quote. A literal ends on the line that it starts on. -/
def scanBody : List Char → Option (List Char × List Char)
  | [] => none
  | '"' :: r => some ([], r)
  | '\\' :: e :: r =>
    match unescape? e, scanBody r with
    | some c, some (cs, rest) => some (c :: cs, rest)
    | _, _ => none
  | c :: r =>
    if c == '\n' || c == '\r' then none
    else (scanBody r).map fun s => (c :: s.1, s.2)

/-- A literal at the start of a text: the text that it denotes, and what follows it. -/
def scanLiteral : List Char → Option (List Char × List Char)
  | '"' :: r => scanBody r
  | _ => none

end DecoderBench.Elm
