/-
The four kinds of TOML strings: basic and literal ones, on one line or on several.

A basic string has escapes and a literal one has none. Control characters other
than the tab stand in neither; a string on several lines may also hold line
breaks, which are kept as they are, and drops one that comes first in it.
-/
import DecoderBench.Text.Hexadecimal

namespace DecoderBench.Toml

/-- A blank within a line. -/
def isBlank (c : Char) : Bool := c == ' ' || c == '\t'

/-- A control character that may stand nowhere but in a line break. -/
def isControl (c : Char) : Bool := (c.toNat < 0x20 && c != '\t') || c.toNat == 0x7F

/-- A character before a scanned string, where there is one. -/
def prepend (c : Char) (s : Option (List Char × List Char)) : Option (List Char × List Char) :=
  s.map fun s => (c :: s.1, s.2)

/-- The character with the code that hexadecimal digits denote, if there is one. -/
def coded? (ds : List Char) : Option Char :=
  match Text.hexNumber? ds with
  | some n => if n.isValidChar then some (Char.ofNat n) else none
  | none => none

/-- The character that a backslash and one more character denote. -/
def unescape? : Char → Option Char
  | 'b' => some '\x08'
  | 't' => some '\t'
  | 'n' => some '\n'
  | 'f' => some '\x0c'
  | 'r' => some '\r'
  | 'e' => some '\x1b'
  | '"' => some '"'
  | '\\' => some '\\'
  | _ => none

/-- A character that may not be there, before a scanned string. -/
def prepend? (c : Option Char) (s : Option (List Char × List Char)) :
    Option (List Char × List Char) :=
  match c with
  | some c => prepend c s
  | none => none

/-- A basic string after its opening quote, and what follows its closing quote. -/
def scanBasic : List Char → Option (List Char × List Char)
  | [] => none
  | '"' :: r => some ([], r)
  | '\\' :: 'x' :: a :: b :: r => prepend? (coded? [a, b]) (scanBasic r)
  | '\\' :: 'u' :: a :: b :: c :: d :: r => prepend? (coded? [a, b, c, d]) (scanBasic r)
  | '\\' :: 'U' :: a :: b :: c :: d :: e :: f :: g :: h :: r =>
    prepend? (coded? [a, b, c, d, e, f, g, h]) (scanBasic r)
  | '\\' :: e :: r => prepend? (unescape? e) (scanBasic r)
  | c :: r => if isControl c then none else prepend c (scanBasic r)

/-- A literal string after its opening quote, and what follows its closing quote. -/
def scanLiteral : List Char → Option (List Char × List Char)
  | [] => none
  | '\x27' :: r => some ([], r)
  | c :: r => if isControl c then none else prepend c (scanLiteral r)

/-- Whether the line ends after nothing but blanks. -/
def endsLine (cs : List Char) : Bool :=
  match cs.dropWhile isBlank with
  | '\n' :: _ => true
  | '\r' :: '\n' :: _ => true
  | _ => false

/-- The end of a string on several lines after its three closing quotes: up to two
more quotes before them belong to the string. -/
def closeQuotes (quote : Char) : List Char → List Char × List Char
  | [] => ([], [])
  | a :: r =>
    if a == quote then
      match r with
      | [] => ([quote], [])
      | b :: r => if b == quote then ([quote, quote], r) else ([quote], b :: r)
    else ([], a :: r)

/-- A basic string on several lines after its opening quotes. While it is `skipping`,
after a backslash at the end of a line, blanks and line breaks are dropped. -/
def scanBasicLines (skipping : Bool) : List Char → Option (List Char × List Char)
  | [] => none
  | '"' :: '"' :: '"' :: r => some (closeQuotes '"' r)
  | '\\' :: 'x' :: a :: b :: r => prepend? (coded? [a, b]) (scanBasicLines false r)
  | '\\' :: 'u' :: a :: b :: c :: d :: r =>
    prepend? (coded? [a, b, c, d]) (scanBasicLines false r)
  | '\\' :: 'U' :: a :: b :: c :: d :: e :: f :: g :: h :: r =>
    prepend? (coded? [a, b, c, d, e, f, g, h]) (scanBasicLines false r)
  | '\\' :: e :: r =>
    if endsLine (e :: r) then scanBasicLines true (e :: r)
    else prepend? (unescape? e) (scanBasicLines false r)
  | '\r' :: '\n' :: r =>
    if skipping then scanBasicLines true r
    else prepend '\r' (prepend '\n' (scanBasicLines false r))
  | c :: r =>
    if skipping && (isBlank c || c == '\n') then scanBasicLines true r
    else if isControl c && c != '\n' then none
    else prepend c (scanBasicLines false r)

/-- A literal string on several lines after its opening quotes. -/
def scanLiteralLines : List Char → Option (List Char × List Char)
  | [] => none
  | '\x27' :: '\x27' :: '\x27' :: r => some (closeQuotes '\x27' r)
  | '\r' :: '\n' :: r => prepend '\r' (prepend '\n' (scanLiteralLines r))
  | c :: r =>
    if isControl c && c != '\n' then none else prepend c (scanLiteralLines r)

/-- `cs` without a line break that comes first in it. -/
def dropLineBreak : List Char → List Char
  | '\n' :: r => r
  | '\r' :: '\n' :: r => r
  | r => r

/-- A string of any kind, and what follows it. -/
def scanText : List Char → Option (List Char × List Char)
  | '"' :: '"' :: '"' :: r => scanBasicLines false (dropLineBreak r)
  | '"' :: r => scanBasic r
  | '\x27' :: '\x27' :: '\x27' :: r => scanLiteralLines (dropLineBreak r)
  | '\x27' :: r => scanLiteral r
  | _ => none

end DecoderBench.Toml
