/-
The layout of Elm declarations: unions, lists and case expressions, one level of
indentation being four blanks.
-/
namespace DecoderBench.Elm

/-- The lines joined by single line breaks. -/
def lines (ls : List String) : String := "\n".intercalate ls

/-- The indentation of a level. -/
def indent : Nat → String
  | 0 => ""
  | n + 1 => "    " ++ indent n

/-- One line per element, the first after the mark `first` and the others after
`other`. -/
def marked (first other : String) : List String → List String
  | [] => []
  | a :: l => (first ++ a) :: l.map (other ++ ·)

/-- The declaration of a union with the given constructors. -/
def union (name : String) (constructors : List String) : String :=
  lines (("type " ++ name) ::
    marked (indent 1 ++ "= ") (indent 1 ++ "| ") constructors)

/-- A list with one element a line, at a level of indentation. -/
def list (level : Nat) (elements : List String) : String :=
  match elements with
  | [] => indent level ++ "[]"
  | elements =>
    lines (marked (indent level ++ "[ ") (indent level ++ ", ") elements ++ [indent level ++ "]"])

/-- A pair. -/
def tuple (a b : String) : String := "( " ++ a ++ ", " ++ b ++ " )"

/-- A branch of a case expression: its pattern and its body. -/
structure Branch where
  pattern : String
  body : String
  deriving DecidableEq

/-- A branch on two lines. -/
def Branch.text (b : Branch) : String :=
  indent 2 ++ b.pattern ++ " ->\n" ++ indent 3 ++ b.body

/-- A case expression in the body of a function, with an empty line between its
branches. -/
def caseOf (subject : String) (branches : List Branch) : String :=
  indent 1 ++ "case " ++ subject ++ " of\n" ++ "\n\n".intercalate (branches.map Branch.text)

end DecoderBench.Elm
