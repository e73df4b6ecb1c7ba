/-
Scripts of the shell as trees: words with what is put in for their parameters,
commands, and the ways to combine them.
-/
namespace DecoderBench.Shell

/-- The words that only scripts are made of. -/
def keywords : List String :=
  ["!", "case", "do", "done", "elif", "else", "esac", "fi", "for", "if", "in", "then", "until",
    "while", "\x7b", "\x7d"]

/-- The commands whose failure ends the shell, before which assignments stay, and which no
function may have the name of. -/
def specialCommands : List String :=
  [":", ".", "break", "continue", "eval", "exec", "exit", "export", "local", "readonly", "return",
    "set", "shift", "times", "trap", "unset"]

/-- What a word takes from the value of a parameter. -/
inductive Use
  | value
  | length
  /-- The operand in the place of a missing value; an empty value counts as missing if
  `empty` is set. -/
  | orElse (empty : Bool)
  /-- The same, and the operand becomes the value. -/
  | orAssign (empty : Bool)
  /-- The operand in the place of a value that is there. -/
  | ifThere (empty : Bool)
  /-- The value, which must be there. -/
  | demand (empty : Bool)
  /-- The value without its start that matches the operand. -/
  | dropStart (longest : Bool)
  /-- The value without its end that matches the operand. -/
  | dropEnd (longest : Bool)
  /-- Nothing that could be told. -/
  | bad

/-- What a redirection does to a descriptor. -/
inductive Redirection
  | read
  /-- The file is created if it is not there. -/
  | readWrite
  | write
  /-- The file is written even if it is one that is to be kept. -/
  | replace
  | append
  | duplicate
  /-- The target is the text itself that is read. -/
  | document

mutual

/-- A part of a word. What is `quoted` stays in one piece and means itself. -/
inductive Part
  | text (quoted : Bool) (s : String)
  | parameter (quoted : Bool) (name : String) (use : Use) (operand : List Part)
  /-- The user's own directory. -/
  | home
  /-- What a script prints. -/
  | output (quoted : Bool) (script : Script)
  /-- The value of an arithmetic expression. -/
  | arithmetic (quoted : Bool) (expression : List Part)

/-- A redirection of a descriptor. -/
inductive Redirect
  | mk (descriptor : Nat) (redirection : Redirection) (target : List Part)

/-- A script. -/
inductive Script
  | simple (assignments : List (String × List Part)) (words : List (List Part))
      (redirects : List Redirect)
  /-- A script that begins on a line. -/
  | at (line : Nat) (script : Script)
  | redirected (script : Script) (redirects : List Redirect)
  | subshell (script : Script)
  | sequence (scripts : List Script)
  | background (script : Script)
  | pipeline (scripts : List Script)
  | negation (script : Script)
  /-- The second if the first ended well. -/
  | both (first second : Script)
  /-- The second if the first did not end well. -/
  | either (first second : Script)
  | conditional (test yes no : Script)
  /-- The body as long as the test ends well, or as long as it does not. -/
  | loop (wanted : Bool) (test body : Script)
  /-- The body for each word, or for each argument. -/
  | each (name : String) (words : Option (List (List Part))) (body : Script)
  | choice (subject : List Part) (branches : List (List (List Part) × Script))
  | function (name : String) (body : Script)

end

instance : Inhabited Script := ⟨.sequence []⟩

/-- A word. -/
abbrev Word := List Part

end DecoderBench.Shell
