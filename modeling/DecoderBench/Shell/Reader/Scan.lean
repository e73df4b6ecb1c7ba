/-
The characters of scripts: blanks and comments, names and operators, quotes and
documents, and the tokens that complaints about scripts name.
-/
import DecoderBench.Shell.Script

namespace DecoderBench.Shell

/-! ## Characters and spaces -/

/-- A character that a name may start with. -/
def isNameStart (c : Char) : Bool := c.isAlpha || c == '_'

/-- A character of a name. -/
def isNamePart (c : Char) : Bool := c.isAlphanum || c == '_'

/-- A character that ends a word unless it is quoted. -/
def endsWord (c : Char) : Bool := [' ', '\t', '\n', ';', '&', '|', '<', '>', '(', ')'].contains c

/-- A parameter that one character names. -/
def isSpecial (c : Char) : Bool := c.isDigit || ['@', '*', '#', '?', '-', '$', '!'].contains c

/-- A text without the blanks, comments and, if `lines` is set, line breaks at its
start. A backslash joins a line with the next one, but not at the end of a comment. -/
def skip (lines comment : Bool) : List Char → List Char
  | [] => []
  | '\n' :: r => if lines then skip lines false r else '\n' :: r
  | '\\' :: '\n' :: r =>
    if comment && !lines then '\n' :: r else skip lines false r
  | c :: r =>
    if comment then skip lines true r
    else if c == ' ' || c == '\t' then skip lines false r
    else if c == '#' then skip lines true r
    else c :: r

/-- A text without blanks and comments at its start. -/
def skipBlanks (cs : List Char) : List Char := skip false false cs

/-- A text without blanks, comments and line breaks at its start. -/
def skipLines (cs : List Char) : List Char := skip true false cs

/-- A text without backslashes at its start that join a line with the next one. -/
def joinLines : List Char → List Char
  | '\\' :: '\n' :: r => joinLines r
  | cs => cs

/-- What follows a word, if the text starts with it. -/
def keyword? (w : String) (cs : List Char) : Option (List Char) :=
  if w.toList.isPrefixOf cs then
    match joinLines (cs.drop w.length) with
    | [] => some []
    | c :: r => if endsWord c then some (c :: r) else none
  else none

/-- The words that end a list of commands. -/
def closers : List String := ["then", "else", "elif", "fi", "do", "done", "esac", "\x7d"]

/-- Whether a list of commands that is within a command ends here. -/
def endsList (cs : List Char) : Bool :=
  match cs with
  | ')' :: _ => true
  | ';' :: ';' :: _ => true
  | cs => closers.any fun w => (keyword? w cs).isSome

/-- The line on which a text begins that goes on up to the end of a script, of which the line
ends are counted. -/
def lineOf (lines : Nat) (cs : List Char) : Nat := lines + 1 - cs.count '\n'

/-- Whether a backslash joins a line with the next one. -/
def goesOn (line : List Char) : Bool := (line.reverse.takeWhile (· == '\\')).length % 2 == 1

/-- The lines of a document up to its delimiter, and those after it, if it comes. Tabs
before the lines are dropped if `bare` is set. A line that another one is joined with
does not count as a line of its own, unless the document is taken `literally`. -/
def documentLines (delimiter : List Char) (bare literally : Bool) :
    (joined : Bool) → List (List Char) → List (List Char) × Option (List (List Char))
  | _, [] => ([], none)
  | joined, l :: ls =>
    let l := if bare && !joined then l.dropWhile (· == '\t') else l
    if !joined && l == delimiter then ([], some ls)
    else
      let s := documentLines delimiter bare literally (!literally && goesOn l) ls
      (l :: s.1, s.2)

/-- What a place in a text is within. -/
inductive Bracket
  | single
  | double
  | back
  | parenthesis
  | brace
  | comment
  deriving DecidableEq

/-- A text up to the end of the line, and the lines after it, if there are any. Line ends
within quotes and brackets do not count, and neither do those after a backslash. A word
may start here if `fresh` is set. -/
def splitLine (within : List Bracket) (fresh : Bool) : List Char → List Char × Option (List Char)
  | [] => ([], none)
  | '\n' :: r =>
    match within with
    | [] => ([], some r)
    | [.comment] => ([], some r)
    | .comment :: outer => onward '\n' (splitLine outer true r)
    | _ => onward '\n' (splitLine within true r)
  | '\\' :: c :: r =>
    match within with
    | .single :: _ => onward '\\' (splitLine within false (c :: r))
    | .comment :: _ => onward '\\' (splitLine within false (c :: r))
    | _ => onward '\\' (onward c (splitLine within false r))
  | '$' :: '(' :: r =>
    match within with
    | .single :: _ => onward '$' (splitLine within false ('(' :: r))
    | .comment :: _ => onward '$' (splitLine within false ('(' :: r))
    | _ => onward '$' (onward '(' (splitLine (.parenthesis :: within) true r))
  | '$' :: '\x7b' :: r =>
    match within with
    | .single :: _ => onward '$' (splitLine within false ('\x7b' :: r))
    | .comment :: _ => onward '$' (splitLine within false ('\x7b' :: r))
    | _ => onward '$' (onward '\x7b' (splitLine (.brace :: within) false r))
  | c :: r => onward c (splitLine (step within fresh c) (endsWord c) r)
where
  /-- A character before what was split. -/
  onward (c : Char) (s : List Char × Option (List Char)) : List Char × Option (List Char) :=
    (c :: s.1, s.2)
  /-- What the place after a character is within. -/
  step (within : List Bracket) (fresh : Bool) (c : Char) : List Bracket :=
    match within, c with
    | .comment :: _, _ => within
    | .single :: outer, '\x27' => outer
    | .single :: _, _ => within
    | .double :: outer, '"' => outer
    | .back :: outer, '\x60' => outer
    | _, '\x60' => .back :: within
    | .double :: _, _ => within
    | _, '"' => .double :: within
    | _, '\x27' => .single :: within
    | .parenthesis :: _, '(' => .parenthesis :: within
    | .parenthesis :: outer, ')' => outer
    | .brace :: outer, '\x7d' => outer
    | .brace :: _, _ => within
    | _, '#' => if fresh then .comment :: within else within
    | _, _ => within

/-- A document out of the lines after the current one, which go on up to the line
`delimiter`; and the text without it. -/
def cutDocument (delimiter : List Char) (bare literally : Bool) (cs : List Char) :
    List Char × List Char :=
  match splitLine [] false cs with
  | (_, none) => ([], cs)
  | (line, some r) =>
    match documentLines delimiter bare literally false (r.splitOn '\n') with
    | (own, some others) => (own.flatMap (· ++ ['\n']), line ++ '\n' :: ['\n'].intercalate others)
    | (own, none) => (['\n'].intercalate own, line ++ ['\n'])

/-- The text in backquotes, in which a backslash before a dollar sign, a backquote or a
backslash is dropped, and before a double quote if it stands in such; and what follows it.
A backslash joins a line with the next one. -/
def backquoted (quoted : Bool) : List Char → Option (List Char × List Char)
  | [] => none
  | '\x60' :: r => some ([], r)
  | '\\' :: '\n' :: r => backquoted quoted r
  | '\\' :: c :: r =>
    (backquoted quoted r).map fun s =>
      (if ['$', '\x60', '\\'].contains c || (quoted && c == '"') then c :: s.1
        else '\\' :: c :: s.1, s.2)
  | c :: r => (backquoted quoted r).map fun s => (c :: s.1, s.2)

/-- The text of a word that is to be taken literally, and whether any of it is quoted. -/
def literal (w : Word) : String × Bool :=
  w.foldl (fun s part =>
    match part with
    | .text quoted t => (s.1 ++ t, s.2 || quoted)
    | _ => s) ("", false)

/-- What a list of parts is read for, which says where it ends. -/
inductive Place
  /-- A word, up to a character that ends words. -/
  | word
  /-- Double quotes, up to the closing one. -/
  | quotes
  /-- The lines of a document, all of them. -/
  | document
  /-- The operand of a parameter, up to the closing brace. -/
  | operand (quoted : Bool)
  /-- An arithmetic expression with open parentheses, up to two closing ones. -/
  | expression (depth : Nat)

/-- Whether parts at a place are quoted. -/
def Place.isQuoted : Place → Bool
  | .word => false
  | .operand quoted => quoted
  | _ => true

/-- What follows the end of the parts at a place, if they end here. -/
def Place.end? : Place → List Char → Option (List Char)
  | .word, [] => some []
  | .word, c :: r => if endsWord c then some (c :: r) else none
  | .quotes, '"' :: r => some r
  | .document, [] => some []
  | .operand _, '\x7d' :: r => some r
  | .expression 0, ')' :: ')' :: r => some r
  | _, _ => none

/-- What is missing where a text ends within a place. -/
def Place.missing : Place → String
  | .expression _ => "Missing '))'"
  | .operand false => "Missing '\x7d'"
  | _ => "Unterminated quoted string"

/-- The place after a character that stands for itself. -/
def Place.after : Place → Char → Place
  | .expression depth, '(' => .expression (depth + 1)
  | .expression depth, ')' => .expression (depth - 1)
  | place, _ => place

/-- The characters that a backslash makes literal at a quoted place. -/
def Place.escapes (place : Place) (c : Char) : Bool :=
  c == '$' || c == '\x60' || c == '\\' ||
    match place with
    | .quotes => c == '"'
    | .operand _ => c == '"' || c == '\x7d'
    | _ => false

/-- The use that an operator stands for, with what follows it, and whether its operand
is a pattern. -/
def use? : List Char → Option (Use × Bool × List Char)
  | ':' :: '-' :: r => some (.orElse true, false, r)
  | '-' :: r => some (.orElse false, false, r)
  | ':' :: '=' :: r => some (.orAssign true, false, r)
  | '=' :: r => some (.orAssign false, false, r)
  | ':' :: '+' :: r => some (.ifThere true, false, r)
  | '+' :: r => some (.ifThere false, false, r)
  | ':' :: '?' :: r => some (.demand true, false, r)
  | '?' :: r => some (.demand false, false, r)
  | '#' :: '#' :: r => some (.dropStart true, true, r)
  | '#' :: r => some (.dropStart false, true, r)
  | '%' :: '%' :: r => some (.dropEnd true, true, r)
  | '%' :: r => some (.dropEnd false, true, r)
  | _ => none

/-- The characters of a name, which may go on on the next line, and what follows them. -/
def nameAt : List Char → List Char × List Char
  | '\\' :: '\n' :: r => nameAt r
  | c :: r => if isNamePart c then (c :: (nameAt r).1, (nameAt r).2) else ([], c :: r)
  | [] => ([], [])

/-- The name of a parameter in braces, and what follows it. -/
def scanName : List Char → Option (String × List Char)
  | [] => none
  | c :: r =>
    if isNameStart c then
      some (String.ofList (c :: r.takeWhile isNamePart), r.dropWhile isNamePart)
    else if c.isDigit then
      some (String.ofList (c :: r.takeWhile Char.isDigit), r.dropWhile Char.isDigit)
    else if isSpecial c then some (c.toString, r)
    else none

/-- The parameter whose length braces ask for, and what follows the closing one. -/
def lengthOf? : List Char → Option (String × List Char)
  | '#' :: r =>
    match scanName r with
    | some (name, '\x7d' :: r) => some (name, r)
    | _ => none
  | _ => none

/-- A word in which a tilde stands for the user's directory, at the start if it is `fresh`,
and after each colon if the word is assigned. -/
def homed (assigned : Bool) : (fresh : Bool) → Word → Word
  | _, [] => []
  | fresh, part :: rest =>
    let ends :=
      match rest.head? with
      | none => true
      | some (.text false s) => s == "/" || (assigned && s == ":")
      | some _ => false
    match part with
    | .text false s =>
      if fresh && s == "~" && ends then .home :: homed assigned false rest
      else part :: homed assigned (assigned && s == ":") rest
    | part => part :: homed assigned false rest

/-- The name of a loop's variable, and what follows it. -/
def loopName (cs : List Char) : Option (String × List Char) :=
  let name := cs.takeWhile fun c => !endsWord c
  if (name.head?.map isNameStart).getD false && name.all isNamePart then
    some (String.ofList name, cs.drop name.length)
  else none

/-- The name that a word assigns to, and what follows the sign. -/
def assigned? (cs : List Char) : Option (String × List Char) :=
  match cs with
  | c :: _ =>
    if isNameStart c then
      match cs.dropWhile isNamePart with
      | '=' :: r => some (String.ofList (cs.takeWhile isNamePart), r)
      | _ => none
    else none
  | [] => none

/-- The name that a word gives to a function, if it can be one. -/
def functionName? (w : Word) : Option String :=
  let name := (literal w).1
  let plain := w.all fun
    | .text false _ => true
    | _ => false
  if plain && (name.toList.head?.map isNameStart).getD false && name.toList.all isNamePart &&
      !specialCommands.contains name then
    some name
  else none

/-- An operator of redirection: the descriptor that it is about when none is named, what
it does, whether its target is a document and whether that is bare; and what follows. -/
def operator? : List Char → Option (Nat × Redirection × Bool × List Char)
  | '<' :: '<' :: '-' :: r => some (0, .document, true, r)
  | '<' :: '<' :: r => some (0, .document, false, r)
  | '<' :: '&' :: r => some (0, .duplicate, false, r)
  | '<' :: '>' :: r => some (0, .readWrite, false, r)
  | '<' :: r => some (0, .read, false, r)
  | '>' :: '>' :: r => some (1, .append, false, r)
  | '>' :: '&' :: r => some (1, .duplicate, false, r)
  | '>' :: '|' :: r => some (1, .replace, false, r)
  | '>' :: r => some (1, .write, false, r)
  | _ => none

/-- Whether a redirection stands here, after the number of a descriptor or without. -/
def isRedirect (cs : List Char) : Bool := (operator? (cs.dropWhile Char.isDigit)).isSome

/-- What stands in double quotes. It is a word even if it is empty, unless it is the
arguments and nothing else, which may be none. -/
def quotedParts (inner : Word) : Word :=
  match inner with
  | [.parameter _ "@" _ _] => inner
  | inner => .text true "" :: inner

/-- A command of others with redirections. A group of nothing but a subshell passes its
own on to that, in the place of those that the subshell has. -/
def redirectGroup (script : Script) (redirects : List Redirect) : Script :=
  match script with
  | .sequence [.at line (.subshell inner)] => .at line (.redirected (.subshell inner) redirects)
  | .sequence [.at line (.redirected (.subshell inner) _)] =>
    .at line (.redirected (.subshell inner) redirects)
  | script => .redirected script redirects

/-! ## Complaints -/

/-- Why a script cannot be read, and on which line that shows. -/
structure Misreading where
  message : String
  line : Nat

/-- What the token at the start of a text is called, and what follows it. Words that scripts
are made of have names of their own. -/
def tokenAt (cs : List Char) : String × List Char :=
  match cs with
  | [] => ("end of file", [])
  | '\n' :: r => ("newline", r)
  | ';' :: ';' :: r => ("\";;\"", r)
  | ';' :: r => ("\";\"", r)
  | '&' :: '&' :: r => ("\"&&\"", r)
  | '&' :: r => ("\"&\"", r)
  | '|' :: '|' :: r => ("\"||\"", r)
  | '|' :: r => ("\"|\"", r)
  | '(' :: r => ("\"(\"", r)
  | ')' :: r => ("\")\"", r)
  | cs =>
    if isRedirect cs then ("redirection", cs)
    else
      match keywords.find? fun w => (keyword? w cs).isSome with
      | some w => ("\"" ++ w ++ "\"", cs.drop w.length)
      | none => ("word", cs)

/-- Complains about the token at the start of a text, in the place of which there should be
another one. Where all words are alike, none of them has a name of its own. -/
def unexpected {α : Type} (lines : Nat) (cs : List Char) (expected : Option String)
    (alike : Bool) : Except Misreading α :=
  let (token, r) := tokenAt cs
  let token := if alike && keywords.any (fun w => token == "\"" ++ w ++ "\"") then "word" else token
  .error ⟨token ++ " unexpected" ++ expected.elim "" (fun s => " (expecting " ++ s ++ ")"),
    lineOf lines (if token == "newline" then r else cs)⟩

/-- What follows a word that should stand here. -/
def expect (lines : Nat) (w : String) (cs : List Char) : Except Misreading (List Char) :=
  match keyword? w cs with
  | some r => .ok r
  | none => unexpected lines cs (some ("\"" ++ w ++ "\"")) false

/-- What follows a closing parenthesis that should stand here. -/
def expectClosing (lines : Nat) (alike : Bool) (cs : List Char) :
    Except Misreading (List Char) :=
  match cs with
  | ')' :: r => .ok r
  | cs => unexpected lines cs (some "\")\"") alike

/-- Whether a command may start here. -/
def startsCommand (cs : List Char) : Bool :=
  match cs with
  | [] => false
  | c :: _ =>
    if c == '(' then true
    else if endsWord c && !isRedirect cs then false
    else !("in" :: "!" :: closers).any fun w => (keyword? w cs).isSome

end DecoderBench.Shell
