/-
Reading JSON text.

The reader goes through the tokens once and keeps the open lists and objects on a
stack, so that values may be nested as deep as they like.
-/
import DecoderBench.Json.Token

namespace DecoderBench.Json

/-- A list or an object that is not closed yet: what it holds so far, latest first,
and for an object the key whose value comes next. -/
inductive Frame
  | array (elements : List Json)
  | object (members : List (Option String × Json)) (key : Option String)

/-- What has been read, the open lists and objects from the innermost out, and what
may come next. -/
inductive State
  /-- A value must come. -/
  | value (stack : List Frame)
  /-- A list was opened: a value or its end must come. -/
  | element (stack : List Frame)
  /-- An object was opened: a key or its end must come. -/
  | member (stack : List Frame)
  /-- A comma was read in an object: a key must come. -/
  | key (members : List (Option String × Json)) (stack : List Frame)
  /-- A key was read: a colon must come. -/
  | colon (members : List (Option String × Json)) (key : Option String) (stack : List Frame)
  /-- A value was read: a comma or the end of what it is in must come. -/
  | rest (v : Json) (stack : List Frame)

/-- The state after the first token of a value. -/
def begin (stack : List Frame) : Token → Option State
  | .scalar v => some (.rest v stack)
  | .openArray => some (.element stack)
  | .openObject => some (.member stack)
  | _ => none

/-- The state after one token more, if the token may come. -/
def step : State → Token → Option State
  | .value stack, t => begin stack t
  | .element stack, .closeArray => some (.rest (.array []) stack)
  | .element stack, t => begin (.array [] :: stack) t
  | .member stack, .closeObject => some (.rest (.object []) stack)
  | .member stack, .scalar (.string k) => some (.colon [] k stack)
  | .key ms stack, .scalar (.string k) => some (.colon ms k stack)
  | .colon ms k stack, .colon => some (.value (.object ms k :: stack))
  | .rest v (.array es :: stack), .comma => some (.value (.array (v :: es) :: stack))
  | .rest v (.array es :: stack), .closeArray => some (.rest (.array (v :: es).reverse) stack)
  | .rest v (.object ms k :: stack), .comma => some (.key ((k, v) :: ms) stack)
  | .rest v (.object ms k :: stack), .closeObject =>
    some (.rest (.object ((k, v) :: ms).reverse) stack)
  | _, _ => none

/-- The state after several tokens more. -/
def run (s : State) (ts : List Token) : Option State := ts.foldlM step s

/-- The value that tokens spell, if they spell just one. -/
def ofTokens? (ts : List Token) : Option Json :=
  match run (.value []) ts with
  | some (.rest v []) => some v
  | _ => none

/-- The value that a text spells, with nothing but space around it. -/
def parse (text : List Char) : Option Json := (lex text).bind ofTokens?

end DecoderBench.Json
