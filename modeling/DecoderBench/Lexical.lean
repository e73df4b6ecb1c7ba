/-
Reading a type's text by its arrows and blanks alone.

A decoder is a value, not a function, whose type starts with the decoder type:
`Json.Decode.Decoder Int`. A simple view is a value or a function of one
argument whose result is the view type applied to something:
`Int -> Html.Html msg`. No type is checked and no alias is resolved: names match
only as they are written.
-/
import DecoderBench.Text.Tokens

namespace DecoderBench.Lexical

open Text

/-- Whether `type` has no arrow and its first token is `head`. -/
def isDecoder (head type : String) : Bool :=
  !hasArrow type.toList && (tokens type.toList).head? == some head.toList

/-- Whether `result` starts with `head` and has more tokens after it. -/
def isApplied (head : String) (result : List Char) : Bool :=
  match tokens result with
  | first :: _ :: _ => first == head.toList
  | _ => false

/-- Whether `type` has at most one arrow and the piece after it, or all of it
where there is none, is `head` applied to something. -/
def isView (head type : String) : Bool :=
  match arrowPieces type.toList with
  | [result] => isApplied head result
  | [_, result] => isApplied head result
  | _ => false

/-- The trimmed argument of a function of one argument. -/
def input? (type : String) : Option String :=
  match arrowPieces type.toList with
  | [argument, _] => some (String.ofList (trim argument))
  | _ => none

/-- What a type is about: the first argument of a function; of any other type
what follows its first token, or the type as it stands where nothing does. -/
def payload (type : String) : String :=
  match arrowPieces type.toList with
  | argument :: _ :: _ => String.ofList (trim argument)
  | _ =>
    match (trim type.toList).dropWhile fun c => !isBlank c with
    | [] => type
    | rest => String.ofList (trim rest)

end DecoderBench.Lexical
