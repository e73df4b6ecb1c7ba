/-
Which signatures are decoders, which are simple views, and the types they are
matched by.

Pairing and planning see a `Classifier` only, so a stricter one can stand in for
the lexical one.
-/
import DecoderBench.Lexical
import DecoderBench.Signature

namespace DecoderBench

/-- How the signatures of a program are sorted. -/
structure Classifier where
  /-- Whether a signature is a decoder. -/
  isDecoder : Signature → Bool
  /-- Whether a signature is a simple view. -/
  isView : Signature → Bool
  /-- The type of the values that a decoder produces. -/
  payload : Signature → String
  /-- The type of the values that a view shows, if it takes an argument. -/
  input? : Signature → Option String

namespace Classifier

/-- The classifier with the two given tests that reads payloads and inputs off
the types' text. -/
def ofTests (isDecoder isView : Signature → Bool) : Classifier where
  isDecoder := isDecoder
  isView := isView
  payload s := Lexical.payload s.type
  input? s := Lexical.input? s.type

/-- The decoder type that is meant when none is configured. -/
def defaultDecoderType : String := "Json.Decode.Decoder"

/-- The view type of the generated program itself, and the one that is meant when
none is configured. -/
def defaultViewType : String := "Html.Html"

/-- The classifier that compares names only, as they are written. -/
def lexical (decoderType viewType : String) : Classifier :=
  ofTests (fun s => Lexical.isDecoder decoderType s.type) fun s => Lexical.isView viewType s.type

/-- The rule for decoders in words. -/
def decoderRule (decoderType : String) : String :=
  "arrow-free signature starting with " ++ decoderType

/-- The rule for simple views in words. -/
def viewRule (viewType : String) : String :=
  "at most one argument, result " ++ viewType ++ " <param>"

end Classifier

/-- Whether the generated program can show `view` as it is: whatever is configured
as the view type, that program works with `Html.Html`. -/
def Signature.isEmbeddable (view : Signature) : Bool :=
  Lexical.isView Classifier.defaultViewType view.type

/-- Which signatures of a module are kept. -/
inductive Selection
  | decoders
  | views
  | decodersAndViews
  deriving DecidableEq

/-- Whether `classifier` sorts `s` under the selection. -/
def Selection.keeps (selection : Selection) (classifier : Classifier) (s : Signature) : Bool :=
  match selection with
  | .decoders => classifier.isDecoder s
  | .views => classifier.isView s
  | .decodersAndViews => classifier.isDecoder s || classifier.isView s

/-- `m` with the selected signatures only, in the order that they have in it. -/
def Module.restrict (m : Module) (classifier : Classifier) (selection : Selection) : Module :=
  { m with signatures := m.signatures.filter (selection.keeps classifier) }

/-- The modules of a program with their decoders and simple views only. Modules
that have neither stay, empty, so that positions line up. -/
def classify (classifier : Classifier) (modules : List Module) : List Module :=
  modules.map fun m => m.restrict classifier .decodersAndViews

/-- How many signatures the modules have together. -/
def signatureCount (modules : List Module) : Nat :=
  (modules.flatMap fun m => m.signatures).length

end DecoderBench
