/-
Decoders and the views that show what they decode.

A decoder is paired with the first simple view, in the order of modules and then
of declarations, whose input type is written as the decoder's payload type is.
Texts are compared trimmed but otherwise exactly: `List Int` and `(List Int)`
differ. Without such a view the value is shown as text, by a function of the
generated program itself.
-/
import DecoderBench.Classifier

namespace DecoderBench

/-- How the values of a decoder are shown. -/
inductive Rendering
  /-- By `view` of the module `owner`. -/
  | view (owner : Module) (view : Signature)
  /-- As text, by a function of the module `owner`. -/
  | text {owner : Module}
  deriving DecidableEq

/-- A decoder of the module `owner` and how its values are shown. -/
structure Pairing where
  owner : Module
  decoder : Signature
  rendering : Rendering
  deriving DecidableEq

/-- The function of the generated program that shows any value as text. -/
def textView : Signature := ⟨"viewAsText", "a -> " ++ Classifier.defaultViewType ++ " msg"⟩

namespace Rendering

/-- Whether values are shown as text. -/
def isText : Rendering → Bool
  | .view .. => false
  | .text => true

/-- The module of the function that shows the values. -/
def owner : Rendering → Module
  | .view m _ => m
  | @text m => m

/-- The reference of the function that shows the values. -/
def reference : Rendering → String
  | .view m v => m.reference v.name
  | @text m => m.reference textView.name

end Rendering

namespace Pairing

/-- The reference of the decoder. -/
def reference (p : Pairing) : String := p.owner.reference p.decoder.name

end Pairing

/-- Whether `view` shows the values of `decoder` in the generated program. -/
def Classifier.shows (classifier : Classifier) (decoder view : Signature) : Bool :=
  classifier.isView view && view.isEmbeddable &&
    classifier.input? view == some (classifier.payload decoder)

/-- The first view among the modules that shows the values of `decoder`, with its
module. -/
def findView? (classifier : Classifier) (modules : List Module) (decoder : Signature) :
    Option (Module × Signature) :=
  modules.findSome? fun m => (m.signatures.find? (classifier.shows decoder)).map fun v => (m, v)

/-- How the values of `decoder` are shown, given the modules that may have a view. The
function that shows them as text is one of the generated program's own. -/
def renderingOf (classifier : Classifier) (modules : List Module) (decoder : Signature) :
    Rendering :=
  match findView? classifier modules decoder with
  | some (m, v) => .view m v
  | none => @Rendering.text .nameless

/-- One pairing for each decoder of the modules, in their order. -/
def pair (classifier : Classifier) (modules : List Module) : List Pairing :=
  modules.flatMap fun m =>
    (m.signatures.filter classifier.isDecoder).map fun d =>
      ⟨m, d, renderingOf classifier modules d⟩

/-- How many decoders there are, how many have a view, and how many are shown as
text. -/
structure Summary where
  decoders : Nat
  matched : Nat
  fallbacks : Nat
  deriving DecidableEq

/-- The counts of a list of pairings. -/
def Summary.of (pairings : List Pairing) : Summary where
  decoders := pairings.length
  matched := pairings.countP fun p => !p.rendering.isText
  fallbacks := pairings.countP fun p => p.rendering.isText

end DecoderBench
