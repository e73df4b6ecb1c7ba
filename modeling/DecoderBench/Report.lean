/-
The report on a program: its decoders, its simple views, and which view shows
which decoder's values.
-/
import DecoderBench.Json
import DecoderBench.PairedProgram

namespace DecoderBench

namespace Report

/-- A decoder with its type and the type of its values. -/
structure DecoderLine where
  reference : String
  signature : String
  payload : String
  deriving DecidableEq

/-- A view with its type and the type of the values that it shows, if it takes any. -/
structure ViewLine where
  reference : String
  signature : String
  input : Option String
  deriving DecidableEq

/-- A decoder and the function that shows its values. -/
structure PairLine where
  decoder : String
  view : String
  fallback : Bool
  deriving DecidableEq

end Report

/-- What is known about a program before anything is generated. -/
structure Report where
  decoders : List Report.DecoderLine
  views : List Report.ViewLine
  pairs : List Report.PairLine
  summary : Summary
  deriving DecidableEq

namespace Report

/-- The lines of a module's decoders. -/
def decoderLines (classifier : Classifier) (m : Module) : List DecoderLine :=
  (m.restrict classifier .decoders).signatures.map fun d =>
    ⟨m.reference d.name, d.type, classifier.payload d⟩

/-- The lines of a module's views. -/
def viewLines (classifier : Classifier) (m : Module) : List ViewLine :=
  (m.restrict classifier .views).signatures.map fun v =>
    ⟨m.reference v.name, v.type, classifier.input? v⟩

/-- The line of a pairing. -/
def pairLine (p : Pairing) : PairLine := ⟨p.reference, p.rendering.reference, p.rendering.isText⟩

/-- The report on a paired program. -/
def of (classifier : Classifier) (p : PairedProgram) : Report where
  decoders := p.modules.flatMap (decoderLines classifier)
  views := p.modules.flatMap (viewLines classifier)
  pairs := p.pairings.map pairLine
  summary := p.summary

/-! ## As JSON -/

/-- The object of a decoder's line. -/
def DecoderLine.toJson (l : DecoderLine) : Json :=
  .record [("reference", .ofString l.reference), ("signature", .ofString l.signature),
    ("payload", .ofString l.payload)]

/-- The object of a view's line. -/
def ViewLine.toJson (l : ViewLine) : Json :=
  .record [("reference", .ofString l.reference), ("signature", .ofString l.signature),
    ("input", l.input.elim .null .ofString)]

/-- The object of a pairing's line. -/
def PairLine.toJson (l : PairLine) : Json :=
  .record [("decoder", .ofString l.decoder), ("view", .ofString l.view),
    ("fallback", .bool l.fallback)]

/-- The object of the counts. -/
def summaryJson (s : Summary) : Json :=
  .record [("decoders", .ofNat s.decoders), ("matched", .ofNat s.matched),
    ("fallbacks", .ofNat s.fallbacks)]

/-- The object of a report. -/
def toJson (r : Report) : Json :=
  .record [("decoders", .array (r.decoders.map DecoderLine.toJson)),
    ("views", .array (r.views.map ViewLine.toJson)),
    ("pairs", .array (r.pairs.map PairLine.toJson)),
    ("summary", summaryJson r.summary)]

end Report
end DecoderBench
