/-
Reports as text: as JSON for programs, and in lines for people, who may want
colours.
-/
import DecoderBench.Report
import DecoderBench.Terminal

namespace DecoderBench.Report

/-- The formats of a report. -/
inductive Format
  | terminal
  | json
  deriving DecidableEq

/-- `s`, in a style if colours are wanted. -/
def styled (color : Bool) (style : Terminal.Style) (s : String) : String :=
  if color then style.paint s else s

/-- A heading with the number of lines under it. -/
def counted (title : String) (n : Nat) : String := title ++ " (" ++ toString n ++ ")"

/-- A reference with its type. -/
def typed (color : Bool) (reference signature : String) : String :=
  "  " ++ reference ++ " : " ++ styled color .dimmed signature

/-- A decoder with its view, which is marked if it shows text only. -/
def PairLine.text (color : Bool) (l : PairLine) : String :=
  "  " ++ l.decoder ++ " -> " ++
    if l.fallback then styled color .warning (l.view ++ " (fallback)")
    else styled color .success l.view

/-- The counts in words. -/
def summaryText (s : Summary) : String :=
  toString s.decoders ++ " decoders, " ++ toString s.matched ++ " paired with a view, " ++
    toString s.fallbacks ++ " rendered as text"

/-- The lines of a report. -/
def terminalLines (color : Bool) (r : Report) : List String :=
  styled color .header (counted "Decoders" r.decoders.length) ::
      r.decoders.map (fun d => typed color d.reference d.signature) ++
    "" :: styled color .header (counted "Views" r.views.length) ::
      r.views.map (fun v => typed color v.reference v.signature) ++
    "" :: styled color .header "Pairings" :: r.pairs.map (PairLine.text color) ++
    ["", summaryText r.summary]

/-- The text of a report. JSON has no colours. -/
def render (r : Report) (format : Format) (color : Bool) : String :=
  match format with
  | .terminal => "\n".intercalate (terminalLines color r)
  | .json => r.toJson.pretty

end DecoderBench.Report
