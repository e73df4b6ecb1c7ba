/-
The generated module: a plan written out as Elm source.

The module has ten sections with two empty lines between them. A plan without
decoders, or without views, still needs a type to name; that type then has one
constructor which stands for nothing.
-/
import DecoderBench.Elm.Literal
import DecoderBench.Plan
import DecoderBench.Program.Fixed

namespace DecoderBench

/-- A module of Elm source. -/
structure GeneratedModule where
  name : String
  source : String
  deriving DecidableEq

namespace GeneratedModule

/-- Where a module of the given name lies below a source directory: each dot of the
name leads one directory down. -/
def fileNameOf (name : String) : String :=
  String.ofList (name.toList.map fun c => if c == '.' then '/' else c) ++ ".elm"

/-- Where the module must be saved, below a source directory, to be importable. -/
def fileName (m : GeneratedModule) : String := fileNameOf m.name

end GeneratedModule

namespace Program

/-- The name of the generated module when none is configured. -/
def defaultName : String := "DebugDecoders"

/-- The constructor of decoded values in a program without decoders. -/
def noDecoders : String := "NoDecodersFound"

/-- The constructor of known views in a program without views. -/
def noViews : String := "NoViewsFound"

/-- What a program without decoders tells its user. -/
def noDecodersNotice : String := Elm.literal "No decoders were found"

/-- The planned imports that the generated module needs beside the base imports. A
module does not import itself. -/
def projectImports (plan : Plan) (name : String) : List String :=
  plan.imports.filter fun m => m != name && !baseImports.contains m

/-- The lines of the header, before blanks at its end are dropped. -/
def headerLines (plan : Plan) (name : String) : List String :=
  let imports := (projectImports plan name).map ("import " ++ ·)
  ["module " ++ name ++ " exposing (main)", ""] ++ baseImports.map ("import " ++ ·) ++
    if imports.isEmpty then [] else "" :: imports

/-- The module's declaration and its imports. -/
def header (plan : Plan) (name : String) : String :=
  String.ofList (Text.trimEnd (Elm.lines (headerLines plan name)).toList)

/-- The constructors of the type of decoded values, with their arguments. -/
def decodedConstructors (plan : Plan) : List String :=
  match plan.decodedCases with
  | [] => [noDecoders]
  | cases => cases.map fun c => c.name ++ " " ++ Elm.argument c.payload

/-- The type of decoded values. -/
def decodedType (plan : Plan) : String := Elm.union "DecodedValue" (decodedConstructors plan)

/-- The constructors of the type of known views. -/
def viewConstructors (plan : Plan) : List String :=
  match plan.viewCases with
  | [] => [noViews]
  | cases => cases.map (·.name)

/-- The type of known views. -/
def viewType (plan : Plan) : String := Elm.union "KnownView" (viewConstructors plan)

/-- What the table of decoders has under a key: a decoder that wraps its values in a
constructor. -/
def wrapped (r : DecoderRow) : String := "Json.Decode.map " ++ r.constructor ++ " " ++ r.reference

/-- The table of decoders. -/
def decoderTable (plan : Plan) : String :=
  Elm.lines
    [ "decodersByName : Dict.Dict String (Json.Decode.Decoder DecodedValue)"
    , "decodersByName ="
    , Elm.indent 1 ++ "Dict.fromList"
    , Elm.list 2 (plan.decoderRows.map fun r => Elm.tuple (Elm.literal r.reference) (wrapped r)) ]

/-- The table that names the view of each decoder. -/
def pairedViews (plan : Plan) : String :=
  Elm.lines
    [ "pairedViews : Dict.Dict String String"
    , "pairedViews ="
    , Elm.indent 1 ++ "Dict.fromList"
    , Elm.list 2 (plan.decoderRows.map fun r =>
        Elm.tuple (Elm.literal r.reference) (Elm.literal r.view)) ]

/-- The list of all simple views. -/
def knownViews (plan : Plan) : String :=
  Elm.lines
    [ "knownViews : List ( String, KnownView )"
    , "knownViews ="
    , Elm.list 1 (plan.knownViews.map fun v => Elm.tuple (Elm.literal v.1) v.2) ]

/-- One branch for each constructor of decoded values, the one that stands for
nothing included. -/
def decodedBranches (plan : Plan) (sentinelBody : String)
    (body : DecodedCase → String) : List Elm.Branch :=
  match plan.decodedCases with
  | [] => [⟨noDecoders, sentinelBody⟩]
  | cases => cases.map fun c => ⟨c.name ++ " value", body c⟩

/-- The branches that show a decoded value by its view. -/
def dispatchBranches (plan : Plan) : List Elm.Branch :=
  decodedBranches plan ("Html.text " ++ noDecodersNotice) fun c =>
    "Html.map (always IgnoreViewMsg) (" ++ c.view ++ " value)"

/-- The function that shows a decoded value by its view. -/
def viewDecoded (plan : Plan) : String :=
  Elm.lines
    [ "viewDecoded : DecodedValue -> Html.Html Msg"
    , "viewDecoded decoded ="
    , Elm.caseOf "decoded" (dispatchBranches plan) ]

/-- The branches that write a decoded value after its type. -/
def summaryBranches (plan : Plan) : List Elm.Branch :=
  decodedBranches plan noDecodersNotice fun c =>
    Elm.literal (String.ofList (Text.trim c.payload.toList) ++ ": ") ++ " ++ toString value"

/-- The function that writes a decoded value after its type. -/
def summarizeDecoded (plan : Plan) : String :=
  Elm.lines
    [ "summarizeDecoded : DecodedValue -> String"
    , "summarizeDecoded decoded ="
    , Elm.caseOf "decoded" (summaryBranches plan) ]

/-- The sections of the generated module. -/
def sections (plan : Plan) (name : String) : List String :=
  [ header plan name, decodedType plan, viewType plan, decoderTable plan, pairedViews plan,
    knownViews plan, viewAsText, viewDecoded plan, summarizeDecoded plan, interactive ]

/-- The module called `name` that carries out `plan`. -/
def render (plan : Plan) (name : String) : GeneratedModule :=
  ⟨name, "\n\n\n".intercalate (sections plan name) ++ "\n"⟩

/-- The module for a program's modules in one step. Pairing sees every signature
here; `PairedProgram.generate` pairs classified modules instead. -/
def assemble (classifier : Classifier) (name : String) (modules : List Module) : GeneratedModule :=
  render (Plan.of classifier (classify classifier modules) (pair classifier modules)) name

end Program

end DecoderBench
