/-
What a command line that gives no command is answered with.
-/
import DecoderBench.CommandLine

namespace DecoderBench.CommandLine

/-- The name and the version of the tool. -/
def version : String := "debug-decoders 0.3.0"

/-- The options of a command in one line. -/
def synopsis (v : Verb) : String :=
  " ".intercalate (("  debug-decoders " ++ v.word) :: v.choices.map fun c =>
    match c with
    | .valued .format => "[--format terminal|json]"
    | .valued _ => "[--" ++ c.long ++ " <" ++ c.long ++ ">]"
    | c => "[--" ++ c.long ++ "]")

/-- How the tool is used. -/
def usage : String :=
  "\n".intercalate
    [ "Generate an Elm module that runs every JSON decoder of a project against sample input"
    , ""
    , "Usage:"
    , synopsis .generate
    , synopsis .inspect
    , synopsis .init ]

/-- A problem in words. -/
def Problem.message : Problem → String
  | .help => usage
  | .version => CommandLine.version
  | .noCommand => usage
  | .unknownCommand => "error: unrecognized subcommand"
  | .unknownArgument => "error: unexpected argument found"
  | .invalidValue => "error: a value is missing or invalid"
  | .unexpectedValue => "error: unexpected value for a flag"
  | .conflict => "error: an argument cannot be used again or with another one"

/-- Whether the words asked for what they are answered with. -/
def Problem.isRequest : Problem → Bool
  | .help => true
  | .version => true
  | _ => false

/-- The status that a command line without a command ends with. -/
def Problem.exitStatus (p : Problem) : UInt8 := if p.isRequest then 0 else 2

end DecoderBench.CommandLine
