/-
The commands of the tool and what each is told.
-/
import DecoderBench.Path
import DecoderBench.Report.Format

namespace DecoderBench

/-- Where a command finds a project: its directory, and perhaps a file with the
interfaces of its modules and a settings file. -/
structure Source where
  path : Path := ⟨"."⟩
  interface : Option Path := none
  config : Option Path := none
  deriving DecidableEq

/-- What `generate` is told beside its source: where the module goes. -/
structure GenerateJob where
  source : Source
  output : Option Path := none
  /-- Print the module instead of saving it. -/
  stdout : Bool := false
  deriving DecidableEq

/-- What `inspect` is told beside its source: how the report looks. -/
structure InspectJob where
  source : Source
  format : Report.Format := .terminal
  plain : Bool := false
  deriving DecidableEq

/-- A command. The verbosity counts how much is to be logged. -/
inductive Command
  /-- Generate the module for a project. -/
  | generate (job : GenerateJob) (verbosity : Nat)
  /-- Show how signatures were sorted and paired. -/
  | inspect (job : InspectJob) (verbosity : Nat)
  /-- Write a settings file to start from, over an old one if forced. -/
  | init (force : Bool)
  deriving DecidableEq

/-- The messages that are logged at a verbosity. -/
def logFilter (verbosity : Nat) : String :=
  match verbosity with
  | 0 => "warn"
  | 1 => "info"
  | 2 => "debug"
  | _ => "trace"

end DecoderBench
