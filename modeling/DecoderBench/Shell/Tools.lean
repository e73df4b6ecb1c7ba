/-
The tools that a machine has, by their names.
-/
import DecoderBench.Shell.Tool.Filters
import DecoderBench.Shell.Tool.Linking
import DecoderBench.Shell.Tool.Permissions
import DecoderBench.Shell.Tool.Printing

namespace DecoderBench.Shell.Tool

/-- The tools that the shell has within itself. -/
def own : List (String × Tool) :=
  [("echo", echo true), ("printf", printf true), ("test", test true), ("[", test true),
    ("true", ending 0), ("false", ending 1)]

/-- The tools that are programs and do not run others. -/
def programs : List (String × Tool) :=
  [("echo", echo false), ("printf", printf false), ("test", test false), ("[", test false),
    ("pwd", pwd), ("true", ending 0), ("false", ending 1), ("printenv", printenv),
    ("basename", basename), ("dirname", dirname), ("cat", cat), ("head", head), ("tail", tail),
    ("tee", tee), ("mkdir", mkdir), ("rmdir", rmdir), ("rm", rm), ("touch", touch),
    ("cp", transferTool false), ("mv", transferTool true), ("ln", ln), ("chmod", chmod)]

/-- What a tool says that cannot write its output, and its status then. The output is closed, or
it takes nothing. -/
def writingFault (name called : String) (full : Bool) : String × Nat :=
  let reason := if full then SystemFault.noSpace.words else "Bad file descriptor"
  let usual := called ++ ": write error: " ++ reason
  match name with
  | "cat" => (if full then usual else called ++ ": standard output: " ++ reason, 1)
  | "tee" => (called ++ ": 'standard output': " ++ reason, 1)
  | "printenv" => (usual, 2)
  | "env" => (usual, 125)
  | _ => (usual, 1)

/-- What a tool has done, where it could not write its output. -/
def written (name called : String) (p q : Process) : Process :=
  let full := (p.stream? 1).any fun s => s.2 matches .full
  if q.broken then
    let (words, status) := writingFault name called full
    { q.complain words with status, broken := false }
  else q

/-- Runs a tool by its name and by what it is called. One needs an output even if it writes
nothing. -/
def run (name called : String) (tool : Tool) (args : List String) (p : Process) : Process :=
  if (p.stream? 1).isNone && name == "cat" then written name called p { p with broken := true }
  else written name called p (tool called args p)

end DecoderBench.Shell.Tool
