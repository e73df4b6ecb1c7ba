/-
A machine that is a value: a file system, what has been printed, what programs do, and
which of the requests to come are refused. Runs on it are functions, and what a command
does to it can be computed.
-/
import DecoderBench.Host
import DecoderBench.Workspace

namespace DecoderBench

/-- How a machine refuses a request, whatever its file system could do. -/
structure Refusal where
  fault : SystemFault
  /-- A file that was missing and should have been written is there by then, with nothing
  in it. -/
  late : Bool := false

/-- What starting a program with some words comes to, and the file system after it. -/
abbrev Programs := Workspace → Path → List String → Except SystemFault (Outcome × Workspace)

/-- A machine with what happens to it and on it. -/
structure Session where
  workspace : Workspace
  printed : String := ""
  /-- One for each request to come: it is refused, or with `none` it is not. Nor are those
  for which there is none left. -/
  refusals : List (Option Refusal) := []
  programs : Programs := fun _ _ _ => .error .notProgram

namespace Session

/-- The effects on a session. -/
abbrev M := StateM Session

/-- Looks at the file system. -/
def look {α : Type} (f : Workspace → α) : M α := fun s => (f s.workspace, s)

/-- Changes the file system, unless it does not allow that. -/
def change (f : Workspace → Except SystemFault Workspace) : M (Except SystemFault Unit) := fun s =>
  match f s.workspace with
  | .ok w => (.ok (), { s with workspace := w })
  | .error e => (.error e, s)

/-- Runs a program, which may change the file system. -/
def start (program : Path) (args : List String) : M (Except SystemFault Outcome) := fun s =>
  match s.programs s.workspace program args with
  | .ok (outcome, w) => (.ok outcome, { s with workspace := w })
  | .error e => (.error e, s)

/-- Puts a request to the machine, which carries it out or refuses it. -/
def request {α : Type} (carriedOut : M (Except SystemFault α))
    (refused : Refusal → M (Except SystemFault α) := fun r => pure (.error r.fault)) :
    M (Except SystemFault α) := fun s =>
  match s.refusals with
  | [] => carriedOut s
  | none :: rest => carriedOut { s with refusals := rest }
  | some r :: rest => refused r { s with refusals := rest }

/-- What is left of writing a file that is refused. What the file held before is not
touched. -/
def breakOff (p : Path) (r : Refusal) : M (Except SystemFault Unit) := fun s =>
  (.error r.fault, if r.late then { s with workspace := s.workspace.touch p } else s)

/-- What a path leads to is answered by the file system alone. -/
instance : Host M where
  workingDirectory := request (look fun w => .ok w.directoryPath)
  kind? p := look fun w => w.kind? p
  read p := request (look fun w => w.read p)
  write p content := request (change fun w => w.write p content) (breakOff p)
  makeDirectory p := request (change fun w => w.makeDirectory p)
  findProgram name := look fun w => w.findProgram name
  start program args := request (Session.start program args)
  print text := fun s => ((), { s with printed := s.printed ++ text })

end Session
end DecoderBench
