/-
The tool on a real machine.

No other program is started from here: an extractor counts as not installed, and
interfaces are read from a file.
-/
import DecoderBench.CommandLine.Usage
import DecoderBench.Run

namespace DecoderBench.Machine

/-- A refusal of the machine by its number, or in its own words. -/
def fault : IO.Error → SystemFault
  | .noFileOrDirectory .. => .notFound
  | .alreadyExists .. => .alreadyThere
  | .inappropriateType _ code details =>
    if code == 20 || code == 0 - 20 then .notDirectory
    else if code == 21 || code == 0 - 21 then .isDirectory
    else .other details
  | e => .other (toString e)

/-- An effect whose refusal is a result. -/
def attempt {α : Type} (run : IO α) : IO (Except SystemFault α) := do
  match ← run.toBaseIO with
  | .ok a => return .ok a
  | .error e => return .error (fault e)

/-- What a path leads to. -/
def kind? (p : Path) : IO (Option Kind) := do
  match ← attempt (do (← IO.FS.realPath p.text).metadata) with
  | .error _ => return none
  | .ok data =>
    match data.type with
    | .dir => return some .directory
    | .file => return some .file
    | _ => return some .other

/-- The content of a file. -/
def read (p : Path) : IO (Except SystemFault (List UInt8)) := do
  if (← kind? p) == some .directory then return .error .isDirectory
  else attempt (do return (← IO.FS.readBinFile p.text).toList)

instance : Host IO where
  workingDirectory := attempt (do return ⟨(← IO.currentDir).toString⟩)
  kind? := kind?
  read := read
  write p content := attempt (IO.FS.writeBinFile p.text ⟨content.toArray⟩)
  makeDirectory p := attempt (IO.FS.createDir p.text)
  findProgram _ := return none
  start _ _ := return .error .notProgram
  print text := IO.print text

end DecoderBench.Machine

open DecoderBench in
/-- Carries out the command that the words spell. -/
def main (args : List String) : IO UInt32 := do
  match CommandLine.parse args with
  | .error problem =>
    if problem.isRequest then IO.println problem.message else IO.eprintln problem.message
    return problem.exitStatus.toUInt32
  | .ok command =>
    match ← (Run.command (m := IO) command).run with
    | .ok () => return 0
    | .error f =>
      IO.eprintln ("Error: " ++ f.message)
      return f.exitStatus.toUInt32
