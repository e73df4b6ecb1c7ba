/-
The extractor: a program that prints the interfaces of a project's modules.

It must end with status zero and write nothing but blanks to its diagnostics;
what it prints must be text, and must be a list of modules.
-/
import DecoderBench.Host.Files
import DecoderBench.Interface

namespace DecoderBench

/-- An extractor that is installed. -/
structure Extractor where
  program : String
  location : Path
  /-- The file that a project's directory must hold. -/
  manifest : String

namespace Extractor

/-- What helps against most failures of an extractor. -/
def advice : String := "Maybe try running elm-make first?"

/-- What a program complains of: its diagnostics, trimmed. -/
def complaint (o : Outcome) : String :=
  String.ofList (Text.trim (Utf8.decodeLossy o.diagnostics).toList)

/-- What a program printed, if it ended well. -/
def printed (program : String) (o : Outcome) : Except Failure String :=
  if (complaint o).isEmpty && o.status == some 0 then
    match Utf8.decode o.output with
    | .ok text => .ok text
    | .error f => .error (.during (program ++ " output") f.message)
  else .error (.extractorFailed program o.status (complaint o ++ "\n" ++ advice))

/-- The modules that a text describes. -/
def modulesOf (text : String) : Except Failure (List Module) :=
  match Interface.parse text with
  | some modules => .ok modules
  | none => .error .interfaceUnreadable

/-- The modules that a program described, if it ended well. -/
def modules (program : String) (o : Outcome) : Except Failure (List Module) := do
  modulesOf (← printed program o)

variable {m : Type → Type} [Monad m] [Host m]

/-- The manifest of a project. -/
def ensureManifest (project : Path) (manifest : String) : ExceptT Failure m Path := do
  let file := project.join ⟨manifest⟩
  if ← Host.isFile (m := m) file then return file
  else throw (Failure.manifestMissing manifest project.text)

/-- The extractor of the settings. -/
def find (s : Settings) : ExceptT Failure m Extractor := do
  let program := s.value .extractor
  match ← Host.findProgram (m := m) program with
  | some location => return { program, location, manifest := s.value .manifest }
  | none => throw (Failure.extractorMissing program)

/-- The extractor of the settings, for a project that has a manifest. A missing manifest is
reported even if the extractor is missing too. -/
def forProject (s : Settings) (project : Path) : ExceptT Failure m Extractor := do
  let _ ← ensureManifest project (s.value .manifest)
  find s

/-- The words that an extractor is started with. -/
def arguments (project : Path) : List String := ["--path", project.text]

/-- What an extractor prints for a project. -/
def output (e : Extractor) (project : Path) : ExceptT Failure m String := do
  match ← Host.start (m := m) e.location (arguments project) with
  | .ok o => printed e.program o
  | .error f => throw ((Failure.system f.message).context ("Failed to run " ++ e.program))

/-- What the extractor of the settings prints for a project, whether or not that has a
manifest. -/
def run (s : Settings) (project : Path) : ExceptT Failure m String := do
  output (← find s) project

/-- The modules of a project that has a manifest, from an extractor. -/
def extract (e : Extractor) (project : Path) : ExceptT Failure m (List Module) := do
  let _ ← ensureManifest project e.manifest
  let text ← output e project
  modulesOf text

end Extractor

variable {m : Type → Type} [Monad m] [Host m]

/-- The modules of a project, from a file with their interfaces if one is named. Without
one, the manifest is looked for twice: before the extractor is, and before it is
started. -/
def loadModules (project : Path) (interface : Option Path) (s : Settings) :
    ExceptT Failure m (List Module) := do
  match interface with
  | some file =>
    let text ← Host.loadText file
    Extractor.modulesOf text
  | none =>
    let e ← Extractor.forProject s project
    e.extract project

end DecoderBench
