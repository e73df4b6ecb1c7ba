/-
Which settings a run uses: those of a file that is named, or else those of the
nearest usable settings file at or above the project.
-/
import DecoderBench.Host.Files

namespace DecoderBench.Settings

variable {m : Type → Type} [Monad m] [Host m]

/-- How many directories are searched, the project's own included. -/
def searchDepth : Nat := 10

/-- The settings of a named file. -/
def load (file : Path) : ExceptT Failure m Settings := do
  match ← Host.readText (m := m) file with
  | .error reason =>
    throw (Failure.configuration ("Failed to read " ++ file.text ++ ": " ++ reason))
  | .ok text =>
    match Settings.parse text with
    | .error f => throw (Failure.ofSettings f)
    | .ok s => return s

/-- The settings of a file, if it can be read and they can be used. -/
def tryLoad (file : Path) : m (Option Settings) := do
  match ← Host.readText file with
  | .error _ => return .none
  | .ok text => return (Settings.parse text).toOption

/-- The first usable settings among files, or else none. -/
def firstUsable : List Path → m Settings
  | [] => return Settings.none
  | file :: files => do
    match ← tryLoad file with
    | some s => return s
    | .none => firstUsable files

/-- The settings files that a search from `start` looks at, the nearest first. -/
def candidates (start : Path) : List Path :=
  (start.ancestors searchDepth).map fun d => d.join ⟨fileName⟩

/-- The nearest usable settings at or above `start`. A file that gives none is passed
over and the search goes on above it. -/
def discover (start : Path) : m Settings := firstUsable (candidates start)

/-- Where a search for the settings of a project starts: at its path, as seen from the
working directory. -/
def searchStart (project : Path) : ExceptT Failure m Path := do
  if project.isAbsolute then return project
  else
    match ← Host.workingDirectory (m := m) with
    | .ok d => return d.join project
    | .error f => throw (Failure.system f.message)

/-- The settings of a run on a project. -/
def resolve (project : Path) (named : Option Path) : ExceptT Failure m Settings := do
  match named with
  | some file => load file
  | .none => discover (m := m) (← searchStart project)

end DecoderBench.Settings
