/-
Reading and writing the files of a run. A refusal comes back as a failure that
names the path.
-/
import DecoderBench.Failure
import DecoderBench.Host
import DecoderBench.Text.Utf8

namespace DecoderBench.Host

variable {m : Type → Type} [Monad m] [Host m]

/-- What is said of a file that is not text. -/
def notText : String := "stream did not contain valid UTF-8"

/-- The text of a file, or why there is none. -/
def readText (p : Path) : m (Except String String) := do
  match ← Host.read p with
  | .error f => return .error f.message
  | .ok bytes =>
    match Utf8.decode bytes with
    | .error _ => return .error notText
    | .ok text => return .ok text

/-- Whether a path leads to a file. -/
def isFile (p : Path) : m Bool := do
  return (← Host.kind? p) == some Kind.file

/-- Whether a path leads to a directory. -/
def isDirectory (p : Path) : m Bool := do
  return (← Host.kind? p) == some Kind.directory

/-- Whether a path leads to anything. -/
def isThere (p : Path) : m Bool := do
  return (← Host.kind? p).isSome

/-- Creates a directory that may be there by now. -/
def makeOrKeep (p : Path) : m (Except SystemFault Unit) := do
  match ← Host.makeDirectory p with
  | .error .alreadyThere =>
    if ← isDirectory p then return .ok () else return .error .alreadyThere
  | r => return r

/-- Creates a directory, where `p` is it and `above` are the paths that lead to it,
from the nearest up; those that are missing are created before. -/
def makeMissing (p : Path) : (above : List Path) → m (Except SystemFault Unit)
  | [] => do
    match ← makeOrKeep p with
    | .error .notFound => makeOrKeep p
    | r => return r
  | q :: above => do
    match ← makeOrKeep p with
    | .error .notFound =>
      match ← makeMissing q above with
      | .error f => return .error f
      | .ok () => makeOrKeep p
    | r => return r

/-- The paths above `p` that can be created: neither the root directory nor the
working directory. -/
def creatable (p : Path) : List Path :=
  ((Path.ancestors (p.text.length + 1) p).drop 1).takeWhile fun q =>
    !q.text.isEmpty && q.parent?.isSome

/-- Creates a directory and those that lead to it. -/
def makeDirectories (p : Path) : m (Except SystemFault Unit) := do
  if p.text.isEmpty || p.parent?.isNone then return .ok ()
  else makeMissing p (creatable p)

/-- The text of a file. -/
def loadText (p : Path) : ExceptT Failure m String := do
  match ← readText (m := m) p with
  | .ok text => return text
  | .error reason => throw ((Failure.system reason).context ("Failed to read " ++ p.text))

/-- Sees to it that a directory is there. -/
def ensureDirectory (p : Path) : ExceptT Failure m Unit := do
  if !(← isThere (m := m) p) then
    match ← makeDirectories (m := m) p with
    | .ok () => return ()
    | .error f => throw ((Failure.system f.message).context ("Failed to create " ++ p.text))

/-- Gives a file its text, after seeing to the directory that it is in. -/
def saveText (p : Path) (text : String) : ExceptT Failure m Unit := do
  match p.parent? with
  | some d => if d.text.isEmpty then pure () else ensureDirectory d
  | none => pure ()
  match ← Host.write (m := m) p (Utf8.encode text) with
  | .ok () => return ()
  | .error f => throw ((Failure.system f.message).context ("Failed to write " ++ p.text))

end DecoderBench.Host
