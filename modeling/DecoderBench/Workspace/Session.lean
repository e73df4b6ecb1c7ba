/-
Sessions on a machine whose programs a shell starts: how one is set up, what a run on it
comes to, and what is there afterwards.
-/
import DecoderBench.Failure
import DecoderBench.Session
import DecoderBench.Shell.Run

namespace DecoderBench

namespace Workspace

/-- What is below the directory at a path of so many names at most: the paths that lead
there, each after `before`, and a slash after those of directories. A link to a directory
counts as one. -/
def listBelow (w : Workspace) : Nat → (before : String) → List String
  | 0, _ => []
  | n + 1, before =>
    match w.locate ⟨if before.isEmpty then "." else before⟩ with
    | .error _ => []
    | .ok l =>
      (w.names l).flatMap fun name =>
        let path := before ++ name
        if w.kind? ⟨path⟩ == some .directory then (path ++ "/") :: w.listBelow n (path ++ "/")
        else [path]

/-- Everything below the working directory, in the order of code points. -/
def list (w : Workspace) : List String :=
  (w.listBelow pathLimit "").mergeSort fun a b => decide (a ≤ b)

end Workspace

namespace Session

/-- The file system of a machine, with an empty working directory of the given name. -/
def machine (name : String) : Workspace := .empty name Shell.programs

/-- Puts a runnable script where a path says. -/
def install (p : Path) (body : String) : M (Except SystemFault Unit) :=
  change fun w => do (← w.write p (Utf8.encode (Shell.scriptText body))).setMode p .runnable

/-- What a run comes to on a machine that refuses no request: its result, what it printed,
and the file system after it. -/
def perform {α : Type} (run : ExceptT Failure M α) (w : Workspace) :
    Except Failure α × String × Workspace :=
  let r := run.run { workspace := w, programs := Shell.start }
  (r.1, r.2.printed, r.2.workspace)

end Session
end DecoderBench
