/-
The commands of the shell about its working directory.
-/
import DecoderBench.Shell.Builtin

namespace DecoderBench.Shell.Builtin

/-- A path with its steps up taken back, as to its text alone. Two slashes at the start stay. -/
def straightened (s : String) : String :=
  let step (above : List String) (part : String) : List String :=
    if part.isEmpty || part == "." then above
    else if part == ".." then above.dropLast
    else above ++ [part]
  let start := if s.startsWith "//" && !s.startsWith "///" then "//" else "/"
  start ++ "/".intercalate ((s.splitOn "/").foldl step [])

/-- The shell in the directory at a path, if there is one. It is known by that path from then
on, or by its own one. -/
def moved? (owned : Bool) (p : Process) (path : String) : Option Process :=
  let whole := if path.startsWith "/" then path
    else if p.here.endsWith "/" then p.here ++ path
    else p.here ++ "/" ++ path
  let goal := if owned then path else straightened whole
  match p.workspace.locate (pathOf goal) with
  | .error _ => none
  | .ok l =>
    if !p.workspace.isDirectory l then none
    else
      let q := { p with
        workspace := { p.workspace with directory := l }
        place := if owned then none else some goal }
      let q := (q.bind "OLDPWD" p.here).bind "PWD" q.here
      some { q with exported := ["OLDPWD", "PWD"] ++ q.exported }

/-- Whether options ask for the directory's own path. -/
def asksForOwn (options : Tool.Options) : Bool :=
  (options.getLast?.map (·.1)) == some 'P'

/-- Whether a path starts from a directory that it names itself. -/
def isAnchored (s : String) : Bool :=
  s.startsWith "/" || s == "." || s == ".." || s.startsWith "./" || s.startsWith "../"

/-- Changes the working directory. The directory is looked for in those that a variable
lists, and is told if it is in one of them. -/
def cd : Tool := withOptions "LP" "" fun options args p =>
  let moved? := moved? (asksForOwn options)
  let back := args.head? == some "-"
  let goal :=
    match args with
    | [] => (p.bindings.lookup "HOME").getD ""
    | s :: _ => if back then (p.bindings.lookup "OLDPWD").getD "" else s
  let tell (told : Bool) (q : Process) : Process := (if told then q.say q.here else q).ends 0
  let goal' := if goal.isEmpty then "." else goal
  let listed :=
    if isAnchored goal' then [] else ((p.bindings.lookup "CDPATH").getD "").splitOn ":"
  let among := listed.map fun directory => (directory, Process.pathIn directory goal')
  let isThere (path : String) : Bool :=
    p.workspace.find? (pathOf path) == some .directory
  match among.find? fun x => isThere x.2 with
  | some (directory, path) =>
    (moved? p path).elim (p.refuse ("can't cd to " ++ goal)) (tell (back || !directory.isEmpty))
  | none => (moved? p goal').elim (p.refuse ("can't cd to " ++ goal)) (tell back)

/-- Prints the working directory. -/
def pwd : Tool := withOptions "LP" "" fun options _ p =>
  (p.say (if asksForOwn options then inward p.workspace.directoryPath.text else p.here)).ends 0

end DecoderBench.Shell.Builtin
