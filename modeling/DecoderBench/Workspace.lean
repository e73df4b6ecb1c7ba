/-
What a run does with a file system: reading and writing files, creating
directories, and finding programs. The machine may refuse any of it besides; that is not
the file system's part.
-/
import DecoderBench.Workspace.Paths

namespace DecoderBench.Workspace

/-- The directories of every machine, and its devices. -/
def common : List (Location × Entry) :=
  [["bin"], ["boot"], ["dev"], ["etc"], ["home"], ["lib"], ["media"], ["mnt"], ["opt"], ["proc"],
    ["root"], ["run"], ["sbin"], ["srv"], ["sys"], ["tmp"], ["usr"], ["usr", "bin"],
    ["usr", "lib"], ["usr", "local"], ["usr", "local", "bin"], ["usr", "sbin"], ["usr", "share"],
    ["var"], ["var", "tmp"]].map (·, .directory) ++
  [(["dev", "null"], .device .null), (["dev", "zero"], .device .zeros),
    (["dev", "random"], .device .zeros), (["dev", "urandom"], .device .zeros),
    (["dev", "full"], .device .full)]

/-- The directories that hold the machine's programs. -/
def programDirectories : List Location := [["usr", "bin"], ["bin"]]

/-- A file system with an empty working directory, given its name and the names of the
machine's programs. -/
def empty (name : String) (programs : List String) : Workspace where
  entries := ([name], .directory) :: common ++
    programDirectories.flatMap fun d => programs.map fun p => (d ++ [p], .program p)
  directory := [name]

/-! ## Files and directories -/

/-- What kind of thing is at the end of a path. -/
def kind? (w : Workspace) (p : Path) : Option Kind :=
  (w.find? p).map fun
    | .file .. => .file
    | .program _ => .file
    | .directory => .directory
    | .device _ => .other
    | .link _ => .other

/-- How many zeros are read at most, where there is no end of them. -/
def mostZeros : Nat := 1048576

/-- What can be read from a device. -/
def Device.content : Device → List UInt8
  | .null => []
  | _ => List.replicate mostZeros 0

/-- The content of a file. -/
def read (w : Workspace) (p : Path) : Except SystemFault (List UInt8) := do
  match w.get? (← w.locate p) with
  | some (.file _ content _) => .ok content
  | some .directory => .error .isDirectory
  | some (.device d) => .ok (Device.content d)
  | some _ => .ok []
  | none => .error .notFound

/-- The file system after a file got its content, and `mode` if it was not there. -/
def writeNew (w : Workspace) (mode : Mode) (p : Path) (content : List UInt8) :
    Except SystemFault Workspace := do
  let l ← w.destination p
  match w.get? l with
  | some .directory => .error .isDirectory
  | some (.program _) => .error .accessDenied
  | some (.file n _ mode) => .ok (w.put l (.file n content mode))
  | some (.device .full) => if content.isEmpty then .ok w else .error .noSpace
  | some _ => .ok w
  | none => .ok (w.put l (.file w.fresh content mode))

/-- The file system after a file got its content. A file that was there keeps its mode. -/
def write (w : Workspace) (p : Path) (content : List UInt8) : Except SystemFault Workspace :=
  w.writeNew .usual p content

/-- The file system after a file was created with nothing in it, if there was none. -/
def touch (w : Workspace) (p : Path) : Workspace :=
  match w.destination p with
  | .ok l => if (w.get? l).isSome then w else w.put l (.file w.fresh [] .usual)
  | .error _ => w

/-- The file system after a directory was created. -/
def makeDirectory (w : Workspace) (p : Path) : Except SystemFault Workspace := do
  let l ← w.target p
  if (w.get? l).isSome then .error .alreadyThere else .ok (w.put l .directory)

/-- The file system after the file at a path got a mode. -/
def setMode (w : Workspace) (p : Path) (mode : Mode) : Except SystemFault Workspace := do
  let l ← w.locate p
  match w.get? l with
  | some (.file n content _) => .ok (w.put l (.file n content mode))
  | _ => .ok w

/-! ## Programs -/

/-- A location as a path. -/
def pathTo (l : Location) : Path := ⟨"/" ++ "/".intercalate l⟩

/-- The working directory as a path. -/
def directoryPath (w : Workspace) : Path := pathTo w.directory

/-- The path of a component. -/
def stepPath : Path.Component → Path
  | .root => ⟨"/"⟩
  | .here => ⟨"."⟩
  | .up => ⟨".."⟩
  | .named name => ⟨name⟩

/-- The path that leads to the same place as `p` from any directory. All but an absolute
one are put together from their components. -/
def absolute (w : Workspace) (p : Path) : Path :=
  if p.isAbsolute then p
  else (p.components.filter (· != .here)).foldl (fun q c => q.join (stepPath c)) w.directoryPath

/-- Whether a path leads to something that can be started. -/
def isRunnable (w : Workspace) (p : Path) : Bool :=
  match w.find? p with
  | some (.file _ _ mode) => mode.isRunnable
  | some (.program _) => true
  | _ => false

/-- Where the program of a name may be. A name of several components is a path; a name of
one component is looked for among the machine's programs. -/
def candidates (w : Workspace) (name : String) : List Path :=
  let p : Path := ⟨name⟩
  if 1 < p.components.length then [w.absolute p]
  else if name.isEmpty then []
  else programDirectories.map fun d => (pathTo d).join p

/-- Where the program of a name is, if it can be started. -/
def findProgram (w : Workspace) (name : String) : Option Path :=
  (w.candidates name).find? w.isRunnable

end DecoderBench.Workspace
