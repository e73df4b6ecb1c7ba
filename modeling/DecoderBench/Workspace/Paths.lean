/-
Where paths lead in a file system.

A path is followed part by part, and each part must start from a directory, so
that `a/../b` needs an `a`. A link stands for the parts of its own path, from the
directory that it is in; only so many links are followed for one path.
-/
import DecoderBench.Workspace.Entries

namespace DecoderBench.Workspace

/-- How many bytes a name may have. -/
def nameLimit : Nat := 255

/-- How many bytes a path may have. -/
def pathLimit : Nat := 4095

/-- How many links are followed for one path. -/
def linkLimit : Nat := 40

/-- What is done about the last name of a path. -/
inductive Ending
  /-- Something must be there, and a link is followed. -/
  | followed
  /-- It is not looked at: the name itself is meant. -/
  | kept
  /-- Nothing need be there, but a link is followed. No slash may come after it. -/
  | created
  deriving DecidableEq

/-- The location that parts of a path lead to from `l`, where `onward` goes on with the parts
that come from a link. -/
def advance (w : Workspace) (ending : Ending)
    (onward : Location → List (List Char) → Except SystemFault Location) :
    Location → List (List Char) → Except SystemFault Location
  | l, [] => .ok l
  | l, part :: ps =>
    let name := String.ofList part
    let last := ps.all (· == [])
    if !w.isDirectory l then .error .notDirectory
    else if Path.isVoid part then w.advance ending onward l ps
    else if part == ['.', '.'] then w.advance ending onward l.dropLast ps
    else if nameLimit < name.utf8ByteSize then .error .nameTooLong
    else if last && ending == .kept then .ok (l ++ [name])
    else if last && ending == .created && !ps.isEmpty then .error .isDirectory
    else
      match w.get? (l ++ [name]) with
      | none => if last && ending == .created then .ok (l ++ [name]) else .error .notFound
      | some (.link path) =>
        onward (if (⟨path⟩ : Path).isAbsolute then [] else l) (Path.parts path.toList ++ ps)
      | some _ => w.advance ending onward (l ++ [name]) ps

/-- The location that parts of a path lead to from a location, through so many links. -/
def walk (w : Workspace) (ending : Ending) :
    (links : Nat) → Location → List (List Char) → Except SystemFault Location
  | 0 => w.advance ending fun _ _ => .error .tooManyLinks
  | links + 1 => w.advance ending (w.walk ending links)

/-- Where a path starts from. -/
def origin (w : Workspace) (p : Path) : Location := if p.isAbsolute then [] else w.directory

/-- Refuses a path that leads nowhere, whatever files there are. -/
def usable (p : Path) : Except SystemFault Unit :=
  if p.text.toList.contains '\x00' then .error .nulInPath
  else if p.text.isEmpty then .error .notFound
  else if pathLimit < p.text.utf8ByteSize then .error .nameTooLong
  else .ok ()

/-- Where a path leads, given what is done about its last name. -/
def follow (w : Workspace) (ending : Ending) (p : Path) : Except SystemFault Location := do
  usable p
  w.walk ending linkLimit (w.origin p) (Path.parts p.text.toList)

/-- The location that a path leads to, where something must be. -/
def locate (w : Workspace) (p : Path) : Except SystemFault Location := w.follow .followed p

/-- The location that a path names, where nothing need be: only what comes before its
last part must be there. -/
def target (w : Workspace) (p : Path) : Except SystemFault Location := w.follow .kept p

/-- The location of the file that is written where a path says. -/
def destination (w : Workspace) (p : Path) : Except SystemFault Location := w.follow .created p

/-- The location of what a path names, which may be a link. -/
def spot (w : Workspace) (p : Path) : Except SystemFault Location :=
  if p.text.toList.getLast? == some '/' then w.locate p
  else do
    let l ← w.target p
    if (w.get? l).isSome then return l else throw .notFound

/-- Where a name in the directory at `l` leads. -/
def enter? (w : Workspace) (l : Location) (name : String) : Option Location :=
  (w.walk .followed linkLimit l [name.toList]).toOption

/-- What a path leads to. -/
def find? (w : Workspace) (p : Path) : Option Entry :=
  match w.locate p with
  | .ok l => w.get? l
  | .error _ => none

/-- Whether two locations are of one file or one directory. -/
def areSame (w : Workspace) (l l' : Location) : Bool :=
  l == l' || ((w.get? l).any fun e => (w.get? l').any e.isSame)

/-- Whether two paths lead to one file or one directory. -/
def isSame (w : Workspace) (p q : Path) : Bool :=
  match w.locate p, w.locate q with
  | .ok l, .ok l' => w.areSame l l'
  | _, _ => false

/-- What a path names, which may be a link. -/
def named? (w : Workspace) (p : Path) : Option Entry :=
  match w.spot p with
  | .ok l => w.get? l
  | .error _ => none

end DecoderBench.Workspace
