/-
A file system as a value: what is at each location, and a working directory.

A location is the list of names that leads to it from the root directory. One
file may be at several locations: it has a number, and whatever changes it
changes it at all of them. A file that is at none any more is kept for those who
have it open.
-/
import DecoderBench.Workspace.Mode

namespace DecoderBench

/-- A device. -/
inductive Device
  /-- It holds nothing, and takes everything. -/
  | null
  /-- It holds zeros without an end, and takes everything. -/
  | zeros
  /-- It holds zeros too, and takes nothing. -/
  | full
  deriving DecidableEq

/-- What is at a location. -/
inductive Entry
  | file (number : Nat) (content : List UInt8) (mode : Mode)
  | directory
  | device (d : Device)
  /-- A program of the machine, by its name. -/
  | program (name : String)
  /-- A name for whatever a path leads to. -/
  | link (path : String)
  deriving DecidableEq

/-- The number of a file. -/
def Entry.number? : Entry → Option Nat
  | .file n _ _ => some n
  | _ => none

/-- Whether two entries are one file. -/
def Entry.isSame (e f : Entry) : Bool := e.number?.isSome && e.number? == f.number?

/-- The names that lead to something from the root directory. -/
abbrev Location := List String

/-- A file system. The root directory is always there and is not listed. -/
structure Workspace where
  entries : List (Location × Entry)
  /-- The working directory. -/
  directory : Location
  /-- Files that have no name any more. -/
  nameless : List Entry := []
  deriving DecidableEq

namespace Workspace

/-- What is at a location. -/
def get? (w : Workspace) (l : Location) : Option Entry :=
  if l.isEmpty then some .directory else w.entries.lookup l

/-- Whether a directory is at a location. -/
def isDirectory (w : Workspace) (l : Location) : Bool := w.get? l == some .directory

/-- The file system after a file has become as `e` has it, wherever it is. -/
def renew (w : Workspace) (e : Entry) : Workspace :=
  { w with
    entries := w.entries.map fun x => if x.2.isSame e then (x.1, e) else x
    nameless := w.nameless.map fun x => if x.isSame e then e else x }

/-- The file system with `e` at the location `l`. A file becomes so wherever it is. -/
def put (w : Workspace) (l : Location) (e : Entry) : Workspace :=
  let w := w.renew e
  if (w.entries.lookup l).isSome then
    { w with entries := w.entries.map fun x => if x.1 == l then (l, e) else x }
  else { w with entries := w.entries ++ [(l, e)] }

/-- The file system without what is at a location and below. -/
def remove (w : Workspace) (l : Location) : Workspace :=
  { w with
    entries := w.entries.filter fun x => !l.isPrefixOf x.1
    nameless := w.nameless ++ (w.entries.filter fun x =>
      l.isPrefixOf x.1 && x.2.number?.isSome).map (·.2) }

/-- A number that no file has. -/
def fresh (w : Workspace) : Nat :=
  (w.entries.map (·.2) ++ w.nameless).foldl (fun n e => max n ((e.number?.getD 0) + 1)) 0

/-- The file of a number. -/
def file? (w : Workspace) (number : Nat) : Option Entry :=
  (w.entries.map (·.2) ++ w.nameless).find? fun e => e.number? == some number

/-- What the file of a number holds. -/
def content? (w : Workspace) (number : Nat) : Option (List UInt8) :=
  match w.file? number with
  | some (.file _ content _) => some content
  | _ => none

/-- The file system after the file of a number got its content. -/
def fill (w : Workspace) (number : Nat) (content : List UInt8) : Workspace :=
  match w.file? number with
  | some (.file n _ mode) => w.renew (.file n content mode)
  | _ => w

/-- The file system after what is at one location, and below it, went to another one, where
nothing else is then. -/
def move (w : Workspace) (l l' : Location) : Workspace :=
  let w := w.remove l'
  { w with
    entries := w.entries.map fun x =>
      if l.isPrefixOf x.1 then (l' ++ x.1.drop l.length, x.2) else x }

/-- The names of what a directory holds, in the order of code points. -/
def names (w : Workspace) (l : Location) : List String :=
  (w.entries.filterMap fun x =>
    if x.1.dropLast == l && !x.1.isEmpty then x.1.getLast? else none).mergeSort
      fun a b => decide (a ≤ b)

/-- How many names a file has. -/
def nameCount (w : Workspace) (e : Entry) : Nat := w.entries.countP fun x => x.2.isSame e

end Workspace
end DecoderBench
