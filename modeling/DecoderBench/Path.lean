/-
Paths as they are written, and what they mean.

A path is text with `/` between its parts. Its components leave out what has no
meaning: empty parts, and every `.` but one at the very start. Joining and going
up work on the text and keep the rest of it as it is written.
-/
import DecoderBench.Text.Tokens

namespace DecoderBench

/-- A path as it is written. -/
structure Path where
  text : String
  deriving DecidableEq, Inhabited

namespace Path

/-- What a path starts from. -/
inductive Start
  /-- The root directory: the text starts with `/`. -/
  | root
  /-- The working directory, by name: the first part is `.`. -/
  | here
  /-- The working directory, not named. -/
  | bare
  deriving DecidableEq

/-- The text of a start. -/
def Start.text : Start → List Char
  | .root => ['/']
  | .here => ['.']
  | .bare => []

/-- The start of a path and the rest of its text. -/
def split (p : Path) : Start × List Char :=
  match p.text.toList with
  | '/' :: r => (.root, r)
  | ['.'] => (.here, [])
  | '.' :: '/' :: r => (.here, '/' :: r)
  | r => (.bare, r)

/-- The parts between the slashes of a text. -/
def parts (t : List Char) : List (List Char) := t.splitOn '/'

/-- Whether a part has no meaning where it is not the start of a path. -/
def isVoid (part : List Char) : Bool := part == [] || part == ['.']

/-- The text whose parts are given. -/
def unparts (ps : List (List Char)) : List Char := ['/'].intercalate ps

/-- Whether the path starts from the root directory. -/
def isAbsolute (p : Path) : Bool := p.split.1 == .root

/-- A step of a path. -/
inductive Component
  | root
  | here
  | up
  | named (name : String)
  deriving DecidableEq

/-- The component of a part that has a meaning. -/
def componentOf (part : List Char) : Component :=
  if part == ['.', '.'] then .up else .named (String.ofList part)

/-- The component of a start. -/
def Start.components : Start → List Component
  | .root => [.root]
  | .here => [.here]
  | .bare => []

/-- The steps of a path. -/
def components (p : Path) : List Component :=
  p.split.1.components ++ ((parts p.split.2).filter fun part => !isVoid part).map componentOf

/-- `p` and then `q` from there. An absolute `q` stands for itself. -/
def join (p q : Path) : Path :=
  if q.isAbsolute then q
  else
    match p.text.toList.getLast? with
    | none => q
    | some c => if c == '/' then ⟨p.text ++ q.text⟩ else ⟨p.text ++ "/" ++ q.text⟩

/-- The path without its last component. What comes before that component is kept as
it is written, up to its own last component. -/
def parent? (p : Path) : Option Path :=
  match Text.dropTrailing isVoid (parts p.split.2) with
  | [] => if p.split.1 == .here then some ⟨""⟩ else none
  | ps =>
    some ⟨String.ofList (p.split.1.text ++ unparts (Text.dropTrailing isVoid ps.dropLast))⟩

/-- The first `n` of the path itself, its parent, the parent's parent and so on. -/
def ancestors : Nat → Path → List Path
  | 0, _ => []
  | n + 1, p =>
    p :: match p.parent? with
      | some q => ancestors n q
      | none => []

/-- Steps with one step more, where a step up takes back the step before it. There is
nothing above the root directory. -/
def advance (done : List Component) (c : Component) : List Component :=
  match c with
  | .here => done
  | .up =>
    match done.getLast? with
    | some .root => done
    | some (.named _) => done.dropLast
    | _ => done ++ [.up]
  | c => done ++ [c]

/-- What a path leads to in a file system without links: its steps after every step up
was taken back with the step before it. -/
def resolve (p : Path) : List Component := p.components.foldl advance []

end Path
end DecoderBench
