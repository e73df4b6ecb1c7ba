/-
A shell while it runs: its files, its variables, and where its output goes.
-/
import DecoderBench.Shell.ByteText
import DecoderBench.Shell.Pattern
import DecoderBench.Shell.Script
import DecoderBench.Workspace

namespace DecoderBench.Shell

/-- Something that is open, to be read from or written to. -/
inductive Stream
  /-- Output that is kept for someone else, in pieces, the last one first. -/
  | kept (pieces : List (List UInt8))
  /-- Input that is left. -/
  | given (bs : List UInt8)
  /-- The file of a number, with how far it has been read or written. A file that is open
  `atEnd` is written there, whatever else happens to it. -/
  | file (number offset : Nat) (reads writes atEnd : Bool)
  | directory
  /-- The device that holds nothing. -/
  | sink
  /-- The device that takes nothing. -/
  | full

/-- How a shell goes on. -/
inductive Flow
  | running
  | exiting
  /-- A command was refused, which ends the shell unless that is the command's own affair. -/
  | refused
  | returning
  /-- Some loops are to be left. -/
  | breaking (loops : Nat)
  /-- Some loops but one are to be left, and that one goes on. -/
  | continuing (loops : Nat)
  | killed
  deriving DecidableEq

/-- A shell while it runs. The first two streams are its output and its diagnostics, the
third is its input. -/
structure Process where
  workspace : Workspace
  /-- The path that led to the working directory, where it is not the directory's own. -/
  place : Option String := none
  streams : List Stream := [.kept [], .kept [], .given []]
  /-- The stream of each descriptor that is open. -/
  descriptors : List (Nat × Nat) := [(0, 2), (1, 0), (2, 1)]
  bindings : List (String × String) := []
  functions : List (String × Script) := []
  /-- What stands for the first words of commands. -/
  aliases : List (String × String) := []
  /-- What the shell calls itself in complaints. -/
  name : String := "sh"
  /-- The line of the command that runs. -/
  line : Nat := 1
  /-- The command of the shell that runs, or that runs others. -/
  command : Option String := none
  arguments : List String := []
  status : Nat := 0
  flow : Flow := .running
  /-- The letters of the options that are set. -/
  options : List Char := []
  /-- Whether the status of the current command is looked at by another. -/
  tested : Bool := false
  /-- The status of the last script whose output went into a word. -/
  inner : Option Nat := none
  /-- The scripts that run in the place of what signals do, by their names, and the one
  that runs when the shell exits. -/
  traps : List (String × String) := []
  /-- The signals that do nothing, since whoever started the shell does without them. -/
  ignored : List String := []
  /-- The scripts that signals asked for and that have not run yet. -/
  pending : List String := []
  /-- The variables that programs are to see. -/
  exported : List String := []
  /-- The variables that keep their values. -/
  fixed : List String := []
  /-- Whether a function is running. -/
  within : Bool := false
  /-- The values to give back to variables when a function ends. -/
  locals : List (String × Option String) := []
  /-- How many loops are running. -/
  loops : Nat := 0
  /-- Whether something was written where nothing can be. -/
  broken : Bool := false
  /-- The processes that run beside the shell, the last one first, by their numbers, with
  how they ended and the signal that ended them. -/
  jobs : List (Nat × Nat × Option String) := []
  /-- The next argument to be looked at for options, and how much of it has been. -/
  optionPlace : Nat × Option Nat := (1, none)
  /-- The permissions that new files do not get. -/
  mask : Mode := .ofNumber 18
  /-- The programs that were found, by their names. -/
  tracked : List (String × String) := []

namespace Process

/-- Whether an option is set. -/
def has (p : Process) (c : Char) : Bool := p.options.contains c

/-- Sets or clears an option. -/
def switch (p : Process) (on : Bool) (c : Char) : Process :=
  { p with options := (if on then [c] else []) ++ p.options.filter (· != c) }

/-! ## Streams -/

/-- The stream that a descriptor leads to, if it is open. -/
def stream? (p : Process) (d : Nat) : Option (Nat × Stream) :=
  (p.descriptors.lookup d).bind fun k => (p.streams[k]?).map fun s => (k, s)

/-- Lets a descriptor lead to a stream that is there already. -/
def share (p : Process) (d k : Nat) : Process :=
  { p with descriptors := (d, k) :: p.descriptors.filter (·.1 != d) }

/-- Closes a descriptor. -/
def close (p : Process) (d : Nat) : Process :=
  { p with descriptors := p.descriptors.filter (·.1 != d) }

/-- Lets a descriptor lead to a new stream. -/
def direct (p : Process) (d : Nat) (s : Stream) : Process :=
  { p with streams := p.streams ++ [s] }.share d p.streams.length

/-- Changes a stream. -/
def change (p : Process) (k : Nat) (s : Stream) : Process :=
  { p with streams := p.streams.set k s }

/-- Bytes with others in the place of those from an offset on. What is missing before
the offset is filled with zeros. -/
def overwrite (content : List UInt8) (offset : Nat) (bs : List UInt8) : List UInt8 :=
  content.take offset ++ List.replicate (offset - content.length) 0 ++ bs ++
    content.drop (offset + bs.length)

/-- Writes to a descriptor. Nothing can be written to one that is not open for that. -/
def emit (p : Process) (d : Nat) (bs : List UInt8) : Process :=
  let refused := if bs.isEmpty || d == 2 then p else { p with broken := true }
  match p.stream? d with
  | some (k, .kept pieces) => if bs.isEmpty then p else p.change k (.kept (bs :: pieces))
  | some (k, .file number offset reads true atEnd) =>
    match p.workspace.content? number with
    | some content =>
      let offset := if atEnd then content.length else offset
      { p with workspace := p.workspace.fill number (overwrite content offset bs) }.change
        k (.file number (offset + bs.length) reads true atEnd)
    | none => p
  | some (_, .sink) => p
  | _ => refused

/-- What can still be read from a descriptor. -/
def available (p : Process) (d : Nat) : Except SystemFault (List UInt8) :=
  match p.stream? d with
  | some (_, .given bs) => .ok bs
  | some (_, .file number offset true _ _) =>
    .ok (((p.workspace.content? number).getD []).drop offset)
  | some (_, .directory) => .error .isDirectory
  | some (_, .sink) => .ok []
  | _ => .error (.other "Bad file descriptor")

/-- Reads from a descriptor up to what is to be left. -/
def leave (p : Process) (d : Nat) (rest : List UInt8) : Process :=
  match p.stream? d with
  | some (k, .given _) => p.change k (.given rest)
  | some (k, .file number _ reads writes atEnd) =>
    match p.workspace.content? number with
    | some content =>
      p.change k (.file number (content.length - rest.length) reads writes atEnd)
    | none => p
  | _ => p

/-- What can be read from the input. -/
def input (p : Process) : List UInt8 := (p.available 0).toOption.getD []

/-- Reads all of the input. -/
def drained (p : Process) : Process := p.leave 0 []

/-- What was kept in a stream. -/
def collected (p : Process) (k : Nat) : List UInt8 :=
  match p.streams[k]? with
  | some (.kept pieces) => pieces.reverse.flatten
  | _ => []

/-- Writes a line of output. -/
def say (p : Process) (s : String) : Process := p.emit 1 (bytesOf (s ++ "\n"))

/-- Writes a line of diagnostics. -/
def complain (p : Process) (s : String) : Process := p.emit 2 (bytesOf (s ++ "\n"))

/-- Writes a line of diagnostics in the name of the shell and of its command. -/
def object (p : Process) (s : String) : Process :=
  p.complain (p.name ++ ": " ++ toString p.line ++ ": " ++ p.command.elim "" (· ++ ": ") ++ s)

/-- Ends a command with a status. -/
def ends (p : Process) (status : Nat) : Process := { p with status }

/-- Ends the shell with a status. -/
def exits (p : Process) (status : Nat) : Process := { p with status, flow := .exiting }

/-- Refuses a command, with a complaint. -/
def refuse (p : Process) (complaint : String) : Process :=
  { p.object complaint with status := 2, flow := .refused }

/-- The shell after a command that was refused for itself. -/
def pardoned (p : Process) : Process :=
  if p.flow == .refused then { p with flow := .running } else p

/-- Ends the shell after a bad status, where such a status is to end it. -/
def settled (p : Process) : Process :=
  if p.has 'e' && !p.tested && p.status != 0 && p.flow == .running then { p with flow := .exiting }
  else p

/-! ## Parameters -/

/-- The number of the shell as a process. The processes beside it have those that follow. -/
def number : Nat := 4711

/-- The number of the process that started the shell. -/
def parentNumber : Nat := 4710

/-- Whether a text is a name. -/
def isName (s : String) : Bool :=
  match s.toList with
  | c :: r => (c.isAlpha || c == '_') && r.all fun c => c.isAlphanum || c == '_'
  | [] => false

/-- Lets a variable have a value. -/
def bind (p : Process) (name value : String) : Process :=
  { p with bindings := (name, value) :: p.bindings.filter (·.1 != name) }

/-- The number that a text of digits is. -/
def count? (s : String) : Option Nat :=
  if s.isEmpty || !s.toList.all Char.isDigit then none else s.toNat?

/-- Lets what follows from the value of a variable be so. -/
def heed (p : Process) (name value : String) : Process :=
  let p := if p.has 'a' then { p with exported := name :: p.exported } else p
  if name == "PATH" then { p with tracked := [] }
  else if name == "OPTIND" then
    match count? value with
    | some n => { p with optionPlace := (max 1 n, none) }
    | none => p.refuse ("Illegal number: " ++ value)
  else p

/-- Gives a variable a value, unless it keeps the one that it has. -/
def assign (p : Process) (name value : String) : Process :=
  if p.fixed.contains name then p.refuse (name ++ ": is read only")
  else if !isName name then p.refuse (name ++ ": bad variable name")
  else (p.bind name value).heed name value

/-- Takes a variable its value. -/
def unassign (p : Process) (name : String) : Process :=
  { p with bindings := p.bindings.filter (·.1 != name) }

/-- Gives a variable the value that it had, if it had one; or the options, which count as a
variable with a dash for its name. -/
def restore (p : Process) (name : String) (value : Option String) : Process :=
  if name == "-" then { p with options := (value.getD "").toList }
  else
    match value with
    | some v => p.bind name v
    | none => p.unassign name

/-- The letters of options in the order in which they are shown. -/
def optionLetters : List Char :=
  ['p', 'u', 'b', 'a', 'C', 'E', 'V', 'v', 'x', 's', 'n', 'm', 'i', 'I', 'f', 'e']

/-- What stands between the arguments where they are one text. -/
def mark (p : Process) : String :=
  match p.bindings.lookup "IFS" with
  | some s => String.ofList (s.toList.take 1)
  | none => " "

/-- The value of a parameter. -/
def value? (p : Process) (name : String) : Option String :=
  match name with
  | "#" => some (toString p.arguments.length)
  | "?" => some (toString p.status)
  | "$" => some (toString number)
  | "!" => p.jobs.head?.map fun j => toString j.1
  | "-" => some (String.ofList (optionLetters.filter p.has))
  | "@" => if p.arguments.isEmpty then none else some (" ".intercalate p.arguments)
  | "*" => if p.arguments.isEmpty then none else some (p.mark.intercalate p.arguments)
  | name =>
    match count? name with
    | some 0 => some p.name
    | some (k + 1) => p.arguments[k]?
    | none => p.bindings.lookup name

/-- The characters at which values fall apart. -/
def separators (p : Process) : List Char :=
  ((p.bindings.lookup "IFS").getD " \t\n").toList

/-! ## Files -/

/-- The descriptor that a path names, if it is such a path. -/
def descriptorAt? (path : String) : Option Nat :=
  if path == "/dev/stdin" then some 0
  else if path == "/dev/stdout" then some 1
  else if path == "/dev/stderr" then some 2
  else if path.startsWith "/dev/fd/" then count? (path.drop 8).toString
  else none

/-- The number of the file that a descriptor leads to. -/
def openFile? (p : Process) (d : Nat) : Option Nat :=
  match p.stream? d with
  | some (_, .file number ..) => some number
  | _ => none

/-- What a file holds; the input is a file too. A file that is open under a path is read from
its start. -/
def contents (p : Process) (path : String) : Except SystemFault (List UInt8) :=
  if path == "-" then p.available 0
  else
    match descriptorAt? path with
    | some d =>
      match p.openFile? d with
      | some number => .ok ((p.workspace.content? number).getD [])
      | none => if (p.stream? d).isSome then p.available d else .error .notFound
    | none => p.workspace.read (pathOf path)

/-- The script in a file. A directory has an empty one. -/
def script (p : Process) (path : String) : Except SystemFault (List UInt8) :=
  match p.contents path with
  | .error .isDirectory => .ok []
  | r => r

/-- The path of the working directory, as the shell has it. -/
def here (p : Process) : String := p.place.getD (inward p.workspace.directoryPath.text)

/-- The mode of a file that is created. -/
def fileMode (p : Process) : Mode := (Mode.ofNumber 438).without p.mask

/-- The process after a file got its content. -/
def fill (p : Process) (path : String) (content : List UInt8) : Except SystemFault Process :=
  match descriptorAt? path with
  | some d =>
    match p.openFile? d with
    | some number => .ok { p with workspace := p.workspace.fill number content }
    | none => if (p.stream? d).isSome then .ok (p.emit d content) else .error .notFound
  | none =>
    (p.workspace.writeNew p.fileMode (pathOf path) content).map fun w => { p with workspace := w }

/-- What a file held, after it was read. -/
def after (p : Process) (path : String) : Process :=
  if path == "-" then p.drained
  else
    match descriptorAt? path with
    | some d => if (p.openFile? d).isSome then p else p.leave d []
    | none => p

/-- The directories where programs are looked for. -/
def searched (p : Process) : List String :=
  ((p.bindings.lookup "PATH").getD "").splitOn ":"

/-- The path of a name in a directory; the working directory needs none. -/
def pathIn (directory name : String) : String :=
  if directory.isEmpty then name else directory ++ "/" ++ name

/-- The path of a program by its name. -/
def programPath? (p : Process) (name : String) : Option String :=
  if name.contains '/' then some name
  else
    (p.searched.map (pathIn · name)).find? fun path => p.workspace.isRunnable (pathOf path)

/-- The files that a pattern's parts lead to from a location, as they are reached. -/
def reach (w : Workspace) : List (List Glyph) → String → Location → List String
  | [], path, _ => [path]
  | [] :: parts, path, l => reach w parts path l
  | part :: parts, path, l =>
    let mark := if parts.isEmpty then "" else "/"
    if isPattern part then
      let own := if part.head?.map (·.char) == some '.' then [".", ".."] else []
      (own ++ w.names l).flatMap fun name =>
        if matchesPattern part (inward name) &&
            (name.toList.head? != some '.' || part.head?.map (·.char) == some '.') then
          if parts.isEmpty then [path ++ inward name]
          else if name == "." then reach w parts (path ++ name ++ mark) l
          else if name == ".." then reach w parts (path ++ name ++ mark) l.dropLast
          else
            match w.enter? l name with
            | some l' =>
              if w.isDirectory l' then reach w parts (path ++ inward name ++ mark) l' else []
            | none => []
        else []
    else
      let name := textOf (unescaped part)
      if name == "." then reach w parts (path ++ name ++ mark) l
      else if name == ".." then reach w parts (path ++ name ++ mark) l.dropLast
      else if parts.isEmpty then
        if (w.get? (l ++ [outward name])).isSome then [path ++ name] else []
      else
        match w.enter? l (outward name) with
        | some l' => reach w parts (path ++ name ++ mark) l'
        | none => []

/-- The fields that a field stands for: the files that it matches as a pattern, or it
itself. -/
def filesOf (p : Process) (gs : List Glyph) : List String :=
  if isPattern gs && !p.has 'f' then
    let parts := gs.splitOnP fun g => g.char == '/'
    let found :=
      match parts with
      | [] :: parts => reach p.workspace parts "/" []
      | parts => reach p.workspace parts "" p.workspace.directory
    if found.isEmpty then [textOf gs] else found
  else [textOf gs]

end Process
end DecoderBench.Shell
