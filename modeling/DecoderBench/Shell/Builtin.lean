/-
What the commands of the shell have in common: how they read their options, how
they refuse them, and which of them there are.
-/
import DecoderBench.Shell.Tool

namespace DecoderBench.Shell.Builtin

/-! ## Names -/

/-- The commands that are not special. -/
def ordinary : List String :=
  ["[", "alias", "bg", "cd", "chdir", "command", "echo", "false", "fg", "getopts", "hash", "jobs",
    "kill", "printf", "pwd", "read", "test", "true", "type", "ulimit", "umask", "unalias", "wait"]

/-! ## Arguments -/

/-- The options in one argument after its dash, and the option that still lacks its value. -/
def letters (flags valued : String) : List Char → Except String (Tool.Options × Option Char)
  | [] => .ok ([], none)
  | c :: r =>
    if flags.contains c then (letters flags valued r).map fun s => ((c, "") :: s.1, s.2)
    else if valued.contains c then
      .ok (if r.isEmpty then ([], some c) else ([(c, String.ofList r)], none))
    else .error ("Illegal option -" ++ c.toString)

/-- The options at the start of arguments, and the arguments that follow them. -/
def sortOut (flags valued : String) : List String → Except String (Tool.Options × List String)
  | [] => .ok ([], [])
  | arg :: rest =>
    match arg.toList with
    | ['-', '-'] => .ok ([], rest)
    | '-' :: c :: cs => do
      let (options, lacking) ← letters flags valued (c :: cs)
      match lacking, rest with
      | none, rest =>
        let (more, operands) ← sortOut flags valued rest
        return (options ++ more, operands)
      | some c, value :: rest =>
        let (more, operands) ← sortOut flags valued rest
        return (options ++ (c, value) :: more, operands)
      | some c, [] => throw ("No arg for -" ++ c.toString ++ " option")
    | _ => .ok ([], arg :: rest)

/-- A command with options. -/
def withOptions (flags valued : String) (run : Tool.Options → List String → Process → Process) :
    Tool :=
  fun _ args p =>
    match sortOut flags valued args with
    | .ok (options, operands) => run options operands p
    | .error e => p.refuse e

/-- Refuses an argument that is no number. -/
def illegal (p : Process) (s : String) : Process := p.refuse ("Illegal number: " ++ s)

/-- The greatest number in an argument. -/
def greatest : Nat := 2147483647

/-- The number that an argument is, after blanks and a sign. -/
def number? (s : String) : Option Nat :=
  let digits := s.toList.dropWhile fun c => c == ' ' || ('\t' ≤ c && c ≤ '\r')
  let digits := if digits.head? == some '+' then digits.tail else digits
  (Process.count? (String.ofList digits)).bind fun n => if n ≤ greatest then some n else none

/-- Does something to the shell for each argument, as long as none is refused. -/
def forEach (step : Process → String → Process) (args : List String) (p : Process) : Process :=
  args.foldl (fun p arg => if p.flow == .running then step p arg else p) (p.ends 0)

/-! ## Writing values -/

/-- The characters of a text in quotes, such that the shell reads them as they are. Single
quotes stand in double ones. The number bounds the pieces. -/
def quotedPieces : Nat → List Char → List Char
  | 0, _ => []
  | n + 1, cs =>
    let plain := cs.takeWhile (· != '\x27')
    let quotes := (cs.drop plain.length).takeWhile (· == '\x27')
    let rest := cs.drop (plain.length + quotes.length)
    '\x27' :: plain ++ '\x27' ::
      (if quotes.isEmpty then []
        else '"' :: quotes ++ '"' :: (if rest.isEmpty then [] else quotedPieces n rest))

/-- A text in quotes, such that the shell reads it as it is. -/
def quoted (s : String) : String := String.ofList (quotedPieces (s.length + 1) s.toList)

/-- Texts in order. -/
def ordered (ss : List String) : List String := ss.mergeSort fun a b => decide (a ≤ b)

/-- In which of some rows a name is listed. -/
def row (rows : Nat) (name : String) : Nat :=
  let start := ((name.toList.head?.map Char.toNat).getD 0) * 16
  name.toList.foldl (fun n c => n + c.toNat) start % rows

/-- Pairs in the order in which the rows of their names come. -/
def inRows (rows : Nat) (xs : List (String × String)) : List (String × String) :=
  xs.mergeSort fun a b => decide (row rows a.1 ≤ row rows b.1)

/-! ## What commands are -/

/-- What a command is. -/
inductive Nature
  | keyword
  | abbreviation (text : String)
  | function
  | special
  | ordinary
  /-- A program at a path, which may be known by an earlier search. -/
  | program (tracked : Bool) (path : String)

/-- What a command is, by its name. -/
def nature? (p : Process) (name : String) : Option Nature :=
  if keywords.contains name then some .keyword
  else
    match p.aliases.lookup name with
    | some text => some (.abbreviation text)
    | none =>
      if (p.functions.lookup name).isSome then some .function
      else if specialCommands.contains name then some .special
      else if ordinary.contains name then some .ordinary
      else
        match p.tracked.lookup name with
        | some path => some (.program true path)
        | none =>
          (p.programPath? name).bind fun path =>
            if p.workspace.isRunnable (pathOf path) then some (.program false path) else none

/-- Says in words what a command is. -/
def Nature.describe : Nature → String
  | .keyword => " is a shell keyword"
  | .abbreviation text => " is an alias for " ++ text
  | .function => " is a shell function"
  | .special => " is a special shell builtin"
  | .ordinary => " is a shell builtin"
  | .program tracked path => " is" ++ (if tracked then " a tracked alias for " else " ") ++ path

/-- The shell after it looked for a program, which it knows from then on. -/
def noticed (p : Process) (name : String) : Process :=
  match nature? p name with
  | some (.program false path) =>
    if name.contains '/' then p else { p with tracked := p.tracked ++ [(name, path)] }
  | _ => p

/-- Tells what a command is. -/
def tellNature (p : Process) (name : String) : Process :=
  let q := noticed p name
  match nature? p name with
  | some nature => q.say (name ++ nature.describe)
  | none => (q.say (name ++ ": not found")).ends 127

/-- Tells how a command is to be called. -/
def tellName (p : Process) (name : String) : Process :=
  let q := noticed p name
  match nature? p name with
  | some (.abbreviation text) => q.say ("alias " ++ name ++ "=" ++ quoted text)
  | some (.program _ path) => q.say path
  | some _ => q.say name
  | none => q.ends 127

/-- Tells what commands are. -/
def type : Tool := fun _ args p =>
  args.foldl tellNature (p.ends 0)

/-- Finds programs, or tells which are known. -/
def hash : Tool := withOptions "r" "" fun options args p =>
  if options.given 'r' then { p with tracked := [], status := 0 }
  else if args.isEmpty then
    ((inRows 31 p.tracked).foldl (fun p x => p.say x.2) p).ends 0
  else
    args.foldl (fun p s =>
      if (nature? p s).isSome then noticed p s
      else (p.object (s ++ ": not found")).ends 1) (p.ends 0)

end DecoderBench.Shell.Builtin
