/-
What programs have in common: how they read their arguments, and how they complain.

A tool is a function of the name that it was called by, its arguments, and the shell
that it runs in, of which it changes the files, the streams and the status.
-/
import DecoderBench.Shell.Process

namespace DecoderBench.Shell

/-- A program, given its name and its arguments. -/
abbrev Tool := String → List String → Process → Process

namespace Tool

/-! ## Arguments -/

/-- The options of a tool, by their letters. -/
structure Grammar where
  /-- Options that take no value. -/
  flags : String := ""
  /-- Options that take one. -/
  valued : String := ""
  /-- Options that take what follows them in the same argument. -/
  attached : String := ""
  /-- The options that have long names. One that has no other name goes by a letter that no
  argument can hold, since each character of these stands for a byte. -/
  long : List (String × Char) := []
  /-- The option of which digits in the place of a letter are the value, and the signs that may
  stand among them. -/
  digits : Option (Char × String) := none
  /-- Whether the first operand ends the options. -/
  operandsLast : Bool := false
  /-- The status of the tool if its arguments are wrong. -/
  misused : Nat := 1
  /-- What is said after the name of the tool about its use if its arguments are wrong. -/
  usage? : Option String := none

/-- Options with their values, in the order in which they are given. -/
abbrev Options := List (Char × String)

/-- Whether an option is given. -/
def Options.given (options : Options) (c : Char) : Bool := (options.lookup c).isSome

/-- The value of an option that is given last. -/
def Options.last? (options : Options) (c : Char) : Option String := options.reverse.lookup c

/-- All values of an option. -/
def Options.all (options : Options) (c : Char) : List String :=
  (options.filter fun o => o.1 == c).map (·.2)

namespace Grammar

/-- Whether a character is part of the value of an option without a letter, of which others
come before it if `going` is set. -/
def isDigit (g : Grammar) (going : Bool) (c : Char) : Bool :=
  match g.digits with
  | some (_, signs) => c.isDigit || (going && signs.contains c)
  | none => false

/-- The option that digits are the value of. -/
def counted (g : Grammar) (ds : List Char) : Options :=
  match g.digits with
  | some (c, _) => if ds.isEmpty then [] else [(c, String.ofList ds)]
  | none => []

/-- The options of one argument after its dash, and the option that still lacks its
value, given the digits that come before it. -/
def cluster (g : Grammar) : (digits : List Char) → List Char →
    Except String (Options × Option Char)
  | ds, [] => .ok (g.counted ds, none)
  | ds, c :: r =>
    let own := g.counted ds
    if g.isDigit (!ds.isEmpty) c then g.cluster (ds ++ [c]) r
    else if g.flags.contains c then (g.cluster [] r).map fun s => (own ++ (c, "") :: s.1, s.2)
    else if g.attached.contains c then .ok (own ++ [(c, String.ofList r)], none)
    else if g.valued.contains c then
      .ok (if r.isEmpty then (own, some c) else (own ++ [(c, String.ofList r)], none))
    else .error ("invalid option -- '" ++ c.toString ++ "'")

/-- The option with a long name, or with a name that starts in this way and no other does. -/
def named (g : Grammar) (name : String) : Except String (String × Char) :=
  match g.long.find? (·.1 == name), g.long.filter fun x => x.1.startsWith name with
  | some x, _ => .ok x
  | none, [] => .error ("unrecognized option '--" ++ name ++ "'")
  | none, [x] => .ok x
  | none, x :: xs =>
    if xs.all (·.2 == x.2) then .ok x
    else
      .error ("option '--" ++ name ++ "' is ambiguous; possibilities: " ++
        " ".intercalate ((x :: xs).map fun y => "'--" ++ y.1 ++ "'"))

/-- The option that an argument with a long name gives, and whether it still lacks its value. -/
def spelled (g : Grammar) (arg : String) : Except String ((Char × String) × Bool) := do
  let cs := arg.toList.drop 2
  let (name, c) ← (g.named (String.ofList (cs.takeWhile (· != '='))) :
    Except String (String × Char)).mapError fun e =>
      if e.startsWith "unrecognized" then "unrecognized option '" ++ arg ++ "'" else e
  match cs.dropWhile (· != '=') with
  | _ :: value =>
    if g.flags.contains c then throw ("option '--" ++ name ++ "' doesn't allow an argument")
    else return ((c, String.ofList value), false)
  | [] => return ((c, ""), g.valued.contains c)

/-- The options, each with its value, and the operands among arguments. -/
def sortOut (g : Grammar) : List String → Except String (Options × List String)
  | [] => .ok ([], [])
  | arg :: rest =>
    match arg.toList with
    | ['-', '-'] => .ok ([], rest)
    | '-' :: '-' :: _ => do
      let ((c, value), lacking) ← g.spelled arg
      match lacking, rest with
      | false, rest =>
        let (more, operands) ← g.sortOut rest
        return ((c, value) :: more, operands)
      | true, value :: rest =>
        let (more, operands) ← g.sortOut rest
        return ((c, value) :: more, operands)
      | true, [] => throw ("option '" ++ arg ++ "' requires an argument")
    | '-' :: c :: cs => do
      let (options, pending) ← g.cluster [] (c :: cs)
      match pending, rest with
      | none, rest =>
        let (more, operands) ← g.sortOut rest
        return (options ++ more, operands)
      | some letter, value :: rest =>
        let (more, operands) ← g.sortOut rest
        return (options ++ (letter, value) :: more, operands)
      | some letter, [] => throw ("option requires an argument -- '" ++ letter.toString ++ "'")
    | _ =>
      if g.operandsLast then .ok ([], arg :: rest)
      else do
        let (options, operands) ← g.sortOut rest
        return (options, arg :: operands)

end Grammar

/-- Ends a step badly, with a complaint. -/
def fails (p : Process) (complaint : String) (status : Nat) : Process :=
  (p.complain complaint).ends status

/-- Says how a tool is used, and where to read more on that, and ends badly. -/
def Grammar.hint (g : Grammar) (name : String) (p : Process) : Process :=
  let p := g.usage?.elim p fun s => p.complain ("Usage: " ++ name ++ " " ++ s)
  fails p ("Try '" ++ name ++ " --help' for more information.") g.misused

/-- A tool with options. -/
def withOptions (g : Grammar) (run : String → Options → List String → Process → Process) : Tool :=
  fun name args p =>
    match g.sortOut args with
    | .ok (options, operands) => run name options operands p
    | .error e => g.hint name (p.complain (name ++ ": " ++ e))

/-! ## Complaints -/

/-- The letter of a control character after a backslash. -/
def controlText (c : Char) : String :=
  match c with
  | '\n' => "\\n"
  | '\t' => "\\t"
  | '\r' => "\\r"
  | c =>
    let digits := String.ofList (Nat.toDigits 8 c.toNat)
    "\\" ++ String.ofList (List.replicate (3 - digits.length) '0') ++ digits

/-- Whether a character is no plain text, as to the quotes around names. -/
def isControl (c : Char) : Bool := c.toNat < 32 || 127 ≤ c.toNat

/-- The inside of single quotes around a name, given whether quotes for control characters
are open. Every quote in it stands outside of them. -/
def insideQuotes : Bool → List Char → String
  | false, [] => "'"
  | true, [] => "'"
  | false, c :: r =>
    if isControl c then "'$'" ++ controlText c ++ insideQuotes true r
    else if c == '\x27' then "'\\''" ++ insideQuotes false r
    else c.toString ++ insideQuotes false r
  | true, c :: r =>
    if isControl c then controlText c ++ insideQuotes true r
    else if c == '\x27' then "'\\''" ++ insideQuotes false r
    else "''" ++ c.toString ++ insideQuotes false r

/-- The text in the quotes that complaints put around names. A name with single quotes
stands in double ones, if nothing in it would have a meaning there. -/
def quoted (s : String) : String :=
  let cs := s.toList
  let telling := ['"', '$', '\x60', '\\', '!']
  if cs.contains '\x27' && !cs.any (fun c => isControl c || telling.contains c) then
    "\"" ++ s ++ "\""
  else "'" ++ insideQuotes false cs

/-- A character inside of the quotes around an argument. -/
def citedText (c : Char) : String :=
  match c with
  | '\x27' => "\\'"
  | '\\' => "\\\\"
  | '\x07' => "\\a"
  | '\x08' => "\\b"
  | '\x0b' => "\\v"
  | '\x0c' => "\\f"
  | c => if isControl c then controlText c else c.toString

/-- The text in the quotes that complaints put around arguments that are no names. -/
def cited (s : String) : String := "'" ++ String.join (s.toList.map citedText) ++ "'"

/-- The characters that have a meaning to a shell. -/
def meaningful : List Char :=
  [' ', '!', '"', '$', '&', '\x27', '(', ')', '*', ';', '<', '=', '>', '?', '[', '\\', '^', '\x60',
    '|']

/-- A name in complaints, in quotes only if it has a meaning to a shell as it is. -/
def shown (s : String) : String :=
  if s.isEmpty || s.startsWith "#" || s.startsWith "~" || s == "\x7b" || s == "\x7d" ||
      s.toList.any (fun c => isControl c || meaningful.contains c) then
    quoted s
  else s

/-- Does something for each operand, from a good status on. -/
def forEach (step : Process → String → Process) (operands : List String) (p : Process) :
    Process :=
  operands.foldl step (p.ends 0)

/-- Gives a file its content, or ends badly with the complaint about the fault. -/
def deliver (p : Process) (path : String) (content : List UInt8)
    (complaint : SystemFault → String) : Process :=
  match p.fill path content with
  | .ok q => q
  | .error e => fails p (complaint e) 1

/-- Refuses wrong arguments. -/
def misuse (name complaint : String) (status : Nat) (p : Process) : Process :=
  Grammar.hint { misused := status } name (p.complain (name ++ ": " ++ complaint))

/-- A complaint that names the tool, the file, and the fault. -/
def plainly (name file : String) (e : SystemFault) : String :=
  name ++ ": " ++ shown file ++ ": " ++ e.words

/-- A complaint about a file that does not open or cannot be read. -/
def opening (name file : String) (e : SystemFault) : String :=
  if e == .isDirectory then name ++ ": error reading " ++ quoted file ++ ": " ++ e.words
  else name ++ ": cannot open " ++ quoted file ++ " for reading: " ++ e.words

end Tool
end DecoderBench.Shell
