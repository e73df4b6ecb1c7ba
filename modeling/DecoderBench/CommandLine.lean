/-
Command lines: the words after the program's name, read as a command.

Words are read from the left, and the first problem is the one that counts. An
option's own word may end in `=` and its value; otherwise the value is the next
word, unless that one starts with a dash. A value in a word of its own is looked
at, and so is whether its option came before, only when the next option comes or
the words end.
-/
import DecoderBench.Command

namespace DecoderBench.CommandLine

/-- Why words give no command. -/
inductive Problem
  /-- Help was asked for. -/
  | help
  /-- The version was asked for. -/
  | version
  /-- There are no words. -/
  | noCommand
  /-- A word stands for no command where one belongs. -/
  | unknownCommand
  /-- A word stands for nothing that the command knows. -/
  | unknownArgument
  /-- An option has no value, or one that it does not take. -/
  | invalidValue
  /-- A flag has a value. -/
  | unexpectedValue
  /-- An option is given twice, or beside one that it excludes. -/
  | conflict
  deriving DecidableEq

/-! ## Options -/

/-- The options that take a value. -/
inductive Valued
  | path
  | output
  | interface
  | config
  | format
  deriving DecidableEq

/-- The options that are given or not. -/
inductive Flag
  | stdout
  | plain
  | force
  deriving DecidableEq

/-- All options. The verbosity is how often its option is given. -/
inductive Choice
  | valued (o : Valued)
  | flag (f : Flag)
  | verbosity
  | help
  deriving DecidableEq

/-- The word of an option, after two dashes. -/
def Choice.long : Choice → String
  | .valued .path => "path"
  | .valued .output => "output"
  | .valued .interface => "interface"
  | .valued .config => "config"
  | .valued .format => "format"
  | .flag .stdout => "stdout"
  | .flag .plain => "plain"
  | .flag .force => "force"
  | .verbosity => "verbosity"
  | .help => "help"

/-- The letter of an option, after one dash. -/
def Choice.short? : Choice → Option Char
  | .valued .path => some 'p'
  | .valued .output => some 'o'
  | .valued .format => some 'f'
  | .flag .force => some 'f'
  | .verbosity => some 'v'
  | .help => some 'h'
  | _ => none

/-- The commands without what they are told. -/
inductive Verb
  | generate
  | inspect
  | init
  deriving DecidableEq

/-- The word of a command. -/
def Verb.word : Verb → String
  | .generate => "generate"
  | .inspect => "inspect"
  | .init => "init"

/-- The command with the given word. -/
def Verb.ofWord? (w : String) : Option Verb :=
  [Verb.generate, .inspect, .init].find? fun v => v.word == w

/-- The options of a command. -/
def Verb.choices : Verb → List Choice
  | .generate =>
    [.valued .path, .valued .output, .valued .interface, .valued .config, .flag .stdout,
      .verbosity, .help]
  | .inspect =>
    [.valued .path, .valued .interface, .valued .config, .valued .format, .flag .plain,
      .verbosity, .help]
  | .init => [.flag .force, .help]

/-- The option of a command with the given word. -/
def Verb.long? (v : Verb) (name : List Char) : Option Choice :=
  v.choices.find? fun c => c.long.toList == name

/-- The option of a command with the given letter. -/
def Verb.short? (v : Verb) (letter : Char) : Option Choice :=
  v.choices.find? fun c => c.short? == some letter

/-- The format with the given name. -/
def formatOf? (name : String) : Option Report.Format :=
  if name == "terminal" then some .terminal
  else if name == "json" then some .json
  else none

/-- The name of a format. -/
def formatName : Report.Format → String
  | .terminal => "terminal"
  | .json => "json"

/-- Whether an option takes a value: none takes an empty one. -/
def Valued.accepts (o : Valued) (value : String) : Bool :=
  match o with
  | .format => (formatOf? value).isSome
  | _ => !value.isEmpty

/-! ## Reading -/

/-- What has been read of a command's options. -/
structure Progress where
  values : List (Valued × String) := []
  flags : List Flag := []
  verbosity : Nat := 0
  /-- An option whose value belongs into a word of its own, and that word if it has
  come already. -/
  pending : Option (Valued × Option String) := none
  deriving DecidableEq

namespace Progress

/-- The largest verbosity that is counted. -/
def maxVerbosity : Nat := 255

/-- Gives an option its value. -/
def store (p : Progress) (o : Valued) (value : String) : Except Problem Progress :=
  if (p.values.lookup o).isSome then .error .conflict
  else if o.accepts value then .ok { p with values := p.values ++ [(o, value)] }
  else .error .invalidValue

/-- Looks at the option that is pending. -/
def settle (p : Progress) : Except Problem Progress :=
  match p.pending with
  | none => .ok p
  | some (_, none) => .error .invalidValue
  | some (o, some value) => { p with pending := none }.store o value

/-- Takes an option without a value of its own. -/
def choose (p : Progress) (c : Choice) : Except Problem Progress :=
  match c with
  | .valued o => .ok { p with pending := some (o, none) }
  | .flag f => if f ∈ p.flags then .error .conflict else .ok { p with flags := p.flags ++ [f] }
  | .verbosity => .ok { p with verbosity := min (p.verbosity + 1) maxVerbosity }
  | .help => .error .help

/-- Takes an option with the value in its own word, if there is one. -/
def take (p : Progress) (c : Choice) (attached : Option (List Char)) : Except Problem Progress :=
  match c, attached with
  | .valued o, some value => do (← p.settle).store o (String.ofList value)
  | _, some _ => .error .unexpectedValue
  | c, none => do (← p.settle).choose c

end Progress

/-- Splits a word at its first `=`. -/
def splitValue (w : List Char) : List Char × Option (List Char) :=
  match w.dropWhile (· != '=') with
  | [] => (w, none)
  | _ :: value => (w.takeWhile (· != '='), some value)

/-- The rest of a word of letters as the value of the option before it. -/
def attachedValue : List Char → Option (List Char)
  | [] => none
  | '=' :: value => some value
  | value => some value

/-- Reads the letters of a word with one dash. -/
def readLetters (v : Verb) (p : Progress) : List Char → Except Problem Progress
  | [] => .ok p
  | l :: ls =>
    match v.short? l with
    | none => .error .unknownArgument
    | some (.valued o) => p.take (.valued o) (attachedValue ls)
    | some c => do readLetters v (← p.take c none) ls

/-- Reads a word with two dashes. -/
def readLong (v : Verb) (p : Progress) (w : List Char) : Except Problem Progress :=
  match v.long? (splitValue w).1 with
  | none => .error .unknownArgument
  | some c => p.take c (splitValue w).2

/-- Reads a word without a dash, which can only be the value of the pending option. -/
def readValue (p : Progress) (w : String) : Except Problem Progress :=
  match p.pending with
  | some (o, none) => .ok { p with pending := some (o, some w) }
  | _ => .error .unknownArgument

/-- Reads the words after a command. Two dashes alone end the options, and no command
has anything else. -/
def readWords (v : Verb) (p : Progress) : List String → Except Problem Progress
  | [] => p.settle
  | w :: ws =>
    match w.toList with
    | ['-', '-'] => if ws.isEmpty then p.settle else .error .unknownArgument
    | '-' :: '-' :: name => do readWords v (← readLong v p name) ws
    | '-' :: l :: ls => do readWords v (← readLetters v p (l :: ls)) ws
    | _ => do readWords v (← readValue p w) ws

/-- The value of an option as a path. -/
def Progress.path? (p : Progress) (o : Valued) : Option Path := (p.values.lookup o).map Path.mk

/-- Where the options say the project is. -/
def Progress.source (p : Progress) : Source where
  path := (p.path? .path).getD ⟨"."⟩
  interface := p.path? .interface
  config := p.path? .config

/-- The command with the options that were read. -/
def command (v : Verb) (p : Progress) : Except Problem Command :=
  match v with
  | .generate =>
    if Flag.stdout ∈ p.flags ∧ (p.path? .output).isSome then .error .conflict
    else .ok (.generate ⟨p.source, p.path? .output, Flag.stdout ∈ p.flags⟩ p.verbosity)
  | .inspect =>
    let format := ((p.values.lookup .format).bind formatOf?).getD .terminal
    .ok (.inspect ⟨p.source, format, Flag.plain ∈ p.flags⟩ p.verbosity)
  | .init => .ok (.init (Flag.force ∈ p.flags))

/-- The word that asks for help on the commands named after it. -/
def helpWord : String := "help"

/-- Whether a word stands for a command, that for help included. -/
def isCommandWord (w : String) : Bool := w == helpWord || (Verb.ofWord? w).isSome

/-- The answer to a request for help on the commands named by the words. -/
def helpOn : List String → Problem
  | [] => .help
  | [w] => if isCommandWord w then .help else .unknownCommand
  | _ => .unknownCommand

/-- The answer to letters after one dash where a command belongs. -/
def topLetter : Char → Problem
  | 'h' => .help
  | 'V' => .version
  | _ => .unknownArgument

/-- The answer to a word after two dashes where a command belongs. -/
def topLong (w : List Char) : Problem :=
  let answer : Option Problem :=
    if (splitValue w).1 == "help".toList then some .help
    else if (splitValue w).1 == "version".toList then some .version
    else none
  match answer, (splitValue w).2 with
  | none, _ => .unknownArgument
  | some _, some _ => .unexpectedValue
  | some a, none => a

/-- The answer to the words after two dashes alone where a command belongs: no
command may follow them. -/
def afterDashes : List String → Problem
  | [] => .noCommand
  | w :: _ => if isCommandWord w then .unknownArgument else .unknownCommand

/-- The command that the words spell. -/
def parse : List String → Except Problem Command
  | [] => .error .noCommand
  | w :: ws =>
    match w.toList with
    | ['-', '-'] => .error (afterDashes ws)
    | '-' :: '-' :: name => .error (topLong name)
    | '-' :: l :: _ => .error (topLetter l)
    | _ =>
      match Verb.ofWord? w with
      | some v => do command v (← readWords v {} ws)
      | none => .error (if w == helpWord then helpOn ws else .unknownCommand)

/-! ## Writing -/

/-- The word of an option with its value. -/
def valueWord (o : Valued) (value : String) : String :=
  "--" ++ (Choice.valued o).long ++ "=" ++ value

/-- The word of an option without a value. -/
def choiceWord (c : Choice) : String := "--" ++ c.long

/-- The word of an option, if it has a value. -/
def pathWords (o : Valued) (value : Option Path) : List String :=
  value.toList.map fun p => valueWord o p.text

/-- The word of a flag, if it is given. -/
def flagWords (f : Flag) (given : Bool) : List String :=
  if given then [choiceWord (.flag f)] else []

/-- The words of a verbosity. -/
def verbosityWords (n : Nat) : List String := List.replicate n (choiceWord .verbosity)

/-- The words for the options of a source. -/
def sourceWords (s : Source) : List String :=
  valueWord .path s.path.text :: (pathWords .interface s.interface ++ pathWords .config s.config)

/-- The command without what it is told. -/
def verbOf : Command → Verb
  | .generate .. => .generate
  | .inspect .. => .inspect
  | .init .. => .init

/-- The words for the options of a command. -/
def optionWords : Command → List String
  | .generate job verbosity =>
    sourceWords job.source ++ pathWords .output job.output ++ flagWords .stdout job.stdout ++
      verbosityWords verbosity
  | .inspect job verbosity =>
    sourceWords job.source ++ [valueWord .format (formatName job.format)] ++
      flagWords .plain job.plain ++ verbosityWords verbosity
  | .init force => flagWords .force force

end DecoderBench.CommandLine
