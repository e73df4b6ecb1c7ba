/-
The commands of the shell that change its variables, its arguments, its options,
and its aliases.
-/
import DecoderBench.Shell.Builtin
import DecoderBench.Shell.ModeChange

namespace DecoderBench.Shell.Builtin

/-! ## Options and arguments -/

/-- The options of a shell with their long names. The last two have no letters of their
own. -/
def optionNames : List (String × Char) :=
  [("errexit", 'e'), ("noglob", 'f'), ("ignoreeof", 'I'), ("interactive", 'i'), ("monitor", 'm'),
    ("noexec", 'n'), ("stdin", 's'), ("xtrace", 'x'), ("verbose", 'v'), ("vi", 'V'), ("emacs", 'E'),
    ("noclobber", 'C'), ("allexport", 'a'), ("notify", 'b'), ("nounset", 'u'), ("privileged", 'p'),
    ("nolog", '\x01'), ("debug", '\x02')]

/-- Sets or clears options by their letters. -/
def switchAll (p : Process) (on : Bool) : List Char → Except String Process
  | [] => .ok p
  | c :: cs =>
    if Process.optionLetters.contains c then switchAll (p.switch on c) on cs
    else .error ("Illegal option -" ++ c.toString)

/-- Sets or clears an option by its long name. Without a name, all options are listed. -/
def switchNamed (p : Process) (on : Bool) : Option String → Except String Process
  | some s =>
    match optionNames.lookup s with
    | some c => .ok (p.switch on c)
    | none => .error ("Illegal option -o " ++ s)
  | none =>
    let padded (s : String) : String := s ++ String.ofList (List.replicate (16 - s.length) ' ')
    let tell (p : Process) (x : String × Char) : Process :=
      if on then p.say (padded x.1 ++ if p.has x.2 then "on" else "off")
      else p.say ("set " ++ (if p.has x.2 then "-o " else "+o ") ++ x.1)
    .ok (optionNames.foldl tell (if on then p.say "Current option settings" else p))

/-- Lets the shell have other arguments. -/
def withArguments (p : Process) (args : List String) : Process :=
  { p with arguments := args, optionPlace := (1, none) }

/-- Sets options, and the arguments if there are any after them. An option may have its name
in the next argument. -/
def setOptions (p : Process) : List String → Except String Process
  | [] => .ok p
  | arg :: args =>
    match arg.toList with
    | ['-'] =>
      let p := (p.switch false 'x').switch false 'v'
      .ok (if args.isEmpty then p else withArguments p args)
    | ['-', '-'] => .ok (withArguments p args)
    | sign :: cs =>
      if sign != '-' && sign != '+' then .ok (withArguments p (arg :: args))
      else do
        let p ← switchAll p (sign == '-') (cs.filter (· != 'o'))
        match cs.contains 'o', args with
        | false, args => setOptions p args
        | true, [] => switchNamed p (sign == '-') none
        | true, name :: args => setOptions (← switchNamed p (sign == '-') (some name)) args
    | [] => .ok (withArguments p (arg :: args))

/-- Lists variables, each after a word. -/
def list (word : String) (names : List String) (p : Process) : Process :=
  let tell (p : Process) (name : String) : Process :=
    p.say (word ++ name ++ (p.bindings.lookup name).elim "" fun v => "=" ++ quoted v)
  ((ordered names.eraseDups).foldl tell p).ends 0

/-- Sets options and arguments, or lists the variables. -/
def set : Tool := fun _ args p =>
  if args.isEmpty then list "" (p.bindings.map (·.1)) p
  else
    match setOptions p args with
    | .ok p => p.ends 0
    | .error e => p.refuse e

/-- Drops arguments. -/
def shift : Tool := fun _ args p =>
  match args.head?.elim (some 1) number? with
  | some n =>
    if n ≤ p.arguments.length then (withArguments p (p.arguments.drop n)).ends 0
    else p.refuse "can't shift that many"
  | none => illegal p (args.headD "")

/-! ## Variables -/

/-- The name and the value in an argument that may assign one. -/
def binding (arg : String) : String × Option String :=
  match arg.splitOn "=" with
  | name :: v :: vs => (name, some ("=".intercalate (v :: vs)))
  | _ => (arg, none)

/-- Gives variables values, before something is done with their names and after it. -/
def declare (before after : Process → String → Process) (args : List String) (p : Process) :
    Process :=
  forEach (fun p arg =>
    let (name, value?) := binding arg
    if !Process.isName name then p.refuse (name ++ ": bad variable name")
    else
      let p := value?.elim (before p name) fun v => (before p name).assign name v
      if p.flow == .running then after p name else p) args p

/-- Lets programs see variables, or lists those that they see. -/
def publish : Tool := withOptions "p" "" fun options args p =>
  if options.given 'p' || args.isEmpty then list "export " p.exported p
  else declare (fun p _ => p) (fun p name => { p with exported := name :: p.exported }) args p

/-- Lets variables keep their values, or lists those that do. -/
def fix : Tool := withOptions "p" "" fun options args p =>
  if options.given 'p' || args.isEmpty then list "readonly " p.fixed p
  else declare (fun p _ => p) (fun p name => { p with fixed := name :: p.fixed }) args p

/-- Lets variables have their values again when the function ends. A dash stands for the
options. -/
def keep : Tool := withOptions "" "" fun _ args p =>
  let noted (p : Process) (name : String) (value : Option String) : Process :=
    if (p.locals.lookup name).isSome then p else { p with locals := (name, value) :: p.locals }
  if !p.within then p.refuse "not in a function"
  else
    forEach (fun p arg =>
      if arg == "-" then noted p "-" (some (String.ofList p.options))
      else
        declare (fun p name => noted p name (p.bindings.lookup name)) (fun p _ => p) [arg] p)
      args p

/-- Takes variables and functions away. -/
def unset : Tool := withOptions "fv" "" fun options args p =>
  forEach (fun p arg =>
    if options.getLast?.map (·.1) == some 'f' then
      { p with functions := p.functions.filter (·.1 != arg) }
    else if !Process.isName arg then p.refuse (arg ++ ": bad variable name")
    else if p.fixed.contains arg then p.refuse (arg ++ ": is read only")
    else { p.unassign arg with exported := p.exported.filter (· != arg) }) args p

/-! ## Options of scripts -/

/-- What follows a letter among those that a script knows. -/
def afterLetter? (c : Char) : List Char → Option (List Char)
  | [] => none
  | q :: ':' :: r => if q == c then some (':' :: r) else afterLetter? c r
  | q :: r => if q == c then some r else afterLetter? c r

/-- The letter that comes next in arguments, the rest of its argument, and how many arguments
have been looked at; or how many have been at the end of the options. -/
def nextLetter (among : List String) (place : Nat) (within : Option Nat) :
    Except Nat (Char × List Char × Nat) :=
  let current : List Char :=
    match within with
    | some k => if place ≤ 1 then [] else ((among[place - 2]?.map (·.toList)).getD []).drop k
    | none => []
  match current with
  | c :: r => .ok (c, r, place - 1)
  | [] =>
    match (among[place - 1]?).map (·.toList) with
    | some ['-', '-'] => .error place
    | some ('-' :: c :: r) => .ok (c, r, place)
    | _ => .error (place - 1)

/-- Puts the next option among arguments into a variable, and its value into another one. -/
def getopts : Tool := fun _ args p =>
  match args with
  | known :: goal :: own =>
    let among := if own.isEmpty then p.arguments else own
    let (place, within) := if among.length + 1 < p.optionPlace.1 then (1, none) else p.optionPlace
    let told (p : Process) (seen : Nat) (letter : Char) (rest? : Option (List Char))
        (status : Nat) : Process :=
      let size := ((among[seen - 1]?).map (·.length)).getD 0
      let q := (p.bind "OPTIND" (toString (seen + 1))).assign goal letter.toString
      { (if q.flow == .running then q.ends status else q) with
        optionPlace := (seen + 1, rest?.map fun rest => size - rest.length) }
    let silent := known.startsWith ":"
    let wrong (c : Char) (complaint : String) : Process :=
      if silent then p.bind "OPTARG" c.toString else (p.complain complaint).unassign "OPTARG"
    match nextLetter among place within with
    | .error seen => told p seen '?' none 1
    | .ok (c, rest, seen) =>
      match afterLetter? c known.toList with
      | none => told (wrong c ("Illegal option -" ++ c.toString)) seen '?' (some rest) 0
      | some (':' :: _) =>
        if !rest.isEmpty then told (p.bind "OPTARG" (String.ofList rest)) seen c none 0
        else
          match among[seen]? with
          | some value => told (p.bind "OPTARG" value) (seen + 1) c none 0
          | none =>
            told (wrong c ("No arg for -" ++ c.toString ++ " option")) seen
              (if silent then ':' else '?') none 0
      | some _ => told (p.bind "OPTARG" "") seen c (some rest) 0
  | _ => p.refuse "Usage: getopts optstring var [arg...]"

/-! ## Aliases -/

/-- Writes an alias as the shell would read it. -/
def tellAlias (p : Process) (x : String × String) : Process := p.say (x.1 ++ "=" ++ quoted x.2)

/-- Lets words stand for texts, or lists those that do. -/
def abbreviate : Tool := fun _ args p =>
  if args.isEmpty then ((inRows 39 p.aliases).foldl tellAlias p).ends 0
  else
    args.foldl (fun p arg =>
      let name := String.ofList
        (arg.toList.take 1 ++ (arg.toList.drop 1).takeWhile (· != '='))
      if name == arg then
        match p.aliases.lookup name with
        | some text => tellAlias p (name, text)
        | none => (p.complain ("alias: " ++ name ++ " not found")).ends 1
      else
        let text := String.ofList (arg.toList.drop (name.length + 1))
        if (p.aliases.lookup name).isSome then
          { p with aliases := p.aliases.map fun x => if x.1 == name then (name, text) else x }
        else { p with aliases := p.aliases ++ [(name, text)] }) (p.ends 0)

/-- Lets words stand for themselves again. -/
def unalias : Tool := withOptions "a" "" fun options args p =>
  if options.given 'a' then { p with aliases := [], status := 0 }
  else
    args.foldl (fun p name =>
      if (p.aliases.lookup name).isSome then
        { p with aliases := p.aliases.filter (·.1 != name) }
      else (p.complain ("unalias: " ++ name ++ " not found")).ends 1) (p.ends 0)

/-! ## Limits -/

/-- A number in octal digits. -/
def octalText (n : Nat) : String :=
  let digits := String.ofList (Nat.toDigits 8 n)
  String.ofList (List.replicate (4 - digits.length) '0') ++ digits

/-- The mode after all clauses of a change. -/
def modeOf? (change : String) (mode : Mode) : Option Mode :=
  (change.splitOn ",").foldlM (fun m clause =>
    let (who, rest) := ModeChange.users clause.toList
    match rest with
    | sign :: rest =>
      if !(['+', '-', '='].contains sign) ||
          !rest.all (fun c => ['r', 'w', 'x', 'X'].contains c) then
        none
      else some (ModeChange.apply sign (who.getD .full) (.forAll (ModeChange.rights rest)) m)
    | [] => none) mode

/-- Says which permissions new files do not get. -/
def umask : Tool := withOptions "S" "" fun options args p =>
  let granted := Mode.full.without p.mask
  match args with
  | [] =>
    let named := [("u=", granted.owner), ("g=", granted.group), ("o=", granted.others)].map
      fun x => x.1 ++ String.ofList x.2.shortLetters
    (p.say (if options.given 'S' then ",".intercalate named else octalText p.mask.number)).ends 0
  | mode :: _ =>
    if (mode.toList.head?.map Char.isDigit).getD false then
      if mode.toList.all fun c => '0' ≤ c && c ≤ '7' then
        { p with mask := .ofNumber (ModeChange.octal mode.toList), status := 0 }
      else illegal p mode
    else
      match modeOf? mode granted with
      | some m => { p with mask := Mode.full.without m, status := 0 }
      | none => p.refuse ("Illegal mode: " ++ mode)

/-- Says how much the shell may use. -/
def ulimit : Tool := withOptions "HSafncstdlvmpr" "" fun _ args p =>
  if args.isEmpty then (p.say "unlimited").ends 0 else p.ends 0

/-- Tells how long the shell took. -/
def times : Tool := fun _ _ p =>
  ((p.say "0m0.000000s 0m0.000000s").say "0m0.000000s 0m0.000000s").ends 0

end DecoderBench.Shell.Builtin
