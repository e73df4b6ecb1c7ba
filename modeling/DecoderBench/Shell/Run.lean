/-
Running scripts.

What a script does is a function of the shell that it runs in. The number that
each function takes bounds how long it may go on: a script that is still running
then is stopped.
-/
import DecoderBench.Shell.Arithmetic
import DecoderBench.Shell.Nesting
import DecoderBench.Shell.Reader

namespace DecoderBench.Shell

/-! ## Pieces of words -/

/-- A piece of a parameter's operand as a piece of the word around it, where what is not
quoted falls apart. -/
def Chunk.loosen : Chunk → Chunk
  | .fixed gs => if !gs.isEmpty && gs.all (!·.quoted) then .loose (textOf gs) else .fixed gs
  | chunk => chunk

/-- The value of a parameter as a piece of a word. -/
def pieceOf (quoted : Bool) (v : String) : Chunk :=
  if quoted then .fixed (glyphs true v) else .loose v

/-- All of a parameter as a piece of a word. -/
def Process.wholeOf (p : Process) (quoted : Bool) (name : String) : Chunk :=
  if name == "@" && quoted then .separate p.mark p.arguments
  else if (name == "@" || name == "*") && !quoted then .scattered p.mark p.arguments
  else pieceOf quoted ((p.value? name).getD "")

/-- Whether a word gives a value to a name that it starts with. -/
def isAssignment (word : Word) : Bool :=
  let isName (part : Part) : Bool :=
    match part with
    | .text false s => s.toList.all isNamePart
    | _ => false
  match word.takeWhile isName, word.dropWhile isName with
  | .text _ s :: _, .text false "=" :: _ => (s.toList.head?.map isNameStart).getD false
  | _, _ => false

/-- A word that gives a value to a name, with the user's directory in the value. -/
def homedAssignment (word : Word) : Word :=
  let isSign (part : Part) : Bool :=
    match part with
    | .text false "=" => true
    | _ => false
  let name := word.takeWhile fun part => !isSign part
  let value := word.drop (name.length + 1)
  name ++ .text false "=" :: homed true true value

/-- Whether the words of a command that follow some fields may give values to names. -/
def declares (fields : List String) : Bool :=
  match fields.dropWhile (· == "command") with
  | name :: _ => ["alias", "export", "local", "readonly"].contains name
  | [] => false

/-! ## Programs -/

/-- The text of a script, or of what one prints, in which NULs do not count. -/
def scriptOf (bs : List UInt8) : List Char := (textOfBytes (bs.filter (· != 0))).toList

/-- The names of shells. -/
def shells : List String := ["sh", "dash", "bash"]

/-- The names of the programs that can be run. -/
def programs : List String := shells ++ "env" :: Tool.programs.map (·.1)

/-- How many interpreters may stand between a script and a program of the machine. -/
def interpreterDepth : Nat := 6

/-- The program after another one that it ran in its place. -/
def Process.replaced (p : Process) (q : Process) : Process :=
  { q with
    workspace := { q.workspace with directory := p.workspace.directory },
    streams := q.streams.take p.streams.length }

/-- A program that looks for others in the usual places, unless it is told where. -/
def Process.findable (p : Process) : Process :=
  if (p.bindings.lookup "PATH").isSome then p else p.bind "PATH" "/bin:/usr/bin"

/-- The shell after a program could not be started. -/
def Process.missing (p : Process) (name : String) (e : SystemFault) : Process :=
  let words := openingFault "not found" e
  (p.object (name ++ ": " ++ words)).ends
    (if words == "not found" || e == .tooManyLinks || e == .nameTooLong then 127 else 126)

/-- The program after one that it could not run in its place. -/
def Process.unable (p : Process) (complaint : String) (e : SystemFault) : Process :=
  Tool.fails p (complaint ++ ": " ++ e.words) (if e == .notFound then 127 else 126)

/-! ## Words, commands and scripts -/

mutual

/-- The pieces of one part of a word. -/
def expandPart : Nat → Part → Process → List Chunk × Process
  | 0, _, p => ([], p.stopped)
  | n + 1, part, p =>
    match part with
    | .text quoted s => ([.fixed (glyphs quoted s)], p)
    | .home =>
      let home := (p.bindings.lookup "HOME").getD ""
      ([.fixed (glyphs true (if home.isEmpty then "~" else home))], p)
    | .output quoted script =>
      let k := p.streams.length
      let inside := { p.nested with streams := p.streams ++ [Stream.kept []], tested := false }
      let q := runInside n script (inside.share 1 k)
      let text := String.ofList (Text.dropTrailing (· == '\n') (scriptOf (q.collected k)))
      let q := p.regain q
      ([pieceOf quoted text], { q with inner := some q.status, status := p.status })
    | .arithmetic quoted expression =>
      let (s, p) := expandText n expression p
      match Arithmetic.evaluate (fun name => (p.value? name).getD "") s with
      | .ok (a, assigned) =>
        ([pieceOf quoted (toString a)],
          p.assignAll (assigned.reverse.map fun x => (x.1, toString x.2)))
      | .error e => ([], p.refuse (e.message s))
    | .parameter quoted name use operand =>
      let value? := p.value? name
      let missing (empty : Bool) : Bool := value?.isNone || (empty && value? == some "")
      let whole : List Chunk := [p.wholeOf quoted name]
      let lacking := p.has 'u' && value?.isNone && name != "@" && name != "*"
      let demanded (r : Process → List Chunk × Process) : List Chunk × Process :=
        if lacking then ([], p.refuse (name ++ ": parameter not set")) else r p
      let other (p : Process) : List Chunk × Process :=
        let (chunks, p) := expandWord n operand p
        (if quoted then chunks else chunks.map Chunk.loosen, p)
      match use with
      | .value => demanded fun p => (whole, p)
      | .length =>
        demanded fun p => ([pieceOf quoted (toString (value?.getD "").length)], p)
      | .orElse empty => if missing empty then other p else (whole, p)
      | .ifThere empty => if missing empty then ([], p) else other p
      | .orAssign empty =>
        if missing empty then
          let (s, p) := expandText n operand p
          ([pieceOf quoted s], p.assign name s)
        else (whole, p)
      | .demand empty =>
        if missing empty then
          let (s, p) := expandText n operand p
          let usual := if empty then "parameter not set or null" else "parameter not set"
          ([], p.refuse (name ++ ": " ++ (if s.isEmpty then usual else s)))
        else (whole, p)
      | .dropStart longest =>
        demanded fun p =>
          let (chunks, p) := expandWord n operand p
          ([pieceOf quoted (dropStart longest (joined chunks) (value?.getD ""))], p)
      | .dropEnd longest =>
        demanded fun p =>
          let (chunks, p) := expandWord n operand p
          ([pieceOf quoted (dropEnd longest (joined chunks) (value?.getD ""))], p)
      | .bad => ([], p.refuse "Bad substitution")

/-- The pieces of a word. -/
def expandWord : Nat → Word → Process → List Chunk × Process
  | 0, _, p => ([], p.stopped)
  | _, [], p => ([], p)
  | n + 1, part :: rest, p =>
    let (chunks, p) := expandPart n part p
    if p.flow != .running then (chunks, p)
    else
      let (more, p) := expandWord n rest p
      (chunks ++ more, p)

/-- The text of a word that stays in one piece. -/
def expandText : Nat → Word → Process → String × Process
  | 0, _, p => ("", p.stopped)
  | n + 1, word, p =>
    let (chunks, p) := expandWord n word p
    (textOf (joined chunks), p)

/-- The fields of words that follow the fields of a command, if they belong to one. -/
def expandFields : Nat → Option (List String) → List Word → Process → List String × Process
  | 0, _, _, p => ([], p.stopped)
  | _, _, [], p => ([], p)
  | n + 1, before, word :: words, p =>
    let assigns := before.any declares && isAssignment word
    let (chunks, p) := expandWord n (if assigns then homedAssignment word else word) p
    if p.flow != .running then ([], p)
    else
      let fields :=
        if assigns then [textOf (joined chunks)]
        else (Fields.of p.separators chunks).flatMap p.filesOf
      let (more, p) := expandFields n (before.map (· ++ fields)) words p
      (fields ++ more, p)

/-- The values of assignments. -/
def expandValues : Nat → List (String × Word) → Process → List (String × String) × Process
  | 0, _, p => ([], p.stopped)
  | _, [], p => ([], p)
  | n + 1, (name, word) :: rest, p =>
    let (s, p) := expandText n word p
    if p.flow != .running then ([], p)
    else
      let before := p.bindings.lookup name
      let (more, p) := expandValues n rest (p.bind name s)
      ((name, s) :: more, if p.flow == .running then p.restore name before else p)

/-- Carries out redirections, and tells whether all of them could be. What their descriptors
led to may have to be kept for later. -/
def redirect : Nat → (keeps : Bool) → List Redirect → Process → Bool × Process
  | 0, _, _, p => (false, p.stopped)
  | _, _, [], p => (true, p)
  | n + 1, keeps, .mk d kind target :: rest, p =>
    let (s, p) := expandText n target p
    if p.flow != .running then (false, p)
    else
      match p.redirectTo d kind s with
      | .ok q => if q.flow == .running then redirect n keeps rest q else (false, q)
      | .error complaint =>
        -- The diagnostics have been put away already when their copy turns out to be missing.
        let mute := keeps && d == 2 && kind matches .duplicate
        (false, (if mute then p else p.object complaint).ends 2)

/-- Runs a script. -/
def run : Nat → Script → Process → Process
  | 0, _, p => p.stopped
  | n + 1, script, p =>
    if p.flow != .running || p.has 'n' then p
    else
      match script with
      | .at line script => run n script { p with line }
      | .simple assignments words redirects => runSimple n assignments words redirects p
      | .redirected script redirects =>
        let (done, q) := redirect n (!(script matches .subshell _)) redirects p
        (p.redirected (if done then run n script q else q) redirects).settled
      | .subshell script => (p.regain (runInside n script p.nested)).settled
      | .background script =>
        let q := runInside n script (p.nested.direct 0 .sink)
        let r := { p.regain q with flow := p.flow, status := 0 }
        let words? := if q.flow == .killed then (Signal.ofStatus? q.status).map (·.words) else none
        { r with jobs := (Process.number + 1 + p.jobs.length, q.status % 256, words?) :: p.jobs }
      | .sequence scripts => runAll n scripts p
      | .pipeline scripts => (p.regain (runPipes n scripts p.nested)).settled
      | .negation script =>
        let q := { run n script { p with tested := true } with tested := p.tested }
        if q.flow == .running then q.ends (if q.status == 0 then 1 else 0) else q
      | .both first second =>
        let q := { run n first { p with tested := true } with tested := p.tested }
        if q.status == 0 then run n second q else q
      | .either first second =>
        let q := { run n first { p with tested := true } with tested := p.tested }
        if q.status == 0 then q else run n second q
      | .conditional test yes no =>
        let q := { run n test { p with tested := true } with tested := p.tested }
        if q.flow != .running then q
        else if q.status == 0 then run n yes q
        else
          match no with
          | .sequence [] => q.ends 0
          | no => run n no q
      | .loop wanted test body =>
        { runLoop n wanted test body 0 { p with loops := p.loops + 1 } with loops := p.loops }
      | .each name words body =>
        let (fields, q) :=
          match words with
          | some words => expandFields n none words p
          | none => (p.arguments, p)
        if q.flow != .running then q
        else
          { runEach n name fields body { q with loops := p.loops + 1 } with loops := p.loops }
      | .choice subject branches =>
        let (s, q) := expandText n subject p
        runChoice n s branches q
      | .function name body =>
        { p with functions := (name, body) :: p.functions.filter (·.1 != name), status := 0 }

/-- Runs scripts one after another. -/
def runAll : Nat → List Script → Process → Process
  | 0, _, p => p.stopped
  | _, [], p => p
  | n + 1, script :: rest, p => runAll n rest (run n script p)

/-- Runs scripts, each with the output of the one before it as its input. -/
def runPipes : Nat → List Script → Process → Process
  | 0, _, p => p.stopped
  | _, [], p => p
  | n + 1, [script], p => p.regain (runInside n script p)
  | n + 1, script :: rest, p =>
    let k := p.streams.length
    let inside := { p with streams := p.streams ++ [Stream.kept []] }
    let q := runInside n script (inside.share 1 k)
    runPipes n rest ((p.regain q).direct 0 (.given (q.collected k)))

/-- Runs a script in a shell of its own, up to what that does when it exits. -/
def runInside : Nat → Script → Process → Process
  | 0, _, p => p.stopped
  | n + 1, script, p => runExit n (run n script p)

/-- Runs what a shell does when it exits. -/
def runExit : Nat → Process → Process
  | 0, p => p.stopped
  | n + 1, p =>
    match p.traps.lookup "EXIT" with
    | none => p
    | some action =>
      if p.flow == .killed then p
      else
        let q := runText n action.toList
          { p with
            traps := p.traps.filter (·.1 != "EXIT"), flow := .running, command := none }
        if q.flow == .running then { q with status := p.status, flow := .exiting } else q

/-- Runs a loop, which ends with the status of its body. -/
def runLoop : Nat → Bool → Script → Script → Nat → Process → Process
  | 0, _, _, _, _, p => p.stopped
  | n + 1, wanted, test, body, status, p =>
    let q := { run n test { p with tested := true } with tested := p.tested }
    match q.flow with
    | .running =>
      if (q.status == 0) == wanted then
        let (on, q) := (run n body q).loopOn
        if on then runLoop n wanted test body q.status q else q
      else q.ends status
    | _ =>
      let (on, q) := q.loopOn
      if on then runLoop n wanted test body q.status q else q

/-- Runs a body for each of some values. -/
def runEach : Nat → String → List String → Script → Process → Process
  | 0, _, _, _, p => p.stopped
  | _, _, [], _, p => p.ends 0
  | n + 1, name, s :: rest, body, p =>
    let q := p.assign name s
    let (on, q) := (run n body q).loopOn
    if on && !rest.isEmpty then runEach n name rest body q else q

/-- Runs the first branch with a pattern that a text matches. -/
def runChoice : Nat → String → List (List Word × Script) → Process → Process
  | 0, _, _, p => p.stopped
  | _, _, [], p => if p.flow == .running then p.ends 0 else p
  | n + 1, s, (patterns, body) :: rest, p =>
    let (found, p) := runPatterns n s patterns p
    if p.flow != .running then p
    else if found then
      match body with
      | .sequence [] => p.ends 0
      | body => run n body p
    else runChoice n s rest p

/-- Whether a text matches one of some patterns. -/
def runPatterns : Nat → String → List Word → Process → Bool × Process
  | 0, _, _, p => (false, p.stopped)
  | _, _, [], p => (false, p)
  | n + 1, s, pattern :: rest, p =>
    let (chunks, p) := expandWord n pattern p
    if p.flow != .running then (false, p)
    else if matchesPattern (joined chunks) s then (true, p)
    else runPatterns n s rest p

/-- Tells which command is run, with the streams of the shell before its redirections. -/
def trace : Nat → List String → Process → Process → Process
  | 0, _, _, q => q.stopped
  | n + 1, words, p, q =>
    if !q.has 'x' || q.flow != .running then q
    else
      let cs := ((q.bindings.lookup "PS4").getD "").toList
      let mark := (readParts [] (16 * (cs.length + 1)) 0 .document cs).toOption.elim [] (·.1)
      let (s, _) := expandText n mark { q with options := q.options.filter (· != 'x') }
      let told := { q with descriptors := p.descriptors }.complain (s ++ " ".intercalate words)
      { told with descriptors := q.descriptors }

/-- Runs a simple command. -/
def runSimple : Nat → List (String × Word) → List Word → List Redirect → Process →
    Process
  | 0, _, _, _, p => p.stopped
  | n + 1, assignments, words, redirects, p =>
    let (fields, p) := expandFields n (some []) words { p with inner := none }
    if p.flow != .running then p
    else
      let special := (fields.head?.map specialCommands.contains).getD false
      let (done, q) := redirect n true redirects p
      if !done then
        let q := p.redirected q redirects
        if special && q.flow == .running then { q with flow := .refused } else q.settled
      else
        let (values, q) := expandValues n assignments q
        if q.flow != .running then p.redirected q redirects
        else
          let words := values.map (fun x => x.1 ++ "=" ++ x.2) ++ fields
          match fields with
          | [] =>
            let q := p.redirected (trace n words p (q.assignAll values)) redirects
            if q.flow != .running then q else (q.ends (q.inner.getD 0)).settled
          | name :: args =>
            let r := trace n words p (if special then q.assignAll values else q.lend values)
            let r := if r.flow == .running then invoke n name args r else r
            let r := if special then r else q.takeBack r values
            let r := runPending n r
            if (fields.dropWhile (· == "command")).head? == some "exec" then r.settled
            else (p.redirected r redirects).settled

/-- Runs the scripts that signals asked for. -/
def runPending : Nat → Process → Process
  | 0, p => p.stopped
  | n + 1, p =>
    match p.pending with
    | [] => p
    | action :: rest =>
      let q := runText n action.toList { p with pending := rest }
      runPending n (if q.flow == .running then q.ends p.status else q)

/-- Runs a command by its name. -/
def invoke : Nat → String → List String → Process → Process
  | 0, _, _, p => p.stopped
  | n + 1, name, args, p =>
    match p.functions.lookup name with
    | some body =>
      let q := run n body
        { p with
          arguments := args, locals := [], loops := 0, within := true, optionPlace := (1, none) }
      let q := q.locals.foldl (fun q x => q.restore x.1 x.2) q
      { q with
        arguments := p.arguments,
        locals := p.locals,
        loops := p.loops,
        within := p.within,
        optionPlace := p.optionPlace,
        flow := if q.flow == .returning then .running else q.flow }
    | none => runCommand n name args p

/-- Runs a command that is no function. -/
def runCommand : Nat → String → List String → Process → Process
  | 0, _, _, p => p.stopped
  | n + 1, name, args, p =>
    let own := { p with command := some name }
    match Builtin.all.lookup name with
    | some tool =>
      let q := (tool name args own).reported (name ++ ": I/O error")
      let q := { q with command := p.command }
      if specialCommands.contains name then q else q.pardoned
    | none =>
      match name with
      | "eval" => { runText n (" ".intercalate args).toList (own.ends 0) with command := p.command }
      | "." => { runFile n (if args.head? == some "--" then args.tail else args) own with
          command := p.command }
      | "exec" =>
        match args with
        | [] => p.ends 0
        | name :: args =>
          match execute n name args p with
          | .ok q =>
            { p.replaced q with
              flow := if q.flow == .killed then .killed else .exiting, traps := [] }
          | .error e => { own.missing name e with flow := .exiting }
      | "command" =>
        match Builtin.sortOut "pvV" "" args with
        | .error e => { own.refuse e with command := p.command }.pardoned
        | .ok (_, []) => p.ends 0
        | .ok (options, name :: args) =>
          if options.given 'V' || options.given 'v' then
            let tell := if options.given 'V' then Builtin.tellNature else Builtin.tellName
            { (tell (own.ends 0) name).reported "command: I/O error" with command := p.command }
          else (runCommand n name args p).pardoned
      | name => runProgram n name args (Builtin.noticed p name)

/-- Runs the commands in a file. -/
def runFile : Nat → List String → Process → Process
  | 0, _, p => p.stopped
  | n + 1, args, p =>
    match args with
    | [] => p.ends 0
    | file :: _ =>
      let isThere (path : String) : Bool := p.workspace.kind? (pathOf path) == some .file
      let path? :=
        if file.contains '/' then some file
        else (p.searched.map (Process.pathIn · file)).find? isThere
      match path? with
      | none => p.refuse (file ++ ": not found")
      | some path =>
        match p.script path with
        | .error e => p.refuse ("cannot open " ++ path ++ ": " ++ openingFault "No such file" e)
        | .ok bs =>
          let cs := scriptOf bs
          let q := runLines n (cs.count '\n') true cs { p.ends 0 with command := some path }
          { q with flow := if q.flow == .returning then .running else q.flow }

/-- Runs a program by its name or its path. -/
def runProgram : Nat → String → List String → Process → Process
  | 0, _, _, p => p.stopped
  | n + 1, name, args, p =>
    match execute n name args p with
    | .ok q => p.reap q
    | .error e => p.missing name e

/-- A program by its name or its path, as it has ended. A file that is no program counts as
a script. -/
def execute : Nat → String → List String → Process → Except SystemFault Process
  | 0, _, _, p => .ok p.stopped
  | n + 1, name, args, p =>
    match p.programPath? name with
    | none => .error .notFound
    | some path =>
      match launch n interpreterDepth name (pathOf path) args p with
      | .error .notProgram => .ok (runShell n path (path :: args) p)
      | result => result

/-- Runs a program of the machine, which calls itself by the first name. -/
def runKnown : Nat → String → String → List String → Process → Process
  | 0, _, _, _, p => p.stopped
  | n + 1, called, name, args, p =>
    if shells.contains name then runShell n called args p
    else
      let q := p.child called args
      match name with
      | "env" => Tool.written name called q (runEnvironment n called args q)
      | name =>
        match Tool.programs.lookup name with
        | some tool => Tool.run name called tool args q
        | none => p.ends 127

/-- Runs a program with some variables. -/
def runEnvironment : Nat → String → List String → Process → Process
  | 0, _, _, p => p.stopped
  | n + 1, called, args, p =>
    Tool.withOptions Tool.variableGrammar (fun name options operands p =>
      let clear := options.given 'i' || operands.head? == some "-"
      let operands := if operands.head? == some "-" then operands.tail else operands
      let p := if clear then { p with bindings := [], exported := [] } else p
      let p := (options.all 'u').foldl Process.unassign p
      let given := operands.takeWhile (·.contains '=')
      let p := given.foldl (fun p s =>
        let (name, value?) := Builtin.binding s
        { p.unassign name with
          bindings := (p.unassign name).bindings ++ [(name, value?.getD "")],
          exported := name :: p.exported }) p
      match operands.drop given.length, options.last? 'C' with
      | [], _ =>
        (p.bindings.foldl (fun p x =>
          p.emit 1 (bytesOf (x.1 ++ "=" ++ x.2) ++ [if options.given '0' then 0 else 10])) p).ends 0
      | command :: rest, place? =>
        match place?.elim (.ok p.workspace.directory) fun s => p.workspace.locate (pathOf s) with
        | .error e =>
          Tool.fails p (name ++ ": cannot change directory to " ++
            Tool.quoted (place?.getD "") ++ ": " ++ e.words) 125
        | .ok l =>
          match execute n command rest
              { p.findable with workspace := { p.workspace with directory := l } } with
          | .ok q => p.replaced q
          | .error e =>
            let q := p.unable (name ++ ": " ++ Tool.cited command) e
            if e == .notFound && command.contains ' ' then
              q.complain (name ++ ": use -[v]S to pass options in shebang lines")
            else q) called (Tool.splitOption args) p

/-- Runs a shell. -/
def runShell : Nat → String → List String → Process → Process
  | 0, _, _, p => p.stopped
  | n + 1, called, args, p =>
    let fresh := p.freshShell called args
    let complain (q : Process) (s : String) : Process :=
      (q.complain (called ++ ": 0: " ++ s)).ends 2
    let fromInput (q : Process) (rest : List String) : Process :=
      let cs := scriptOf q.input
      runExit n (runLines n (cs.count '\n') true cs
        { q.drained.switch true 's' with arguments := rest })
    match shellOptions fresh args with
    | .error complaint => complain fresh complaint
    | .ok (q, .argument, script :: rest) =>
      runExit n (runText n script.toList
        { q with name := rest.headD called, arguments := rest.tail })
    | .ok (q, .argument, []) => complain q "-c requires an argument"
    | .ok (q, .input, rest) => fromInput q rest
    | .ok (q, .file, []) => fromInput q []
    | .ok (q, .file, file :: rest) =>
      match q.script file with
      | .ok bs =>
        let cs := scriptOf bs
        runExit n (runLines n (cs.count '\n') true cs { q with name := file, arguments := rest })
      | .error e => complain q ("cannot open " ++ file ++ ": " ++ openingFault "No such file" e)

/-- Starts the program at a path, which calls itself by a name. A script is run by its
interpreter, which may be a script too, down to a depth. -/
def launch : Nat → Nat → String → Path → List String → Process →
    Except SystemFault Process
  | 0, _, _, _, _, p => .ok p.stopped
  | _, 0, _, _, _, _ => .error .tooManyLinks
  | n + 1, depth + 1, called, path, args, p =>
    match p.workspace.locate path with
    | .error e => .error e
    | .ok l =>
      match p.workspace.get? l with
      | some (.program name) => .ok (runKnown n called name args p)
      | some (.file _ content mode) =>
        match interpreter? content with
        | none => .error (if mode.isRunnable then .notProgram else .accessDenied)
        | some (name, argument) =>
          if name.isEmpty || !mode.isRunnable then .error .accessDenied
          else launch n depth name (pathOf name) (argument.toList ++ inward path.text :: args) p
      | _ => .error .accessDenied

/-- Runs the lines of a text that stands on its own. -/
def runText : Nat → List Char → Process → Process
  | 0, _, p => p.stopped
  | n + 1, cs, p => runLines n (cs.count '\n') false cs p

/-- Runs the lines of a script, which are `shown` if that is asked for. -/
def runLines : Nat → (lines : Nat) → (shown : Bool) → List Char → Process → Process
  | 0, _, _, _, p => p.stopped
  | n + 1, lines, shown, cs, p =>
    if p.flow != .running then p
    else
      let told (rest : List Char) : Process :=
        if shown && p.has 'v' then
          p.emit 2 (bytesOf (String.ofList (cs.take (cs.length - rest.length))))
        else p
      match skipLines cs with
      | [] => told []
      | cs =>
        match readLine p.aliases lines cs with
        | .ok (script, rest) => runLines n lines shown rest (run n script (told rest))
        | .error e => { p with line := e.line }.refuse ("Syntax error: " ++ e.message)

end

/-- How long a script may go on. -/
def patience : Nat := 100000

/-- How the program at a path ends in a file system, and the file system after it. -/
def start (w : Workspace) (path : Path) (args : List String) :
    Except SystemFault (Outcome × Workspace) :=
  if args.any fun s => s.contains '\x00' then .error .nulInArgument
  else do
    let called := inward path.text
    let p ← launch patience interpreterDepth called path (args.map inward) (.machine w)
    let status : Option Int := if p.flow == .killed then none else some (p.status % 256 : Nat)
    return (⟨status, p.collected 0, p.collected 1⟩,
      { p.workspace with directory := w.directory })

end DecoderBench.Shell
