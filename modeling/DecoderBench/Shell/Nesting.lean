/-
Shells within shells, and the programs that shells start: what each sees of the
one around it, and what is left of it afterwards.
-/
import DecoderBench.Shell.Builtin.Directory
import DecoderBench.Shell.Builtin.Flow
import DecoderBench.Shell.Builtin.Line
import DecoderBench.Shell.Builtin.Variables
import DecoderBench.Shell.Redirect
import DecoderBench.Shell.Signal
import DecoderBench.Shell.Tools

namespace DecoderBench.Shell

namespace Process

/-! ## Shells within shells -/

/-- Stops a shell that has gone on for too long. -/
def stopped (p : Process) : Process := { p with flow := .killed, status := 137 }

/-- A shell within another one, which shares with it the traps for what it ignores only. -/
def nested (p : Process) : Process :=
  { p with traps := p.traps.filter (·.2.isEmpty), pending := [] }

/-- The shell again after one within it has ended: what was written stays, and all else is
as it was. -/
def regain (p q : Process) : Process :=
  { p with
    workspace := { q.workspace with directory := p.workspace.directory },
    streams := q.streams.take p.streams.length,
    status := q.status % 256,
    flow := if q.flow == .killed then .killed else p.flow }

/-- The shell again after a program that it started has ended. It says so if a signal ended
that. -/
def reap (p q : Process) : Process :=
  let r := { p.regain q with flow := p.flow }
  if q.flow == .killed then
    match Signal.ofStatus? r.status with
    | some s => r.complain s.words
    | none => r
  else r

/-! ## Programs -/

/-- A program that the shell starts. It sees only the variables that it is to see. -/
def child (p : Process) (name : String) (arguments : List String) : Process where
  workspace := p.workspace
  streams := p.streams
  descriptors := p.descriptors
  bindings := p.bindings.filter fun x => p.exported.contains x.1
  exported := p.exported
  mask := p.mask
  ignored := p.ignored ++ (p.traps.filter (·.2.isEmpty)).map (·.1)
  name := name
  arguments := arguments

/-- The variables of a shell that have values whoever starts it. -/
def usualBindings : List (String × String) :=
  [("PATH", "/usr/local/sbin:/usr/local/bin:/usr/sbin:/usr/bin:/sbin:/bin"), ("PS1", "# "),
    ("PS2", "> "), ("PS4", "+ ")]

/-- A program that is a shell. -/
def freshShell (p : Process) (name : String) (arguments : List String) : Process :=
  let q := p.child name arguments
  let usual := usualBindings.filter fun x => (q.bindings.lookup x.1).isNone
  let place := (q.bindings.lookup "PWD").filter fun s =>
    s.startsWith "/" && (q.workspace.locate (pathOf s)).toOption == some q.workspace.directory
  let q := { q with bindings := q.bindings ++ usual, exported := "PWD" :: q.exported, place }
  [("IFS", " \t\n"), ("OPTIND", "1"), ("PPID", toString parentNumber),
    ("PWD", q.here)].foldl (fun q x => q.bind x.1 x.2) q

/-- The machine as it is when nothing runs yet. -/
def machine (w : Workspace) : Process where
  workspace := w
  bindings := usualBindings.take 1 ++ [("HOME", "/root")]
  exported := ["PATH", "HOME"]

/-! ## Around commands -/

/-- Gives variables the values of assignments. -/
def assignAll (p : Process) (values : List (String × String)) : Process :=
  values.foldl (fun p x => if p.flow == .running then p.assign x.1 x.2 else p) p

/-- Gives variables the values of assignments for the time of one command, and lets
programs see them. -/
def lend (p : Process) (values : List (String × String)) : Process :=
  { p.assignAll values with exported := values.map (·.1) ++ p.exported }

/-- Takes back what was lent. -/
def takeBack (p q : Process) (values : List (String × String)) : Process :=
  let names := values.map (·.1)
  { values.foldl (fun q x => q.restore x.1 (p.bindings.lookup x.1)) q with
    exported := q.exported.filter fun s => p.exported.contains s || !names.contains s }

/-- The shell after a command that has written to a closed descriptor, which is an error. -/
def reported (p : Process) (complaint : String) : Process :=
  if p.broken then { p.object complaint with status := 1, broken := false } else p

/-- Whether a loop goes on, after its body has run. -/
def loopOn (p : Process) : Bool × Process :=
  match p.flow with
  | .running => (true, p)
  | .breaking n => (false, { p with flow := if n ≤ 1 then .running else .breaking (n - 1) })
  | .continuing n =>
    if n ≤ 1 then (true, { p with flow := .running })
    else (false, { p with flow := .continuing (n - 1) })
  | _ => (false, p)

end Process

/-! ## Commands without a script -/

namespace Builtin

/-- The commands of the shell that need no script to be run, by their names. -/
def all : List (String × Tool) :=
  [(":", Tool.ending 0), ("alias", abbreviate), ("bg", resume), ("break", leave .breaking),
    ("cd", cd), ("chdir", cd), ("continue", leave .continuing), ("exit", exit), ("export", publish),
    ("fg", resume), ("getopts", getopts), ("hash", hash), ("jobs", Tool.ending 0), ("kill", kill),
    ("local", keep), ("pwd", pwd), ("read", read), ("readonly", fix), ("return", giveBack),
    ("set", set), ("shift", shift), ("times", times), ("trap", trap), ("type", type),
    ("ulimit", ulimit), ("umask", umask), ("unalias", unalias), ("unset", unset),
    ("wait", wait)] ++ Tool.own

end Builtin

/-! ## Arguments of shells -/

/-- Where a shell's script comes from. -/
inductive ScriptSource
  /-- An argument is the script. -/
  | argument
  /-- The input is the script. -/
  | input
  /-- A file is the script, if one is named. -/
  | file

/-- The source of a script that the letters of options ask for. -/
def ScriptSource.of (letters : List Char) (other : ScriptSource) : ScriptSource :=
  if letters.contains 'c' then .argument else if letters.contains 's' then .input else other

/-- The arguments of a shell: the options, where its script comes from, and what follows. -/
def shellOptions (p : Process) :
    List String → Except String (Process × ScriptSource × List String)
  | [] => .ok (p, .file, [])
  | arg :: args =>
    match arg.toList with
    | ['-'] => .ok (p, .file, args)
    | ['-', '-'] => .ok (p, .file, args)
    | sign :: c :: cs =>
      if sign != '-' && sign != '+' then .ok (p, .file, arg :: args)
      else do
        let letters := (c :: cs).filter fun c => c != 'c' && c != 'l' && c != 'o'
        let p ← Builtin.switchAll p (sign == '-') letters
        match (c :: cs).contains 'o', args with
        | true, name :: args =>
          let p ← Builtin.switchNamed p (sign == '-') (some name)
          let (p, source, args) ← shellOptions p args
          return (p, .of (c :: cs) source, args)
        | _, args =>
          let (p, source, args) ← shellOptions p args
          return (p, .of (c :: cs) source, args)
    | _ => .ok (p, .file, arg :: args)

end DecoderBench.Shell
