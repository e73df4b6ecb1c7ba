/-
The commands of the shell that say how it goes on: its end, its loops, its
signals, and the processes beside it.
-/
import DecoderBench.Shell.Builtin
import DecoderBench.Shell.Signal

namespace DecoderBench.Shell.Builtin

/-! ## Ending -/

/-- The number in an argument, or another one if there is none. -/
def count (other : Nat) (args : List String) : Except String Nat :=
  match args with
  | [] => .ok other
  | s :: _ =>
    match number? s with
    | some n => .ok n
    | none => .error s

/-- Ends the shell. -/
def exit : Tool := fun _ args p =>
  match count p.status args with
  | .ok n => p.exits (n % 256)
  | .error s => illegal p s

/-- Ends a function. -/
def giveBack : Tool := fun _ args p =>
  match count p.status args with
  | .ok n => { p with status := n, flow := .returning }
  | .error s => illegal p s

/-- Leaves loops. -/
def leave (flow : Nat → Flow) : Tool := fun _ args p =>
  match count 1 args with
  | .ok 0 => illegal p "0"
  | .ok n => if p.loops == 0 then p.ends 0 else { p with status := 0, flow := flow (min n p.loops) }
  | .error s => illegal p s

/-! ## Signals -/

/-- Sends a signal to the shell. -/
def receive (p : Process) (s : Signal) : Process :=
  match (if s.number == 9 then none else p.traps.lookup s.name) with
  | some script => { p with status := 0, pending := p.pending ++ [script] }
  | none =>
    if s.number == 0 || s.isHarmless || p.ignored.contains s.name then p.ends 0
    else { p with status := 128 + s.number, flow := .killed }

/-- Sends a signal to a process beside the shell, which ends it unless it has been waited
for. -/
def receiveBeside (p : Process) (s : Signal) (pid : Nat) : Process :=
  { p with
    status := 0,
    jobs := p.jobs.map fun j =>
      if j.1 == pid && j.2.2.isNone && !s.isHarmless && s.number != 0 then
        (pid, 128 + s.number, some s.words)
      else j }

/-- The process beside the shell that a text with a percent sign names. -/
def job? (p : Process) (s : String) : Option (Nat × Nat × Option String) :=
  match s.toList with
  | ['%', '%'] => p.jobs.head?
  | ['%', '+'] => p.jobs.head?
  | ['%'] => p.jobs.head?
  | ['%', '-'] => p.jobs[1]?
  | '%' :: ds => (Process.count? (String.ofList ds)).bind fun n =>
    if n == 0 then none else p.jobs.reverse[n - 1]?
  | _ => none

/-- How signals are sent. -/
def killUsage : String :=
  "Usage: kill [-s sigspec | -signum | -sigspec] [pid | job]... or\nkill -l [exitstatus]"

/-- Sends a signal to processes. -/
def signalTo (p : Process) (s : Signal) (ids : List String) : Process :=
  if ids.isEmpty then p.refuse killUsage
  else
    let sent := ids.foldl (fun (x : Process × Bool) id =>
      let (p, failed) := x
      if p.flow != .running then x
      else if id.startsWith "%" then
        match job? p id with
        | some j => (receiveBeside p s j.1, failed)
        | none => (p.refuse ("No such job: " ++ id), failed)
      else
        let digits := if id.startsWith "-" then (id.drop 1).toString else id
        match number? digits with
        | none => (illegal p digits, failed)
        | some n =>
          if n == Process.number || n == 0 then (receive p s, failed)
          else if (p.jobs.lookup n).isSome then (receiveBeside p s n, failed)
          else (p.object "No such process\n", true)) (p.ends 0, false)
    if sent.2 && sent.1.flow == .running then sent.1.ends 1 else sent.1

/-- Lists signals, or names those that ended processes. -/
def listSignals (args : List String) (p : Process) : Process :=
  match args with
  | [] => ((("0" :: Signal.all.map (·.name)).foldl Process.say p)).ends 0
  | s :: _ =>
    match number? s with
    | none => illegal p s
    | some n =>
      match Signal.all.find? (·.number == (if 128 < n then n - 128 else n)) with
      | some signal => (p.say signal.name).ends 0
      | none => p.refuse ("invalid signal number or exit status: " ++ s)

/-- Sends a signal to processes, or lists signals. -/
def kill : Tool := fun _ args p =>
  let named (s : String) : Option Signal :=
    if s.startsWith "-" then Signal.ofName? (s.drop 1).toString else none
  match args with
  | [] => p.refuse killUsage
  | arg :: rest =>
    match named arg with
    | some s => signalTo p s rest
    | none =>
      match sortOut "l" "s" args with
      | .error e => p.refuse e
      | .ok (options, ids) =>
        match options.last? 's' with
        | some s =>
          match Signal.ofName? s with
          | some signal => signalTo p signal ids
          | none => p.refuse ("invalid signal number or name: " ++ s)
        | none => if options.given 'l' then listSignals ids p else signalTo p .terminate ids

/-- Says what signals do. -/
def trap : Tool := withOptions "" "" fun _ args p =>
  let without (p : Process) (s : String) : Process :=
    { p with traps := p.traps.filter (·.1 != s) }
  match args with
  | [] =>
    let tell (p : Process) (s : Signal) : Process :=
      match p.traps.lookup s.name with
      | some action => p.say ("trap -- " ++ quoted action ++ " " ++ s.name)
      | none => p
    ((Signal.exit :: Signal.all).foldl tell p).ends 0
  | action :: signals =>
    let resets := signals.isEmpty || (Process.count? action).any fun n => n ≤ 64
    let (action?, signals) :=
      if resets then (none, action :: signals)
      else if action == "-" then (none, signals)
      else (some action, signals)
    let done := signals.foldl (fun (x : Process × Bool) s =>
      let (p, on) := x
      if !on then x
      else
        match Signal.ofName? s with
        | none => ((p.complain ("trap: " ++ s ++ ": bad trap")).ends 1, false)
        | some signal =>
          let q := without p signal.name
          (action?.elim q fun action => { q with traps := (signal.name, action) :: q.traps }, true))
      (p.ends 0, true)
    done.1

/-! ## Processes beside the shell -/

/-- Waits for processes. -/
def wait : Tool := withOptions "" "" fun _ args p =>
  if args.isEmpty then p.ends 0
  else
    forEach (fun p s =>
      let wait (j : Nat × Nat × Option String) : Process :=
        (j.2.2.elim p p.complain).ends j.2.1
      if s.startsWith "%" then
        match job? p s with
        | some j => wait j
        | none => p.refuse ("No such job: " ++ s)
      else
        match number? s with
        | none => illegal p s
        | some n => (p.jobs.find? (·.1 == n)).elim (p.ends 127) wait) args p

/-- Does nothing, since no process is stopped. -/
def resume : Tool := fun _ _ p => p.refuse "No current job"

end DecoderBench.Shell.Builtin
