/-
Redirections: which stream a descriptor leads to for the time of a command.
-/
import DecoderBench.Shell.Process

namespace DecoderBench.Shell

/-- A fault of a redirection, in the words that end a complaint about it. -/
def openingFault (otherwise : String) : SystemFault → String
  | .notFound => otherwise
  | .notDirectory => otherwise
  | e => e.words

namespace Process

/-- Opens a file to read from. -/
def openToRead (p : Process) (path : String) : Except SystemFault Stream := do
  match p.workspace.get? (← p.workspace.locate (pathOf path)) with
  | some (.device .null) => return .sink
  | some (.device d) => return .given (Workspace.Device.content d)
  | some (.file number _ _) => return .file number 0 true false false
  | some .directory => return .directory
  | _ => return .given []

/-- Opens a file to write to, which is empty then unless what it holds is to be kept. -/
def openToWrite (p : Process) (kind : Redirection) (path : String) :
    Except SystemFault (Process × Stream) := do
  let keeps := kind matches .append | .readWrite
  let found := p.workspace.find? (pathOf path)
  if kind matches .write && p.has 'C' then
    let isTaken :=
      if found.isSome then p.workspace.kind? (pathOf path) == some .file
      else (p.workspace.named? (pathOf path)).isSome
    if isTaken then throw .alreadyThere
  let before :=
    match found with
    | some (.file _ content _) => if keeps then content else []
    | _ => []
  let p ← p.fill path before
  match p.workspace.find? (pathOf path) with
  | some (.file number _ _) =>
    return (p, .file number 0 (kind matches .readWrite) true (kind matches .append))
  | some (.device .full) => return (p, .full)
  | _ => return (p, .sink)

/-- Opens what is at a path on a descriptor. A file that is open already under that path is
opened anew. -/
def openOn (p : Process) (d : Nat) (kind : Redirection) (path : String) :
    Except SystemFault Process :=
  match descriptorAt? path with
  | some m =>
    match p.openFile? m, p.stream? m with
    | some number, _ =>
      let w := if kind matches .write | .replace then p.workspace.fill number [] else p.workspace
      .ok ({ p with workspace := w }.direct d
        (.file number 0 (kind matches .read | .readWrite) (!kind matches .read)
          (kind matches .append)))
    | none, some (k, _) => .ok (p.share d k)
    | none, none => .error .notFound
  | none =>
    if kind matches .read then (p.openToRead path).map (p.direct d)
    else (p.openToWrite kind path).map fun x => x.1.direct d x.2

/-- Carries out one redirection, of which the target is known. -/
def redirectTo (p : Process) (d : Nat) (kind : Redirection) (s : String) : Except String Process :=
  match kind with
  | .document => .ok (p.direct d (.given (bytesOf s)))
  | .duplicate =>
    if s == "-" then .ok (p.close d)
    else
      match count? s with
      | none => .ok (p.refuse "Syntax error: Bad fd number")
      | some m =>
        if s.length != 1 then .ok (p.refuse "Syntax error: Bad fd number")
        else
          match p.stream? m with
          | some (k, _) => .ok (p.share d k)
          | none => .error (s ++ ": Bad file descriptor")
  | kind =>
    (p.openOn d kind s).mapError fun e =>
      if kind matches .read then "cannot open " ++ s ++ ": " ++ openingFault "No such file" e
      else "cannot create " ++ s ++ ": " ++ openingFault "Directory nonexistent" e

/-- The shell without the streams that no descriptor leads to any more, but for some that
come first. -/
def trimmed (p : Process) (least : Nat) : Process :=
  let used := (p.descriptors.map fun x => x.2 + 1).foldl max least
  { p with streams := p.streams.take used }

/-- The shell after a command with redirections of its own: what they were about leads again
to where it did. -/
def redirected (p q : Process) (redirects : List Redirect) : Process :=
  let own := redirects.map fun
    | .mk d _ _ => d
  let before := p.descriptors.filter fun (x : Nat × Nat) => own.contains x.1
  let others := q.descriptors.filter fun (x : Nat × Nat) => !own.contains x.1
  { q with descriptors := before ++ others }.trimmed p.streams.length

end Process
end DecoderBench.Shell
