/-
The tool that changes what users may do with files.
-/
import DecoderBench.Shell.ModeChange
import DecoderBench.Shell.Tool.Files

namespace DecoderBench.Shell.Tool

/-- A mode in words: its number and its letters. -/
def modeText (m : Mode) : String :=
  "0" ++ String.ofList (Nat.toDigits 8 (512 + m.number)).tail ++ " (" ++ String.ofList m.letters ++
    ")"

/-- Says what became of the mode of a file, where that is wanted. -/
def tellMode (always changes : Bool) (path : String) (before after : Mode) (p : Process) :
    Process :=
  if before == after then
    if always then p.say ("mode of " ++ quoted path ++ " retained as " ++ modeText before) else p
  else if always || changes then
    p.say ("mode of " ++ quoted path ++ " changed from " ++ modeText before ++ " to " ++
      modeText after)
  else p

/-- Changes what users may do with files. -/
def chmod : Tool := fun name args p =>
  let isOption (s : String) : Bool :=
    s.startsWith "--" || (s.startsWith "-" && 1 < s.length &&
      (s.toList.drop 1).all ("RvcfhHLP".toList.contains ·))
  let given (c : Char) (long : String) : Bool :=
    args.any fun s => isOption s && if s.startsWith "--" then s == "--" ++ long else s.contains c
  match args.filter (!isOption ·) with
  | [] => misuse name "missing operand" 1 p
  | [change] => misuse name ("missing operand after " ++ cited change) 1 p
  | change :: files =>
    if (ModeChange.result? p.mask change .full).isNone then
      misuse name ("invalid mode: " ++ cited change) 1 p
    else
      forEach (fun p s =>
        let quiet := given 'f' "silent" || given 'f' "quiet"
        let w := p.workspace
        match w.locate (pathOf s) with
        | .error e =>
          let dangling := e == .notFound && (w.named? (pathOf s)).isSome
          if quiet then p.ends 1
          else if dangling then
            fails p (name ++ ": cannot operate on dangling symlink " ++ quoted s) 1
          else fails p (name ++ ": cannot access " ++ quoted s ++ ": " ++ e.words) 1
        | .ok l =>
          (if given 'R' "recursive" then thingsBelow w 256 s l else [(s, l)]).foldl (fun p x =>
            match p.workspace.get? x.2 with
            | some (.file n content mode) =>
              let after := (ModeChange.result? p.mask change mode).getD mode
              tellMode (given 'v' "verbose") (given 'c' "changes") x.1 mode after
                { p with workspace := p.workspace.put x.2 (.file n content after) }
            | _ => p) p) files p

end DecoderBench.Shell.Tool
