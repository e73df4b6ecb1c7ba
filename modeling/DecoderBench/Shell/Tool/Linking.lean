/-
The tool that gives files further names.
-/
import DecoderBench.Shell.Tool.Copying

namespace DecoderBench.Shell.Tool

/-- How files get further names. -/
structure Naming where
  /-- Whether the name leads on to a path. -/
  soft : Bool
  /-- Whether links are followed before they get a name. -/
  follows : Bool
  /-- Whether what is there is removed. -/
  clears : Bool
  told : Bool

/-- Why a file gets no further name. -/
inductive NamingFault
  | noSource (e : SystemFault)
  | sourceDirectory
  | hiddenGoal (e : SystemFault)
  | overDirectory
  | same
  | noGoal (e : SystemFault)

/-- A fault in words, given the paths. -/
def Naming.complaint (n : Naming) (source there : String) : NamingFault → String
  | .noSource e => "failed to access " ++ quoted source ++ ": " ++ e.words
  | .sourceDirectory => shown source ++ ": hard link not allowed for directory"
  | .hiddenGoal e => "failed to access " ++ quoted there ++ ": " ++ e.words
  | .overDirectory => shown there ++ ": cannot overwrite directory"
  | .same => quoted source ++ " and " ++ quoted there ++ " are the same file"
  | .noGoal e =>
    let arrow :=
      if n.soft then (if e == .nameTooLong || source.isEmpty then some " -> " else none)
      else if e == .alreadyThere then none
      else some " => "
    "failed to create " ++ (if n.soft then "symbolic" else "hard") ++ " link " ++ quoted there ++
      (arrow.elim "" (· ++ quoted source)) ++ ": " ++ e.words

/-- The file system after a file got a further name. -/
def Naming.apply (n : Naming) (source there : String) (w : Workspace) :
    Except NamingFault Workspace := do
  let file? : Option Entry ←
    if n.soft then pure none
    else do
      let l ← ((if n.follows then w.locate else w.spot) (pathOf source)).mapError .noSource
      let e := (w.get? l).getD .directory
      if e == .directory then throw .sourceDirectory
      pure (some e)
  let goal := w.target (pathOf there)
  let w ←
    match goal with
    | .error e => if n.clears && e != .notFound then throw (.hiddenGoal e) else pure w
    | .ok l =>
      if n.clears && (w.get? l).isSome then
        let source? := if n.soft then w.locate (pathOf source) else w.spot (pathOf source)
        if w.isDirectory l then throw .overDirectory
        if source?.toOption == some l || (source?.toOption.any fun l' =>
            w.areSame l l' && ((w.get? l).map w.nameCount) == some 1) then
          throw .same
        pure (w.remove l)
      else pure w
  let l ← goal.mapError .noGoal
  if n.soft && source.isEmpty then throw (.noGoal .notFound)
  if (w.get? l).isSome then throw (.noGoal .alreadyThere)
  if there.endsWith "/" then throw (.noGoal .notFound)
  return w.put l (file?.getD (.link (outward source)))

/-- Gives a file a further name, and says so or complains. -/
def Naming.perform (n : Naming) (name source there : String) (p : Process) : Process :=
  match n.apply source there p.workspace with
  | .ok w =>
    let p := { p with workspace := w }
    if n.told then
      p.say (quoted there ++ (if n.soft then " -> " else " => ") ++ quoted source)
    else p
  | .error f => fails p (name ++ ": " ++ n.complaint source there f) 1

/-- Gives files further names. -/
def ln : Tool :=
  let g : Grammar :=
    { flags := "dFfiLnPsTv", valued := "St",
      long := [("directory", 'd'), ("force", 'f'), ("interactive", 'i'), ("logical", 'L'),
        ("no-dereference", 'n'), ("no-target-directory", 'T'), ("physical", 'P'),
        ("suffix", 'S'), ("symbolic", 's'), ("target-directory", 't'),
        ("verbose", 'v')] }
  withOptions g fun name options operands p =>
    let given := options.given
    let n : Naming :=
      { soft := given 's'
        follows := options.foldl (fun b o =>
          if o.1 == 'L' then true else if o.1 == 'P' then false else b) false
        clears := given 'f', told := given 'v' }
    let w := p.workspace
    let isDirectory (s : String) : Bool :=
      w.kind? (pathOf s) == some .directory &&
        !(given 'n' && (w.named? (pathOf s)).any fun e => e matches .link _)
    let within (directory s : String) : String :=
      (if directory.endsWith "/" then directory else directory ++ "/") ++ lastPart s
    let all (directory : String) (sources : List String) : Process :=
      forEach (fun p s => n.perform name s (within directory s) p) sources p
    let noDirectory (s : String) : Process :=
      fails p (name ++ ": target " ++ quoted s ++ ": " ++
        (if (w.find? (pathOf s)).isNone then SystemFault.notFound
          else SystemFault.notDirectory).words) 1
    match operands, options.last? 't' with
    | [], _ => misuse name "missing file operand" 1 p
    | sources, some directory =>
      if given 'T' then
        fails p (name ++ ": cannot combine --target-directory and --no-target-directory") 1
      else
        match w.kind? (pathOf directory), w.locate (pathOf directory) with
        | some .directory, _ => all directory sources
        | _, .error e =>
          fails p (name ++ ": failed to access " ++ quoted directory ++ ": " ++ e.words) 1
        | _, .ok _ =>
          fails p (name ++ ": target " ++ quoted directory ++ " is not a directory") 1
    | sources, none =>
      let goal := sources.getLastD ""
      if given 'T' then
        match sources with
        | [source, there] => n.perform name source there (p.ends 0)
        | [source] => misuse name ("missing destination file operand after " ++ quoted source) 1 p
        | _ => misuse name ("extra operand " ++ quoted ((sources[2]?).getD "")) 1 p
      else
        match sources with
        | [source] => all "." [source]
        | [source, there] =>
          if isDirectory there then all there [source] else n.perform name source there (p.ends 0)
        | sources =>
          if isDirectory goal then all goal sources.dropLast else noDirectory goal

end DecoderBench.Shell.Tool
