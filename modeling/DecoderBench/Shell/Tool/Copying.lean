/-
Tools that copy and move files.

A directory is copied by copying what it holds, one thing after the other, so
that what cannot be copied is left out and all else is there.
-/
import DecoderBench.Shell.Tool.Files

namespace DecoderBench.Shell.Tool

/-- Where a file goes that is put at a path: into it, if it is a directory. -/
def placed (w : Workspace) (source goal : String) : String :=
  if w.kind? (pathOf goal) == some .directory then
    if goal.endsWith "/" then goal ++ lastPart source else goal ++ "/" ++ lastPart source
  else goal

/-- What becomes of a file. -/
inductive Manner
  | copied
  | moved
  /-- It gets a further name. -/
  | named
  /-- A link to it is made. -/
  | linked
  deriving DecidableEq

/-- How files are copied or moved. -/
structure Transfer where
  manner : Manner
  /-- Whether directories are copied. -/
  deep : Bool
  /-- Whether links are followed that are given, and those that are found in directories. -/
  follows : Bool × Bool
  /-- Whether what is there is kept. -/
  careful : Bool
  /-- Whether what is there is removed first. -/
  clears : Bool
  /-- Whether a file keeps its mode, whatever new files do not get. -/
  exact : Bool
  /-- Whether it is told what happens. -/
  told : Bool

/-- Why a file is not copied or moved. -/
inductive TransferFault
  | noSource (e : SystemFault)
  | noGoal (e : SystemFault)
  /-- What is at the goal cannot be looked at. -/
  | hiddenGoal (e : SystemFault)
  | dangling
  | same
  | directoryLeftOut
  /-- A directory would hold itself. -/
  | intoItself
  /-- A directory would take the place of a file. -/
  | overFile
  /-- A file would take the place of a directory. -/
  | overDirectory
  | overFullDirectory
  /-- A link to a path that does not start from the root directory would be elsewhere. -/
  | elsewhere
  /-- The goal takes nothing. -/
  | noRoom

/-- A fault in words, given the paths, and those that the whole is about. -/
def Transfer.complaint (t : Transfer) (whole : String × String) (e : Entry)
    (source there : String) : TransferFault → String
  | .noSource e => "cannot stat " ++ quoted source ++ ": " ++ e.words
  | .hiddenGoal e => "cannot stat " ++ quoted there ++ ": " ++ e.words
  | .noGoal fault =>
    match t.manner, e with
    | .moved, _ => "cannot move " ++ quoted source ++ " to " ++ quoted there ++ ": " ++ fault.words
    | .named, _ =>
      "cannot create hard link " ++ quoted there ++ " to " ++ quoted source ++ ": " ++ fault.words
    | .linked, _ =>
      "cannot create symbolic link " ++ quoted there ++ " to " ++ quoted source ++ ": " ++
        fault.words
    | .copied, .link _ => "cannot create symbolic link " ++ quoted there ++ ": " ++ fault.words
    | .copied, .directory => "cannot create directory " ++ quoted there ++ ": " ++ fault.words
    | .copied, _ => "cannot create regular file " ++ quoted there ++ ": " ++ fault.words
  | .dangling => "not writing through dangling symlink " ++ quoted there
  | .same => quoted source ++ " and " ++ quoted there ++ " are the same file"
  | .directoryLeftOut => "-r not specified; omitting directory " ++ quoted source
  | .intoItself =>
    if t.manner == .moved then
      "cannot move " ++ quoted source ++ " to a subdirectory of itself, " ++ quoted there
    else
      "cannot copy a directory, " ++ quoted whole.1 ++ ", into itself, " ++ quoted whole.2
  | .overFile =>
    "cannot overwrite non-directory " ++ quoted there ++ " with directory " ++ quoted source
  | .overDirectory => "cannot overwrite directory " ++ quoted there ++ " with non-directory"
  | .overFullDirectory => "cannot overwrite " ++ quoted there ++ ": Directory not empty"
  | .noRoom => "error writing " ++ quoted there ++ ": " ++ SystemFault.noSpace.words
  | .elsewhere =>
    shown there ++ ": can make relative symbolic links only in current directory"

namespace Transfer

/-- The location of a source, one that is given or one that is found. -/
def source (t : Transfer) (found : Bool) (w : Workspace) (path : String) :
    Except TransferFault Location :=
  let follows := if found then t.follows.2 else t.follows.1
  (if follows then w.locate (pathOf path) else w.spot (pathOf path)).mapError .noSource

/-- The location where a file goes, with what is there. The content of a file goes where a
link leads. -/
def goal (t : Transfer) (e : Entry) (there : String) (w : Workspace) :
    Except TransferFault (Location × Option Entry) := do
  let own : Except TransferFault (Location × Option Entry) := do
    let l ← (w.target (pathOf there)).mapError fun e =>
      if e == .notFound then .noGoal e else .hiddenGoal e
    return (l, w.get? l)
  let isFile := match e with
    | .directory | .link _ => false
    | _ => true
  if t.manner == .copied && isFile && !t.clears then
    match w.locate (pathOf there) with
    | .ok l => return (l, w.get? l)
    | .error .tooManyLinks => throw (.hiddenGoal .tooManyLinks)
    | .error .notDirectory => throw (.hiddenGoal .notDirectory)
    | .error _ =>
      match ← own with
      | (_, some (.link _)) => throw .dangling
      | x => return x
  else own

/-- Refuses what cannot be at a goal: what is there is another kind of thing, or the same. -/
def allowed (t : Transfer) (w : Workspace) (source there : String) (l : Location) (e : Entry)
    (goal : Location × Option Entry) : Except TransferFault Unit := do
  let through := (w.locate (pathOf source)).toOption
  let isLinkToGoal := (e matches .link _) && !(goal.2 matches some (.link _)) &&
    goal.2.isSome && through.any fun l => w.areSame l goal.1
  if l == goal.1 || isLinkToGoal || (t.manner != .moved && w.areSame l goal.1) then throw .same
  match goal.2 with
  | none =>
    if there.endsWith "/" && e != .directory then throw (.noGoal .notDirectory)
  | some .directory =>
    if e != .directory then throw .overDirectory
    else if t.manner == .moved && !(w.names goal.1).isEmpty then throw .overFullDirectory
  | some _ =>
    if e == .directory then throw .overFile
    else if there.endsWith "/" then throw (.noGoal .notDirectory)

/-- The file system after something that is no directory was put somewhere. -/
def deliver (t : Transfer) (p : Process) (source there : String) (e : Entry)
    (goal : Location × Option Entry) : Except TransferFault Workspace := do
  let w := if t.clears && goal.2.isSome then p.workspace.remove goal.1 else p.workspace
  let before := if t.clears then none else goal.2
  let write (content : List UInt8) (mode : Mode) : Except TransferFault Workspace :=
    let allowed := if t.exact then mode else mode.without p.mask
    match before with
    | some (.file n _ own) =>
      .ok (w.put goal.1 (.file n content (if t.exact then allowed else own)))
    | some (.device .full) => if content.isEmpty then .ok w else .error .noRoom
    | some (.device _) => .ok w
    | some (.program _) => .error (.noGoal .accessDenied)
    | _ => .ok (w.put goal.1 (.file w.fresh content allowed))
  match t.manner, e with
  | .linked, _ =>
    if !source.startsWith "/" && (there.splitOn "/").length != 1 then throw .elsewhere
    else if before.isSome then throw (.noGoal .alreadyThere)
    else return w.put goal.1 (.link (outward source))
  | .named, e => if before.isSome then throw (.noGoal .alreadyThere) else return w.put goal.1 e
  | _, .link path => return (w.remove goal.1).put goal.1 (.link path)
  | _, .file _ content mode => write content mode
  | _, .program _ => write [] .runnable
  | _, _ => write [] .usual

/-- Says that something went somewhere, where that is wanted. -/
def tell (t : Transfer) (source there : String) (p : Process) : Process :=
  if t.told then
    p.say ((if t.manner == .moved then "renamed " else "") ++ quoted source ++ " -> " ++
      quoted there)
  else p

/-- Moves something to a path. -/
def moveOne (t : Transfer) (source there : String) (l : Location) (e : Entry) (p : Process) :
    Except TransferFault Process := do
  let w := p.workspace
  let goal ← t.goal e there w
  t.allowed w source there l e goal
  if e == .directory && l.isPrefixOf goal.1 then throw .intoItself
  if source.endsWith "/" && (w.target (pathOf source)).toOption != some l then
    throw (.noGoal .notDirectory)
  let isOther := (w.get? goal.1).any e.isSame
  return t.tell source there
    { p with workspace := if isOther then w.remove l else w.move l goal.1 }

/-- Copies something to a path, and all that it holds, given the directories that were made
so far. -/
def copyOne (t : Transfer) (name : String) (whole : String × String) :
    Nat → (found : Bool) → (source there : String) → (made : List Location) → Process → Process
  | 0, _, _, _, _, p => p
  | n + 1, found, source, there, made, p =>
    let complain (e : Entry) (f : TransferFault) : Process :=
      fails p (name ++ ": " ++ t.complaint whole e source there f) 1
    match t.source found p.workspace source with
    | .error f => complain .directory f
    | .ok l =>
      let e := (p.workspace.get? l).getD .directory
      match t.goal e there p.workspace with
      | .error f => complain e f
      | .ok goal =>
        if e == .directory && !t.deep then complain e .directoryLeftOut
        else if e == .directory && made.contains l then complain e .intoItself
        else
          match t.allowed p.workspace source there l e goal with
          | .error f => complain e f
          | .ok () =>
            if e == .directory then
              let w := p.workspace
              let isNew := goal.2.isNone
              let q := if isNew then
                  t.tell source there { p with workspace := w.put goal.1 .directory }
                else p
              let below (path name : String) : String :=
                if path.endsWith "/" then path ++ name else path ++ "/" ++ name
              (q.workspace.names l).foldl (fun q s =>
                t.copyOne name whole n true (below source (inward s)) (below there (inward s))
                  (if isNew then goal.1 :: made else made) q) q
            else
              match t.deliver p source there e goal with
              | .error f => complain e f
              | .ok w => t.tell source there { p with workspace := w }

/-- Copies what comes from a descriptor, or goes to one. -/
def copyStream (t : Transfer) (name source there : String) (p : Process) : Process :=
  let complain (f : TransferFault) : Process :=
    fails p (name ++ ": " ++ t.complaint (source, there) (.device .null) source there f) 1
  match p.contents source with
  | .error e => complain (.noSource e)
  | .ok bs =>
    match (p.after source).fill there bs with
    | .ok q => t.tell source there q
    | .error e => complain (.noGoal e)

/-- Copies or moves something to a path, or complains. -/
def perform (t : Transfer) (name source there : String) (p : Process) : Process :=
  if t.manner == .copied && [source, there].any fun s => (Process.descriptorAt? s).isSome then
    t.copyStream name source there p
  else if t.careful && (p.workspace.named? (pathOf there)).isSome then p
  else if t.manner == .moved then
    match t.source false p.workspace source with
    | .error f => fails p (name ++ ": " ++ t.complaint (source, there) .directory source there f) 1
    | .ok l =>
      let e := (p.workspace.get? l).getD .directory
      match t.moveOne source there l e p with
      | .ok q => q
      | .error f => fails p (name ++ ": " ++ t.complaint (source, there) e source there f) 1
  else t.copyOne name (source, there) 256 false source there [] p

/-- How the options of a tool that copies or moves ask for it. -/
def ofOptions (moving : Bool) (options : Options) : Transfer :=
  let given := options.given
  let deep := given 'r' || given 'R' || given 'a'
  let follows := options.foldl (fun follows o =>
    match o.1 with
    | 'L' => some (true, true)
    | 'H' => some (true, false)
    | 'P' | 'd' | 'a' => some (false, false)
    | _ => follows) none
  { manner :=
      if moving then .moved
      else if given 'l' then .named
      else if given 's' then .linked
      else .copied
    deep
    follows :=
      if moving then (false, false) else follows.getD (!deep || given 'l', !deep || given 'l')
    careful := given 'n'
    clears := given 'ρ' || (given 'f' && (given 'l' || given 's'))
    exact := given 'p' || given 'a'
    told := given 'v' }

end Transfer

/-- Copies or moves files to a file, or into a directory. -/
def transferTool (moving : Bool) : Tool :=
  let g : Grammar :=
    { flags := "rRfpavniuHLPdTxπρls", valued := "t",
      long := [("archive", 'a'), ("dereference", 'L'), ("force", 'f'), ("link", 'l'),
        ("no-clobber", 'n'), ("no-dereference", 'P'), ("no-target-directory", 'T'),
        ("parents", 'π'), ("recursive", 'r'), ("remove-destination", 'ρ'),
        ("symbolic-link", 's'), ("target-directory", 't'), ("update", 'u'), ("verbose", 'v')] }
  withOptions g fun name options operands p =>
    let within? := options.last? 't'
    let operands := operands ++ within?.toList
    let t := Transfer.ofOptions moving options
    match operands.getLast? with
    | none => misuse name "missing file operand" 1 p
    | some goal =>
      let isDirectory := p.workspace.kind? (pathOf goal) == some .directory
      if operands.length < 2 then
        misuse name ("missing destination file operand after " ++ quoted goal) 1 p
      else if 2 < operands.length && options.given 'T' then
        misuse name ("extra operand " ++ quoted ((operands[2]?).getD "")) 1 p
      else if (2 < operands.length || within?.isSome) && !isDirectory then
        let e : SystemFault :=
          if (p.workspace.find? (pathOf goal)).isNone then .notFound else .notDirectory
        fails p (name ++ (if within?.isSome then ": target directory " else ": target ") ++
          quoted goal ++ ": " ++ e.words) 1
      else if options.given 'π' && !isDirectory then
        misuse name "with --parents, the destination must be a directory" 1 p
      else
        forEach (fun p source =>
          if options.given 'T' then t.perform name source goal p
          else if options.given 'π' then
            let there := goal ++ "/" ++ source
            let p := (stages there).dropLast.foldl (fun p s =>
              ((madeDirectory false name false s p).toOption).getD p) p
            t.perform name source there p
          else t.perform name source (placed p.workspace source goal) p) operands.dropLast p

end DecoderBench.Shell.Tool
