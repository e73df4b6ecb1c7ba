/-
Tools that change files and directories.
-/
import DecoderBench.Shell.Tool.Paths

namespace DecoderBench.Shell.Tool

/-! ## Directories -/

/-- All directories on the way to a path, and itself. -/
def stages (s : String) : List String :=
  let parts := s.splitOn "/"
  ((List.range parts.length).map fun k => "/".intercalate (parts.take (k + 1))).filter
    fun t => !t.isEmpty && !t.endsWith "/"

/-- A directory that is to be there: what is wrong with it, or a process where it is. -/
def madeDirectory (told : Bool) (name : String) (last : Bool) (s : String) (p : Process) :
    Except SystemFault Process :=
  match p.workspace.kind? (pathOf s), p.workspace.locate (pathOf s) with
  | some .directory, _ => .ok p
  | some _, _ => .error (if last then .alreadyThere else .notDirectory)
  | none, .error .tooManyLinks => .error .tooManyLinks
  | none, _ =>
    (p.workspace.makeDirectory (pathOf s)).map fun w =>
      let p := { p with workspace := w }
      if told then p.say (name ++ ": created directory " ++ quoted s) else p

/-- Creates directories. -/
def mkdir : Tool :=
  let g : Grammar :=
    { flags := "pv", valued := "m", long := [("parents", 'p'), ("mode", 'm'), ("verbose", 'v')] }
  withOptions g fun name options operands p =>
    let told := options.given 'v'
    let failed (p : Process) (s : String) (e : SystemFault) : Process :=
      let verb := if e == .tooManyLinks then ": cannot stat " else ": cannot create directory "
      fails p (name ++ verb ++ quoted s ++ ": " ++ e.words) 1
    let isMode (s : String) : Bool :=
      s.toList.all (fun c => '0' ≤ c && c ≤ '7') || s.contains '=' || s.contains '+' ||
        s.contains '-'
    if operands.isEmpty then misuse name "missing operand" 1 p
    else if (options.last? 'm').any (!isMode ·) then
      fails p (name ++ ": invalid mode " ++ cited ((options.last? 'm').getD "")) 1
    else
      forEach (fun p s =>
        if options.given 'p' then
          let all := if s.isEmpty then [s] else stages s
          let r := all.foldl (fun (r : Process × Bool) t =>
            if r.2 then r
            else
              match madeDirectory told name (some t == all.getLast?) t r.1 with
              | .ok p => (p, false)
              | .error e => (failed r.1 t e, true)) (p, false)
          r.1
        else
          match p.workspace.makeDirectory (pathOf s) with
          | .ok w =>
            let p := { p with workspace := w }
            if told then p.say (name ++ ": created directory " ++ quoted s) else p
          | .error e =>
            fails p (name ++ ": cannot create directory " ++ quoted s ++ ": " ++ e.words) 1)
        operands p

/-- Removes empty directories. -/
def rmdir : Tool :=
  let g : Grammar :=
    { flags := "pvι",
      long := [("ignore-fail-on-non-empty", 'ι'), ("parents", 'p'), ("verbose", 'v')] }
  withOptions g fun name options operands p =>
    if operands.isEmpty then misuse name "missing operand" 1 p
    else
      let occupied := SystemFault.other "Directory not empty"
      let removed (s : String) (w : Workspace) : Except SystemFault Workspace := do
        let l ← w.target (pathOf s)
        let isLink := (w.get? l).any fun e => e matches .link _
        let bare := String.ofList (Text.dropTrailing (· == '/') s.toList)
        let kind := w.kind? (pathOf bare)
        if (w.get? l).isNone then throw .notFound
        else if (s.splitOn "/").getLast? == some "." then throw (.other "Invalid argument")
        else if !w.isDirectory l then
          throw (if isLink && s.endsWith "/" && (kind.isNone || kind == some .directory) then
              .other "Symbolic link not followed"
            else .notDirectory)
        else if !(w.names l).isEmpty then throw occupied
        else return w.remove l
      forEach (fun p s =>
        let all := if options.given 'p' then (stages s).reverse else [s]
        let r := all.foldl (fun (r : Process × Bool) t =>
          if r.2 then r
          else
            let p := if options.given 'v' then
                r.1.say (name ++ ": removing directory, " ++ quoted t)
              else r.1
            match removed t p.workspace with
            | .ok w => ({ p with workspace := w }, false)
            | .error e =>
              if options.given 'ι' && e == occupied then (p, true)
              else
                (fails p (name ++ ": failed to remove " ++
                  (if t == s then "" else "directory ") ++ quoted t ++ ": " ++ e.words) 1, true))
          (p, false)
        r.1) operands p

/-! ## Files -/

/-- What a directory holds, with all that is below it, each thing after what it holds. -/
def thingsBelow (w : Workspace) : Nat → String → Location → List (String × Location)
  | 0, _, _ => []
  | n + 1, path, l =>
    let inner := (w.names l).flatMap fun name =>
      thingsBelow w n ((if path.endsWith "/" then path else path ++ "/") ++ inward name)
        (l ++ [name])
    inner ++ [(path, l)]

/-- The location of what is removed. A slash after a link does not lead on from it. -/
def itself (w : Workspace) (deep : Bool) (s : String) : Except SystemFault Location := do
  let l ← w.target (pathOf s)
  match w.get? l with
  | none => throw .notFound
  | some (.link _) =>
    if !s.endsWith "/" then return l
    else if deep || w.kind? (pathOf s) != some .directory then throw .notDirectory
    else w.locate (pathOf s)
  | some e => if s.endsWith "/" && e != .directory then throw .notDirectory else return l

/-- Removes files, and directories with all that they hold. -/
def rm : Tool :=
  let g : Grammar :=
    { flags := "rRfdviIπ",
      long := [("recursive", 'r'), ("force", 'f'), ("dir", 'd'), ("verbose", 'v'),
        ("no-preserve-root", 'π')] }
  withOptions g fun name options operands p =>
    let force := options.given 'f'
    let deep := options.given 'r' || options.given 'R'
    let cannot (p : Process) (s : String) (e : SystemFault) : Process :=
      fails p (name ++ ": cannot remove " ++ quoted s ++ ": " ++ e.words) 1
    if operands.isEmpty && !force then misuse name "missing operand" 1 p
    else
      forEach (fun p s =>
        let w := p.workspace
        match itself w deep s with
        | .error e =>
          let p :=
            match deep && s.endsWith "/", w.locate (pathOf s) with
            | true, .ok l =>
              { p with workspace := (w.names l).foldl (fun w name => w.remove (l ++ [name])) w }
            | _, _ => p
          if force && (e == .notFound || e == .notDirectory) then p else cannot p s e
        | .ok l =>
          let last := lastPart s
          if (last == "." || last == "..") && deep then
            fails p (name ++ ": refusing to remove '.' or '..' directory: skipping " ++ quoted s) 1
          else if deep && l.isEmpty then
            fails (p.complain (name ++ ": it is dangerous to operate recursively on '/'"))
              (name ++ ": use --no-preserve-root to override this failsafe") 1
          else if w.isDirectory l && !deep then
            if !options.given 'd' then cannot p s .isDirectory
            else if !(w.names l).isEmpty then cannot p s (.other "Directory not empty")
            else
              let p := { p with workspace := w.remove l }
              if options.given 'v' then p.say ("removed directory " ++ quoted s) else p
          else
            let told := if options.given 'v' then thingsBelow w 256 s l else []
            told.foldl (fun p x =>
              p.say ("removed " ++ (if w.isDirectory x.2 then "directory " else "") ++
                quoted x.1)) { p with workspace := w.remove l }) operands p

/-- Creates files that are not there. -/
def touch : Tool :=
  let g : Grammar :=
    { flags := "acmfh", valued := "drt",
      long := [("no-create", 'c'), ("date", 'd'), ("reference", 'r')] }
  withOptions g fun name options operands p =>
    if operands.isEmpty then misuse name "missing file operand" 1 p
    else
      forEach (fun p s =>
        if s == "-" then p
        else
          match p.workspace.locate (pathOf s) with
          | .ok _ => p
          | .error e =>
            if e == .notFound && options.given 'c' then p
            else if s.endsWith "/" then
              fails p (name ++ ": setting times of " ++ quoted s ++ ": " ++ e.words) 1
            else
              deliver p s [] fun e => name ++ ": cannot touch " ++ quoted s ++ ": " ++ e.words)
        operands p

end DecoderBench.Shell.Tool
