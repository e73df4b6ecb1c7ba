/-
Tools that print what becomes of their input.
-/
import DecoderBench.Shell.Redirect
import DecoderBench.Shell.Tool

namespace DecoderBench.Shell.Tool

/-- A filter's input: all of its files, or what the shell itself reads. -/
def gather (complaint : String → SystemFault → String) (status : Nat) (operands : List String)
    (p : Process) : List UInt8 × Process :=
  (if operands.isEmpty then ["-"] else operands).foldl (fun (s : List UInt8 × Process) file =>
    match s.2.contents file with
    | .ok bs => (s.1 ++ bs, s.2.after file)
    | .error e => (s.1, fails s.2 (complaint file e) status)) ([], p.ends 0)

/-- A tool that turns all of its input into its output. -/
def filtering (complaint : String → SystemFault → String) (status : Nat)
    (f : List UInt8 → List UInt8) (operands : List String) (p : Process) : Process :=
  let (bs, p) := gather complaint status operands p
  p.emit 1 (f bs)

/-- A tool that does so for one file after another. -/
def filteringEach (complaint : String → SystemFault → String) (status : Nat)
    (f : List UInt8 → List UInt8) (operands : List String) (p : Process) : Process :=
  (if operands.isEmpty then ["-"] else operands).foldl (fun p file =>
    match p.contents file with
    | .ok bs => (p.after file).emit 1 (f bs)
    | .error e => fails p (complaint file e) status) (p.ends 0)

/-! ## Files as they are -/

/-- A byte as it is seen, where line ends and tabs may stay as they are. -/
def seenByte (tabs : Bool) (b : UInt8) : List UInt8 :=
  if b == 10 then [10]
  else if b == 9 then (if tabs then [94, 73] else [9])
  else if b < 32 then [94, b + 64]
  else if b < 127 then [b]
  else if b == 127 then [94, 63]
  else if b < 160 then [77, 45, 94, b - 64]
  else if b < 255 then [77, 45, b - 128]
  else [77, 45, 94, 63]

/-- The lines of some bytes, each with its end as far as it has one. -/
def ended (mark : UInt8) (bs : List UInt8) : List (List UInt8) :=
  let ls := bs.splitOn mark
  ls.dropLast.map (· ++ [mark]) ++ (ls.getLast?.toList.filter (!·.isEmpty))

/-- Bytes with blanks before them, up to a width. -/
def padded (width : Nat) (s : String) : List UInt8 :=
  bytesOf (String.ofList (List.replicate (width - s.length) ' ') ++ s)

/-- Lines where no two that follow each other are empty. -/
def withoutEmptyRuns : List (List UInt8) → List (List UInt8)
  | [] => []
  | [l] => [l]
  | l :: m :: r =>
    if l == [10] && m == [10] then withoutEmptyRuns (m :: r) else l :: withoutEmptyRuns (m :: r)

/-- Lines with numbers before them, from a number on; empty ones have none if only others
are `counted`. -/
def numbered (counted : Bool) : Nat → List (List UInt8) → List (List UInt8)
  | _, [] => []
  | k, l :: r =>
    if counted && l == [10] then l :: numbered counted k r
    else (padded 6 (toString k) ++ [9] ++ l) :: numbered counted (k + 1) r

/-- The number of the file that the output goes to. -/
def outputNumber? (p : Process) : Option Nat :=
  match p.stream? 1 with
  | some (_, .file number _ _ true _) => some number
  | _ => none

/-- Whether a path leads to the file that the output goes to. -/
def isOutput (p : Process) (path : String) : Bool :=
  (outputNumber? p).any fun number =>
    ((p.workspace.find? (pathOf path)).bind Entry.number?) == some number

/-- Whether a file is the one that the output goes to, and there is something to be read
from it. -/
def isOwnOutput (p : Process) (path : String) : Bool :=
  (outputNumber? p).any fun number =>
    let size := ((p.workspace.content? number).getD []).length
    if path == "-" then
      match p.stream? 0 with
      | some (_, .file number' read _ _ _) => number' == number && read < size
      | _ => false
    else isOutput p path && 0 < size

/-- Prints files one after another. -/
def cat : Tool :=
  let g : Grammar :=
    { flags := "AbeEnstTuv",
      long := [("show-all", 'A'), ("number-nonblank", 'b'), ("show-ends", 'E'), ("number", 'n'),
        ("squeeze-blank", 's'), ("show-tabs", 'T'), ("show-nonprinting", 'v')] }
  withOptions g fun name options operands p =>
    let given (s : String) : Bool := s.toList.any options.given
    let shaped (bs : List UInt8) : List UInt8 :=
      let ls := ended 10 bs
      let ls := if given "s" then withoutEmptyRuns ls else ls
      let ls := if given "nb" then numbered (given "b") 1 ls else ls
      let seen (l : List UInt8) : List UInt8 :=
        if given "AETetv" then
          l.flatMap fun b =>
            if b == 10 then
              if given "AEe" then [36, 10] else [10]
            else if b == 9 then (if given "ATt" then [94, 73] else [9])
            else if given "Aetv" then seenByte false b
            else [b]
        else l
      let closed (l : List UInt8) : List UInt8 :=
        if given "E" && l.drop (l.length - 2) == [13, 10] then
          l.take (l.length - 2) ++ [94, 77, 10]
        else l
      (ls.map fun l => seen (closed l)).flatten
    let operands := if operands.isEmpty then ["-"] else operands
    let own (p : Process) (file : String) : Process :=
      fails p (name ++ ": " ++ shown file ++ ": input file is output file") 1
    if options.isEmpty then
      operands.foldl (fun p file =>
        if isOwnOutput p file then own p file
        else
          let q := filteringEach (plainly name) 1 id [file] p
          if q.status == 0 then q.ends p.status else q) (p.ends 0)
    else
      let (same, others) := operands.partition (isOwnOutput p)
      let q := if others.isEmpty then p.ends 0 else filtering (plainly name) 1 shaped others p
      same.foldl own q

/-! ## Shares -/

/-- Why a text is no amount. -/
inductive AmountFault
  | noNumber
  | tooLarge

/-- The number that digits with a unit write. -/
def amount (s : String) : Except AmountFault Nat :=
  let own := s.toList.takeWhile Char.isDigit
  let factor? : Option Nat :=
    match (s.drop own.length).toString with
    | "" => some 1
    | "b" => some 512
    | "kB" | "KB" => some 1000
    | "k" | "K" | "KiB" => some 1024
    | "MB" => some 1000000
    | "m" | "M" | "MiB" => some 1048576
    | "GB" => some 1000000000
    | "G" | "GiB" => some 1073741824
    | _ => none
  match Process.count? (String.ofList own), factor? with
  | some n, some factor =>
    if 18446744073709551616 ≤ n * factor then .error .tooLarge else .ok (n * factor)
  | _, _ => .error .noNumber

/-- How many of some things to take: the first or last ones, or all but some. -/
inductive Share
  | first (n : Nat)
  | last (n : Nat)
  | butFirst (n : Nat)
  | butLast (n : Nat)

/-- A share of a list. -/
def Share.of {α : Type} (s : Share) (l : List α) : List α :=
  match s with
  | .first n => l.take n
  | .last n => l.drop (l.length - n)
  | .butFirst n => l.drop n
  | .butLast n => l.take (l.length - n)

/-- Prints a share of each file, of which a sign before the number tells the kind. What is
not printed of the input is left there if `exact` is set. -/
def shareTool (exact : Bool) (ofSign : Char → Nat → Share) : Tool :=
  let g : Grammar :=
    { flags := "qvz", valued := "nc",
      long := [("bytes", 'c'), ("lines", 'n'), ("quiet", 'q'), ("silent", 'q'), ("verbose", 'v'),
        ("zero-terminated", 'z')] }
  let g := if exact then g
    else { g with flags := g.flags ++ "fF", valued := g.valued ++ "s", digits := some ('δ', "") }
  withOptions g fun name options operands p =>
    let asked? := (options.filter fun o => o.1 == 'c' || o.1 == 'n').getLast?
    let inBytes := asked?.any (·.1 == 'c')
    let text := (asked?.map (·.2)).getD "10"
    let sign := (text.toList.head?).getD ' '
    match options.last? 'δ',
      amount (if sign == '+' || sign == '-' then (text.drop 1).toString else text) with
    | some digits, _ =>
      fails p (name ++ ": option used in invalid context -- " ++ (digits.take 1).toString) 1
    | none, .error e =>
      fails p (name ++ ": invalid number of " ++ (if inBytes then "bytes" else "lines") ++ ": " ++
        cited text ++ match e with
          | .noNumber => ""
          | .tooLarge => ": Value too large for defined data type") 1
    | none, .ok n =>
      let share := ofSign sign n
      let mark : UInt8 := if options.given 'z' then 0 else 10
      let cut (bs : List UInt8) : List UInt8 :=
        if inBytes then share.of bs else (share.of (ended mark bs)).flatten
      let files := if operands.isEmpty then ["-"] else operands
      let headed := (1 < files.length && !options.given 'q') || options.given 'v'
      (files.foldl (fun (s : Process × Bool) file =>
        match s.1.contents file with
        | .ok bs =>
          let out := cut bs
          let stays := match s.1.stream? 0 with
            | some (_, .file ..) => exact
            | _ => false
          let p := if file == "-" && stays then s.1.leave 0 (bs.drop out.length)
            else s.1.after file
          let p := if headed then
              p.say ((if s.2 then "" else "\n") ++ "==> " ++
                (if file == "-" then "standard input" else file) ++ " <==")
            else p
          (p.emit 1 out, false)
        | .error e => (fails s.1 (opening name file e) 1, s.2)) (p.ends 0, true)).1

/-- The options that a number after a dash and the letters after it stand for, if the first
argument is that. -/
def headFirst : List String → List String
  | arg :: rest =>
    let cs := arg.toList.drop 1
    let digits := String.ofList (cs.takeWhile Char.isDigit)
    let letters := cs.dropWhile Char.isDigit
    if arg.startsWith "-" && !digits.isEmpty && letters.all ("cbkmlqv".toList.contains ·) then
      let unit := String.ofList (letters.filter ("bkm".toList.contains ·))
      let inBytes := letters.any ("cbkm".toList.contains ·) && !letters.contains 'l'
      [if inBytes then "-c" else "-n", digits ++ unit] ++
        (letters.filter ("qv".toList.contains ·)).map (fun c => "-" ++ c.toString) ++ rest
    else arg :: rest
  | [] => []

/-- Prints the first lines, or all but the last ones. -/
def head : Tool := fun name args p =>
  shareTool true (fun sign n => if sign == '-' then .butLast n else .first n) name
    (headFirst args) p

/-- The option that a number after a sign and the letter after it stand for, if the first
argument is that and one other follows at most. -/
def tailFirst (args : List String) : List String :=
  match args with
  | arg :: rest =>
    let cs := arg.toList.drop 1
    let digits := cs.takeWhile Char.isDigit
    let letters := cs.dropWhile Char.isDigit
    let signed := arg.startsWith "+" || (arg.startsWith "-" && cs != [] && cs != ['c'])
    let alone :=
      match rest with
      | [] => true
      | [file] => !file.startsWith "-" || file == "-"
      | "--" :: more => more.length ≤ 1
      | _ => false
    if alone && signed && [[], ['b'], ['c'], ['l']].contains letters then
      let inBytes := letters == ['b'] || letters == ['c']
      let count :=
        if digits.isEmpty then (if letters == ['b'] then "5120" else "10")
        else String.ofList digits ++ (if letters == ['b'] then "b" else "")
      let sign := if arg.startsWith "+" then "+" else ""
      (if inBytes then "-c" else "-n") :: (sign ++ count) :: rest
    else args
  | [] => []

/-- Prints the last lines, or those from a line on. -/
def tail : Tool := fun name args p =>
  shareTool false (fun sign n => if sign == '+' then .butFirst (n - 1) else .last n) name
    (tailFirst args) p

/-- Writes its input to files, and to its output too. -/
def tee : Tool :=
  withOptions { flags := "aip", long := [("append", 'a'), ("ignore-interrupts", 'i')] }
    fun name options operands p =>
    let kind : Redirection := if options.given 'a' then .append else .write
    let start (s : Process × List Nat) (file : String) : Process × List Nat :=
      let d := 1000 + s.2.length
      match s.1.openOn d kind file with
      | .ok p => (p, s.2 ++ [d])
      | .error e => (fails s.1 (plainly name file e) 1, s.2)
    let (q, ds) := operands.foldl start (p.ends 0, [])
    let bs := q.input
    let out := q.drained.emit 1 bs
    let (r, full) := ds.foldl (fun (s : Process × List Nat) d =>
      let r := { s.1 with broken := false }.emit d bs
      if r.broken then ({ r with broken := false }, s.2 ++ [d]) else (r, s.2)) (out, [])
    let named := (operands.filter fun file => (q.openOn 999 kind file matches .ok _)).zip ds
    let r := named.foldl (fun r x =>
      if full.contains x.2 then fails r (plainly name x.1 .noSpace) 1 else r)
      (if out.broken then fails r (name ++ ": 'standard output': " ++ (if (q.stream? 1).isSome then
        SystemFault.noSpace.words else "Bad file descriptor")) 1 else r)
    { r with descriptors := p.descriptors, broken := false }

end DecoderBench.Shell.Tool
