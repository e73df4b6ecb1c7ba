/-
Tools that print what their arguments come to.
-/
import DecoderBench.Shell.Condition
import DecoderBench.Shell.Format
import DecoderBench.Shell.Tool

namespace DecoderBench.Shell.Tool

/-- Prints its arguments. The shell's own form knows escapes. -/
def echo (own : Bool) : Tool := fun _ args p =>
  if own then (p.emit 1 (echoed args)).ends 0
  else
    let isOption (s : String) : Bool :=
      match s.toList with
      | '-' :: c :: cs => (c :: cs).all fun c => c == 'n' || c == 'e' || c == 'E'
      | _ => false
    let options := args.takeWhile isOption
    let escapes := ((options.flatMap (·.toList)).filter fun c => c == 'e' || c == 'E').getLast?
    let text := " ".intercalate (args.drop options.length)
    let (bs, cut) :=
      if escapes == some 'e' then unescape true text.toList else (bytesOf text, false)
    let newline := !(options.any fun s => s.contains 'n') && !cut
    (p.emit 1 (bs ++ (if newline then [10] else []))).ends 0

/-- Prints by a format. -/
def printf (own : Bool) : Tool := fun name args p =>
  let complain (p : Process) (s : String) : Process :=
    if own then p.object s else p.complain (name ++ ": " ++ s)
  match (if args.head? == some "--" then args.tail else args) with
  | [] => (complain p "usage: printf format [arg ...]").ends 2
  | format :: rest =>
    let sign := format.toList.take 2
    if args.head? != some "--" && sign.head? == some '-' && sign.length == 2 then
      (complain p ("Illegal option " ++ String.ofList sign)).ends 2
    else
      let out := formatted format rest
      let p := (p.emit 1 out.bytes).ends 0
      let p := out.faults.foldl (fun p s => (complain p s).ends 1) p
      match out.fault with
      | some s => (complain p s).ends 2
      | none => p

/-- Does nothing, and ends with a status. -/
def ending (status : Nat) : Tool := fun _ _ p => p.ends status

/-- Tests a condition; within brackets, if the name is one. -/
def test (own : Bool) : Tool := fun name args p =>
  let complain (s : String) : Process :=
    if own then p.object s else p.complain (name ++ ": " ++ s)
  if name == "[" && args.getLast? != some "]" then (complain "missing ]").ends 2
  else
    match Condition.holds p.workspace (if name == "[" then args.dropLast else args) with
    | .ok b => p.ends (if b then 0 else 1)
    | .error e => (complain e.message).ends 2

/-- Prints the working directory. -/
def pwd : Tool :=
  withOptions { flags := "LP", long := [("logical", 'L'), ("physical", 'P')] } fun _ _ _ p =>
    (p.say (inward p.workspace.directoryPath.text)).ends 0

/-! ## Variables of programs -/

/-- Prints the variables that programs are to see. -/
def printenv : Tool := fun _ args p =>
  let seen := p.bindings.filter fun x => p.exported.contains x.1
  if args.isEmpty then (seen.foldl (fun p x => p.say (x.1 ++ "=" ++ x.2)) p).ends 0
  else
    forEach (fun p s =>
      match seen.lookup s with
      | some v => p.say v
      | none => p.ends 1) args p

/-- How the variables of a program are set. -/
def variableGrammar : Grammar where
  flags := "i0v"
  valued := "uCS"
  long := [("ignore-environment", 'i'), ("null", '0'), ("unset", 'u'), ("chdir", 'C'),
    ("split-string", 'S'), ("debug", 'v')]
  operandsLast := true
  misused := 125

/-- The words of a text, which blanks separate unless they are quoted. -/
def splitWords : Nat → List Char → List Char → Bool → List String
  | 0, _, _, _ => []
  | _, word, [], begun => if begun then [String.ofList word.reverse] else []
  | n + 1, word, c :: r, begun =>
    if c == ' ' || ('\t' ≤ c && c ≤ '\r') then
      if begun then String.ofList word.reverse :: splitWords n [] r false
      else splitWords n [] r false
    else if c == '\x27' || c == '"' then
      let own := r.takeWhile (· != c)
      splitWords n (own.reverse ++ word) (r.drop (own.length + 1)) true
    else if c == '\\' then
      splitWords n (r.take 1 ++ word) (r.drop 1) true
    else splitWords n (c :: word) r true

/-- The words of a text, which blanks separate unless they are quoted. -/
def wordsOf (s : String) : List String := splitWords (s.length + 1) [] s.toList false

/-- Arguments with words in the place of an option that holds them all. -/
def splitOption : List String → List String
  | [] => []
  | arg :: rest =>
    if arg == "-S" || arg == "--split-string" then
      match rest with
      | s :: rest => wordsOf s ++ rest
      | [] => [arg]
    else if arg.startsWith "-S" then wordsOf (arg.drop 2).toString ++ rest
    else if arg.startsWith "--split-string=" then wordsOf (arg.drop 15).toString ++ rest
    else if arg.startsWith "-" && arg != "--" then arg :: splitOption rest
    else arg :: rest

end DecoderBench.Shell.Tool
