/-
Reading scripts.

A script is read a line at a time, since what stands on earlier lines runs even if
a later one cannot be read. Every reader returns what it read and the rest of the
text, or says why it cannot be read. Each knows how many line ends the script has,
from which and the rest follows the line that it is on.
-/
import DecoderBench.Shell.Reader.Scan

namespace DecoderBench.Shell

/-- Where a list of commands stands, which says where it may end. -/
inductive ListPlace
  /-- On a line, with which it ends. -/
  | line
  /-- Within a command, where there must be something before the word that ends it. -/
  | body
  /-- Within a command, where there may be nothing. -/
  | branch

/-- Whether a list on a line is meant. -/
def ListPlace.isLine : ListPlace → Bool
  | .line => true
  | _ => false

/-- The place of what follows a command of a list. -/
def ListPlace.next : ListPlace → ListPlace
  | .line => .line
  | _ => .branch

/-- A reader that went too deep. -/
def tooDeep {α : Type} : Except Misreading α := .error ⟨"too deep", 0⟩

section

variable (aliases : List (String × String))

/-- A text with what the word at its start stands for in the place of it. A word that was
replaced already is not replaced again. -/
def unaliased : Nat → (used : List String) → List Char → List Char
  | 0, _, cs => cs
  | n + 1, used, cs =>
    let word := cs.takeWhile fun c => !endsWord c
    let name := String.ofList word
    match (if used.contains name then none else aliases.lookup name) with
    | some text => unaliased n (name :: used) (text.toList ++ cs.drop word.length)
    | none => cs

/-! The first number that each reader takes bounds how deep the readers call one another,
and the second is the number of line ends of the script. -/

mutual

/-- The parts up to the end of a place. -/
def readParts : Nat → Nat → Place → List Char → Except Misreading (Word × List Char)
  | 0, _, _, _ => tooDeep
  | n + 1, lines, place, cs =>
    match place.end? cs with
    | some r => .ok ([], r)
    | none =>
      match cs with
      | [] => .error ⟨place.missing, lineOf lines []⟩
      | '$' :: r => do
        let (part, r) ← readDollar n lines place.isQuoted r
        let (ps, r) ← readParts n lines place r
        return (part :: ps, r)
      | '\x60' :: r =>
        match backquoted (place matches .quotes | .operand true) r with
        | none => .error ⟨"EOF in backquote substitution", lineOf lines []⟩
        | some (inner, r) => do
          let (scripts, _) ← readList n (inner.count '\n') .branch inner
          let (ps, r) ← readParts n lines place r
          return (.output place.isQuoted (.sequence scripts) :: ps, r)
      | '\\' :: '\n' :: r => readParts n lines place r
      | '\\' :: c :: r =>
        if place.isQuoted && !place.escapes c then do
          let (ps, r) ← readParts n lines place (c :: r)
          return (.text true "\\" :: ps, r)
        else do
          let (ps, r) ← readParts n lines place r
          return (.text true c.toString :: ps, r)
      | c :: r =>
        if c == '\x27' && !place.isQuoted then
          match r.dropWhile (· != '\x27') with
          | [] => .error ⟨Place.quotes.missing, lineOf lines []⟩
          | _ :: rest => do
            let (ps, rest) ← readParts n lines place rest
            return (.text true (String.ofList (r.takeWhile (· != '\x27'))) :: ps, rest)
        else if c == '"' && !(place matches .document | .expression _) then do
          let (inner, r) ← readParts n lines .quotes r
          let (ps, r) ← readParts n lines place r
          return (quotedParts inner ++ ps, r)
        else do
          let (ps, r) ← readParts n lines (place.after c) r
          return (.text place.isQuoted c.toString :: ps, r)

/-- What a dollar sign stands for, after it. -/
def readDollar : Nat → Nat → Bool → List Char → Except Misreading (Part × List Char)
  | 0, _, _, _ => tooDeep
  | n + 1, lines, quoted, cs =>
    match cs with
    | '(' :: '(' :: r => do
      let (parts, r) ← readParts n lines (.expression 0) r
      return (.arithmetic quoted parts, r)
    | '(' :: r => do
      let (scripts, r) ← readList n lines .branch r
      return (.output quoted (.sequence scripts), ← expectClosing lines false r)
    | '\x7b' :: '#' :: '\x7d' :: r => .ok (.parameter quoted "#" .value [], r)
    | '\x7b' :: r =>
      let bad (r : List Char) : Except Misreading (Part × List Char) := do
        let (_, r) ← readParts n lines (.operand quoted) r
        return (.parameter quoted "" .bad [], r)
      match lengthOf? r with
      | some (name, r) => .ok (.parameter quoted name .length [], r)
      | none =>
        match scanName r with
        | some (name, '\x7d' :: r) => .ok (.parameter quoted name .value [], r)
        | some (name, r) =>
          match use? r with
          | some (use, pattern, r) => do
            let (parts, r) ← readParts n lines (.operand (quoted && !pattern)) r
            return (.parameter quoted name use (homed false true parts), r)
          | none => bad r
        | none => bad r
    | c :: r =>
      if isNameStart c then
        .ok (.parameter quoted (String.ofList (nameAt cs).1) .value [], (nameAt cs).2)
      else if isSpecial c then .ok (.parameter quoted c.toString .value [], r)
      else .ok (.text quoted "$", cs)
    | [] => .ok (.text quoted "$", [])

/-- A redirection. -/
def readRedirect : Nat → Nat → List Char → Except Misreading (Redirect × List Char)
  | 0, _, _ => tooDeep
  | n + 1, lines, cs =>
    match operator? (cs.dropWhile Char.isDigit) with
    | none => unexpected lines cs none true
    | some (descriptor, redirection, bare, r) => do
      let descriptor := ((String.ofList (cs.takeWhile Char.isDigit)).toNat?).getD descriptor
      let start := skipBlanks r
      let (target, r) ←
        if isRedirect start then pure ([], start) else readParts n lines .word start
      let target := homed false true target
      if target.isEmpty then unexpected lines start none true
      else
        match redirection with
        | .document =>
          let (delimiter, quoted) := literal target
          let (document, r) := cutDocument delimiter.toList bare quoted r
          if quoted then
            return (.mk descriptor .document [.text true (String.ofList document)], r)
          else do
            let lines := lineOf lines cs + document.count '\n'
            let (parts, _) ← readParts n lines .document document
            return (.mk descriptor .document parts, r)
        | redirection => return (.mk descriptor redirection target, r)

/-- All redirections that stand here. -/
def readRedirects : Nat → Nat → List Char → Except Misreading (List Redirect × List Char)
  | 0, _, _ => tooDeep
  | n + 1, lines, cs =>
    if isRedirect (skipBlanks cs) then do
      let (redirect, r) ← readRedirect n lines (skipBlanks cs)
      let (redirects, r) ← readRedirects n lines r
      return (redirect :: redirects, r)
    else .ok ([], cs)

/-- Words up to the end of a command or of a line. -/
def readWords : Nat → Nat → List Char → Except Misreading (List Word × List Char)
  | 0, _, _ => tooDeep
  | n + 1, lines, cs =>
    if isRedirect (skipBlanks cs) then .ok ([], skipBlanks cs)
    else do
      let (word, r) ← readParts n lines .word (skipBlanks cs)
      if word.isEmpty then return ([], skipBlanks cs)
      else
        let (words, r) ← readWords n lines r
        return (homed false true word :: words, r)

/-- The rest of a simple command, of which some words may be read already; with the line on
which its first word ends. -/
def readSimple : Nat → Nat → (started : Bool) → List Char →
    Except Misreading
      ((Nat × List (String × Word) × List Word × List Redirect) × List Char)
  | 0, _, _, _ => tooDeep
  | n + 1, lines, started, cs =>
    if isRedirect (skipBlanks cs) then do
      let (redirect, r) ← readRedirect n lines (skipBlanks cs)
      let ((_, assignments, words, redirects), r) ← readSimple n lines started r
      return ((lineOf lines cs, assignments, words, redirect :: redirects), r)
    else
      match (if started then none else assigned? (skipBlanks cs)) with
      | some (name, r) => do
        let (value, r) ← readParts n lines .word r
        let line := lineOf lines r
        let ((_, assignments, words, redirects), r) ← readSimple n lines false r
        return ((line, (name, homed true true value) :: assignments, words, redirects), r)
      | none => do
        let (word, r) ← readParts n lines .word (skipBlanks cs)
        if word.isEmpty then return ((lineOf lines cs, [], [], []), skipBlanks cs)
        else
          let line := lineOf lines r
          let ((_, assignments, words, redirects), r) ← readSimple n lines true r
          return ((line, assignments, homed false true word :: words, redirects), r)

/-- A function, after the word that names it. -/
def readFunction : Nat → Nat → Word → List Char → Except Misreading (Script × List Char)
  | 0, _, _, _ => tooDeep
  | n + 1, lines, word, cs => do
    let start ← expectClosing lines true (skipBlanks (cs.drop 1))
    match functionName? word with
    | none => throw ⟨"Bad function name", lineOf lines start⟩
    | some name =>
      let (body, r) ← readCommand n lines (skipLines start)
      return (.function name body, r)

/-- The branches of a choice, up to the word that ends it. -/
def readBranches : Nat → Nat → List Char →
    Except Misreading (List (List Word × Script) × List Char)
  | 0, _, _ => tooDeep
  | n + 1, lines, cs =>
    match keyword? "esac" (skipLines cs) with
    | some r => .ok ([], r)
    | none => do
      let cs := skipLines cs
      let (patterns, r) ← readPatterns n lines (if cs.head? == some '(' then cs.tail else cs)
      let (scripts, r) ← readList n lines .branch r
      let r := skipLines r
      let branch := (patterns, Script.sequence scripts)
      match keyword? "esac" r with
      | some r => return ([branch], r)
      | none =>
        if [';', ';'].isPrefixOf r then
          let (branches, r) ← readBranches n lines (r.drop 2)
          return (branch :: branches, r)
        else unexpected lines r (some "\";;\"") false

/-- The patterns of a branch, up to the parenthesis after them. -/
def readPatterns : Nat → Nat → List Char → Except Misreading (List Word × List Char)
  | 0, _, _ => tooDeep
  | n + 1, lines, cs => do
    let start := skipBlanks cs
    let (pattern, r) ← readParts n lines .word start
    let r := skipBlanks (if pattern.isEmpty then (tokenAt start).2 else r)
    match r with
    | '|' :: '|' :: _ => unexpected lines r (some "\")\"") true
    | '|' :: r => do
      let (patterns, r) ← readPatterns n lines r
      return (homed false true pattern :: patterns, r)
    | r => return ([homed false true pattern], ← expectClosing lines true r)

/-- The rest of a condition after the word that opens it. -/
def readCondition : Nat → Nat → List Char → Except Misreading (Script × List Char)
  | 0, _, _ => tooDeep
  | n + 1, lines, cs => do
    let (test, r) ← readList n lines .body cs
    let (yes, r) ← readList n lines .body (← expect lines "then" r)
    let test := .sequence test
    let yes := .sequence yes
    match keyword? "elif" r, keyword? "else" r with
    | some r, _ => do
      let (no, r) ← readCondition n lines r
      return (.conditional test yes no, r)
    | none, some r => do
      let (no, r) ← readList n lines .body r
      return (.conditional test yes (.sequence no), ← expect lines "fi" r)
    | none, none => return (.conditional test yes (.sequence []), ← expect lines "fi" r)

/-- The body of a loop between the words around it. -/
def readBody : Nat → Nat → List Char → Except Misreading (Script × List Char)
  | 0, _, _ => tooDeep
  | n + 1, lines, cs => do
    let (scripts, r) ← readList n lines .body (← expect lines "do" cs)
    return (.sequence scripts, ← expect lines "done" r)

/-- A loop over words, after the word that opens it. -/
def readEach : Nat → Nat → List Char → Except Misreading (Script × List Char)
  | 0, _, _ => tooDeep
  | n + 1, lines, cs =>
    match loopName (skipBlanks cs) with
    | none => .error ⟨"Bad for loop variable", lineOf lines (skipBlanks cs)⟩
    | some (name, r) =>
      match keyword? "in" (skipLines r) with
      | some r => do
        let (words, r) ← readWords n lines r
        match r with
        | ';' :: ';' :: _ => unexpected lines r none true
        | ';' :: r => do
          let (body, r) ← readBody n lines (skipLines r)
          return (.each name (some words) body, r)
        | '\n' :: r => do
          let (body, r) ← readBody n lines (skipLines r)
          return (.each name (some words) body, r)
        | r => unexpected lines r none true
      | none => do
        let r := skipLines r
        let r := if r.head? == some ';' && r.tail.head? != some ';' then r.tail else r
        let (body, r) ← readBody n lines (skipLines r)
        return (.each name none body, r)

/-- A command that is made of others, if one starts here. -/
def readCompound : Nat → Nat → List Char → Except Misreading (Option (Script × List Char))
  | 0, _, _ => tooDeep
  | n + 1, lines, cs =>
    match cs with
    | '(' :: r => do
      let (scripts, r) ← readList n lines .body r
      return some (.subshell (.sequence scripts), ← expectClosing lines false r)
    | _ =>
      match keyword? "\x7b" cs, keyword? "if" cs, keyword? "while" cs, keyword? "until" cs,
        keyword? "for" cs, keyword? "case" cs with
      | some r, _, _, _, _, _ => do
        let (scripts, r) ← readList n lines .body r
        return some (.sequence scripts, ← expect lines "\x7d" r)
      | _, some r, _, _, _, _ => do return some (← readCondition n lines r)
      | _, _, some r, _, _, _ => do
        let (test, r) ← readList n lines .body r
        let (body, r) ← readBody n lines r
        return some (.loop true (.sequence test) body, r)
      | _, _, _, some r, _, _ => do
        let (test, r) ← readList n lines .body r
        let (body, r) ← readBody n lines r
        return some (.loop false (.sequence test) body, r)
      | _, _, _, _, some r, _ => do return some (← readEach n lines r)
      | _, _, _, _, _, some r => do
        let start := skipBlanks r
        let (subject, r) ← readParts n lines .word start
        if subject.isEmpty || isRedirect start then unexpected lines start (some "word") true
        else
          let r ← expect lines "in" (skipLines r)
          let (branches, r) ← readBranches n lines r
          return some (.choice (homed false true subject) branches, r)
      | _, _, _, _, _, _ => return none

/-- A command with its redirections. -/
def readCommand : Nat → Nat → List Char → Except Misreading (Script × List Char)
  | 0, _, _ => tooDeep
  | n + 1, lines, cs => do
    let line := lineOf lines cs
    let cs := skipBlanks (unaliased aliases (aliases.length + 1) [] cs)
    if !startsCommand cs then unexpected lines cs none false
    else
      match ← readCompound n lines cs with
      | some (script, r) =>
        let (redirects, r) ← readRedirects n lines r
        return (.at line (if redirects.isEmpty then script else redirectGroup script redirects), r)
      | none =>
        let ((line, assignments, words, redirects), r) ← readSimple n lines false cs
        match assignments, words, redirects, r with
        | [], [word], [], '(' :: _ => readFunction n lines word r
        | _, _, _, _ => return (.at line (.simple assignments words redirects), r)

/-- Commands with pipes between them. -/
def readPipes : Nat → Nat → List Char → Except Misreading (List Script × List Char)
  | 0, _, _ => tooDeep
  | n + 1, lines, cs => do
    let (script, r) ← readCommand n lines cs
    match skipBlanks r with
    | '|' :: '|' :: _ => return ([script], r)
    | '|' :: r => do
      let (scripts, r) ← readPipes n lines (skipLines r)
      return (script :: scripts, r)
    | r => return ([script], r)

/-- A pipeline, which may be negated once. -/
def readPipeline : Nat → Nat → List Char → Except Misreading (Script × List Char)
  | 0, _, _ => tooDeep
  | n + 1, lines, cs => do
    let negated? := keyword? "!" cs
    let (scripts, r) ← readPipes n lines (skipBlanks (negated?.getD cs))
    let script :=
      match scripts with
      | [script] => script
      | scripts => .pipeline scripts
    return (if negated?.isSome then .negation script else script, r)

/-- What may follow a pipeline that depends on how it ended. -/
def readLinked : Nat → Nat → Script → List Char → Except Misreading (Script × List Char)
  | 0, _, _, _ => tooDeep
  | n + 1, lines, first, cs =>
    match skipBlanks cs with
    | '&' :: '&' :: r => do
      let (second, r) ← readPipeline n lines (skipLines r)
      readLinked n lines (.both first second) r
    | '|' :: '|' :: r => do
      let (second, r) ← readPipeline n lines (skipLines r)
      readLinked n lines (.either first second) r
    | r => .ok (first, r)

/-- A list of commands. -/
def readList : Nat → Nat → ListPlace → List Char →
    Except Misreading (List Script × List Char)
  | 0, _, _, _ => tooDeep
  | n + 1, lines, place, cs =>
    let cs := skip (!place.isLine) false cs
    let ends :=
      match place, cs with
      | _, [] => true
      | .line, '\n' :: _ => true
      | .branch, cs => endsList cs
      | _, _ => false
    if ends then .ok ([], cs)
    else do
      let (first, r) ← readPipeline n lines cs
      let (script, r) ← readLinked n lines first r
      let goOn (script : Script) (r : List Char) :
          Except Misreading (List Script × List Char) := do
        let (scripts, r) ← readList n lines place.next r
        return (script :: scripts, r)
      match r with
      | [] => return ([script], [])
      | ';' :: ';' :: _ =>
        if place.isLine then unexpected lines r none false else return ([script], r)
      | ';' :: r => goOn script r
      | '&' :: r => goOn (.background script) r
      | '\n' :: r' => if place.isLine then return ([script], r) else goOn script r'
      | r => if place.isLine then unexpected lines r none false else return ([script], r)

end

/-- The commands of the next line, or of as many lines as they take, and the rest. -/
def readLine (lines : Nat) (cs : List Char) : Except Misreading (Script × List Char) := do
  let (scripts, r) ← readList aliases (16 * (cs.length + 1)) lines .line (skipLines cs)
  return (.sequence scripts, if r.head? == some '\n' then r.tail else r)

end

end DecoderBench.Shell
