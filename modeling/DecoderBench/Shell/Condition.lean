/-
The conditions of `test`: files, texts, numbers, and their combinations.
-/
import DecoderBench.Shell.ByteText
import DecoderBench.Shell.CharacterClass
import DecoderBench.Workspace

namespace DecoderBench.Shell.Condition

/-- The signs that ask for something that no file is. -/
def never : List String := ["-p", "-S", "-b", "-t", "-u", "-g", "-k"]

/-- Whether a file, or a text, is as a sign asks for. -/
def unary? (w : Workspace) (sign s : String) : Option Bool :=
  match sign with
  | "-e" => some (w.find? (pathOf s)).isSome
  | "-f" => some (w.kind? (pathOf s) == some .file)
  | "-d" => some (w.kind? (pathOf s) == some .directory)
  | "-r" => some (w.find? (pathOf s)).isSome
  | "-w" => some (w.find? (pathOf s)).isSome
  | "-x" => some (w.isRunnable (pathOf s) || w.kind? (pathOf s) == some .directory)
  | "-s" =>
    some (match w.find? (pathOf s) with
      | some (.file _ content _) => !content.isEmpty
      | some .directory => true
      | some (.program _) => true
      | _ => false)
  | "-n" => some (!s.isEmpty)
  | "-z" => some s.isEmpty
  | "-O" => some (w.find? (pathOf s)).isSome
  | "-G" => some (w.find? (pathOf s)).isSome
  | "-c" => some (w.kind? (pathOf s) == some .other)
  | "-L" | "-h" => some ((w.named? (pathOf s)).any fun e => e matches .link _)
  | sign => if never.contains sign then some false else none

/-- Why a test has no answer. -/
inductive Fault
  | illegalNumber (s : String)
  | missingArgument (s : String)
  | unexpected (s : String)
  | unclosed

/-- A fault in words. -/
def Fault.message : Fault → String
  | .illegalNumber s => "Illegal number: " ++ s
  | .missingArgument s => (if s.isEmpty then "" else s ++ ": ") ++ "argument expected"
  | .unexpected s => (if s.isEmpty then "" else s ++ ": ") ++ "unexpected operator"
  | .unclosed => "closing paren expected"

/-- The number that an argument is, within 64 bits; blanks around it do not count. -/
def integer (s : String) : Except Fault Int :=
  let blank (c : Char) : Bool := CharacterClass.space.admits c
  let cs := Text.dropTrailing blank (s.toList.dropWhile blank)
  let (negative, digits) :=
    match cs with
    | '-' :: r => (true, r)
    | '+' :: r => (false, r)
    | r => (false, r)
  let n : Int := (((String.ofList digits).toNat?).getD 0 : Nat)
  let n := if negative then -n else n
  if digits.isEmpty || !digits.all Char.isDigit || n < -9223372036854775808 ||
      9223372036854775807 < n then
    .error (.illegalNumber s)
  else .ok n

/-- The comparison that a sign asks for. Files are all of the same age. -/
def binary? (w : Workspace) (sign : String) : Option (String → String → Except Fault Bool) :=
  let numbers (f : Int → Int → Bool) : Option (String → String → Except Fault Bool) :=
    some fun a b => return f (← integer a) (← integer b)
  match sign with
  | "=" => some fun a b => .ok (a == b)
  | "!=" => some fun a b => .ok (a != b)
  | "<" => some fun a b => .ok (decide (a < b))
  | ">" => some fun a b => .ok (decide (b < a))
  | "-eq" => numbers fun a b => a == b
  | "-ne" => numbers fun a b => a != b
  | "-lt" => numbers fun a b => decide (a < b)
  | "-le" => numbers fun a b => decide (a ≤ b)
  | "-gt" => numbers fun a b => decide (b < a)
  | "-ge" => numbers fun a b => decide (b ≤ a)
  | "-nt" => some fun _ _ => .ok false
  | "-ot" => some fun _ _ => .ok false
  | "-ef" => some fun a b => .ok (w.isSame (pathOf a) (pathOf b))
  | _ => none

/-! ## Combinations

Every reader is given the arguments from the one that it starts with, and returns those
from the last one that it used. -/

/-- What an argument is where a condition is read. -/
inductive Token
  | done
  | operand
  | unary
  | binary
  | negation
  | conjunction
  | disjunction
  | opening
  | closing
  deriving DecidableEq

/-- What the first of some arguments is. A sign that has nothing to work on is an operand. -/
def token (w : Workspace) : List String → Token
  | [] => .done
  | s :: rest =>
    if (binary? w s).isSome then .binary
    else if (unary? w s "").isSome then
      match rest with
      | [] => .operand
      | [_] => .unary
      | t :: _ => if (binary? w t).isSome then .operand else .unary
    else
      match s with
      | "!" => .negation
      | "-a" => .conjunction
      | "-o" => .disjunction
      | "(" => if rest.isEmpty then .operand else .opening
      | ")" => .closing
      | _ => .operand

mutual

/-- Alternatives with `-o` between them. -/
def readAny (w : Workspace) : Nat → Token → List String → Except Fault (Bool × List String)
  | 0, _, args => .ok (false, args)
  | n + 1, first, args => do
    let (a, args) ← readAll w n first args
    if token w args.tail == .disjunction then
      let (b, args) ← readAny w n (token w (args.drop 2)) (args.drop 2)
      return (a || b, args)
    else return (a, args)

/-- Conditions with `-a` between them. -/
def readAll (w : Workspace) : Nat → Token → List String → Except Fault (Bool × List String)
  | 0, _, args => .ok (false, args)
  | n + 1, first, args => do
    let (a, args) ← readNegated w n first args
    if token w args.tail == .conjunction then
      let (b, args) ← readAll w n (token w (args.drop 2)) (args.drop 2)
      return (a && b, args)
    else return (a, args)

/-- A condition, which may be negated. -/
def readNegated (w : Workspace) : Nat → Token → List String → Except Fault (Bool × List String)
  | 0, _, args => .ok (false, args)
  | n + 1, first, args =>
    if first == .negation then do
      let next := token w args.tail
      let (a, args) ← readNegated w n next (if next == .done then args else args.tail)
      return (!a, args)
    else readOne w n first args

/-- A single condition. -/
def readOne (w : Workspace) : Nat → Token → List String → Except Fault (Bool × List String)
  | 0, _, args => .ok (false, args)
  | n + 1, first, args =>
    match first, args with
    | .done, args => .ok (false, args)
    | .opening, _ :: rest =>
      if token w rest == .closing then .ok (false, rest)
      else do
        let (a, rest) ← readAny w n (token w rest) rest
        if token w rest.tail == .closing then return (a, rest.tail) else throw .unclosed
    | .unary, s :: rest =>
      match rest with
      | [] => .error (.missingArgument s)
      | t :: _ => .ok ((unary? w s t).getD false, rest)
    | _, s :: rest =>
      match rest with
      | sign :: others =>
        match binary? w sign, others with
        | some compare, b :: _ => do return (← compare s b, others)
        | some _, [] => .error (.missingArgument sign)
        | none, _ => .ok (!s.isEmpty, args)
      | [] => .ok (!s.isEmpty, args)
    | _, [] => .ok (false, [])

end

/-- Whether a condition holds that is not looked at as a whole any more. -/
def read (w : Workspace) (first : Token) (args : List String) : Except Fault Bool := do
  let (a, rest) ← readAny w (4 * (args.length + 1)) first args
  match rest with
  | s :: _ :: _ => throw (.unexpected s)
  | _ => return a

/-- Whether a condition holds. A comparison of two arguments, parentheses around a condition
and its negation come before all other readings. -/
def holds (w : Workspace) : List String → Except Fault Bool
  | [] => .ok false
  | first :: rest =>
    let args := first :: rest
    if args.length == 3 && ((rest.head?.map fun s => (binary? w s).isSome).getD false) then
      read w .operand args
    else if args.length == 3 || args.length == 4 then
      if first == "(" && rest.getLast? == some ")" then
        read w (token w rest.dropLast) rest.dropLast
      else if first == "!" then (holds w rest).map (!·)
      else read w (token w args) args
    else read w (token w args) args

end DecoderBench.Shell.Condition
