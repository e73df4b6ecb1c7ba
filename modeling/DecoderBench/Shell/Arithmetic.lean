/-
Arithmetic expressions of the shell: integers, variables, operators by their
ranks, and assignments.

An expression is worked out as it is read, so that the first fault in it is the one
that is told, whether it is one of its form or of its value.
-/
import DecoderBench.Shell.Format

namespace DecoderBench.Shell.Arithmetic

/-- Why an expression has no value. -/
inductive Fault
  /-- Something else should stand here. -/
  | expecting (what : String)
  | divisionByZero
  /-- A variable does not hold a number. -/
  | notNumber (s : String)

/-- A fault in the words of a complaint about an expression. -/
def Fault.message (expression : String) : Fault → String
  | .expecting what =>
    "arithmetic expression: expecting " ++ what ++ ": \"" ++ expression ++ "\""
  | .divisionByZero => "arithmetic expression: division by zero: \"" ++ expression ++ "\""
  | .notNumber s => "Illegal number: " ++ s

/-! ## Tokens -/

/-- A piece of an expression. A sign may be one that has no meaning. -/
inductive Token
  | number (a : Int)
  | name (s : String)
  | sign (s : String)
  deriving DecidableEq

/-- The signs of several characters, those first that others start with. -/
def longSigns : List String :=
  ["<<=", ">>=", "||", "&&", "==", "!=", "<=", ">=", "<<", ">>", "+=", "-=", "*=", "/=", "%=", "&=",
    "|=", "^="]

/-- The greatest number. -/
def greatest : Nat := wordSize / 2 - 1

/-- The pieces of an expression. The number bounds how many there are. -/
def tokens : Nat → List Char → List Token
  | 0, _ => []
  | _, [] => []
  | n + 1, c :: r =>
    if c == ' ' || c == '\t' || c == '\n' then tokens n r
    else if c.isDigit then
      match numberAt (c :: r) with
      | some (a, rest) => .number (min a greatest) :: tokens n rest
      | none => tokens n r
    else if c.isAlpha || c == '_' then
      let word := (c :: r).takeWhile fun c => c.isAlphanum || c == '_'
      .name (String.ofList word) :: tokens n ((c :: r).drop word.length)
    else
      match longSigns.find? fun s => s.toList.isPrefixOf (c :: r) with
      | some s => .sign s :: tokens n ((c :: r).drop s.length)
      | none => .sign c.toString :: tokens n r

/-! ## Operators -/

/-- One for a condition that holds. -/
def truth (b : Bool) : Int := if b then 1 else 0

/-- A number as it is kept in 64 bits. -/
def wrapped (a : Int) : Int := a.bmod wordSize

/-- An operator on numbers as bits. -/
def onBits (f : Int64 → Int64 → Int64) (a b : Int) : Int :=
  (f (Int64.ofInt a) (Int64.ofInt b)).toInt

/-- What an operator makes of two numbers. -/
def apply (sign : String) (a b : Int) : Except Fault Int :=
  match sign with
  | "|" => .ok (onBits (· ||| ·) a b)
  | "^" => .ok (onBits (· ^^^ ·) a b)
  | "&" => .ok (onBits (· &&& ·) a b)
  | "==" => .ok (truth (a == b))
  | "!=" => .ok (truth (a != b))
  | "<=" => .ok (truth (a ≤ b))
  | ">=" => .ok (truth (b ≤ a))
  | "<" => .ok (truth (a < b))
  | ">" => .ok (truth (b < a))
  | "<<" => .ok (onBits (· <<< ·) a b)
  | ">>" => .ok (onBits (· >>> ·) a b)
  | "+" => .ok (wrapped (a + b))
  | "-" => .ok (wrapped (a - b))
  | "*" => .ok (wrapped (a * b))
  | "/" => if b == 0 then .error .divisionByZero else .ok (wrapped (a.tdiv b))
  | "%" => if b == 0 then .error .divisionByZero else .ok (a.tmod b)
  | _ => .ok b

/-- The operators of each rank, those that bind least first. -/
def ranks : List (List String) :=
  [["|"], ["^"], ["&"], ["==", "!="], ["<=", ">=", "<", ">"], ["<<", ">>"], ["+", "-"],
    ["*", "/", "%"]]

/-- The operator that the value of a variable goes through with a new one, by the sign of
the assignment. -/
def assigning : List (String × Option String) :=
  ("=", none) ::
    (["|", "^", "&", "<<", ">>", "+", "-", "*", "/", "%"].map fun s => (s ++ "=", some s))

/-! ## Values -/

/-- The number that the value of a variable is. Nothing is zero. -/
def numberOf? (s : String) : Option Int :=
  let isBlank (c : Char) : Bool := c == ' ' || ('\t' ≤ c && c ≤ '\r')
  match numberAt s.toList with
  | none => if s.toList.all isBlank then some 0 else none
  | some (a, rest) =>
    if rest.all isBlank && -(greatest : Int) - 1 ≤ a && a ≤ greatest then some a else none

/-- Variables with the values that they got, the last one first. -/
abbrev Assigned := List (String × Int)

/-- Works with the variables, and may fail. -/
abbrev Evaluation := StateT Assigned (Except Fault)

section

variable (text : String → String)

/-- The value of a variable. -/
def valueOf (name : String) : Evaluation Int := do
  match (← get).lookup name with
  | some a => return a
  | none =>
    match numberOf? (text name) with
    | some a => return a
    | none => throw (.notNumber (text name))

/-! The readers work out the value of what they read, unless it is to be skipped, and give
the pieces that follow. The number that each takes bounds how deep they call one another. -/

mutual

/-- An assignment, or an expression without one. -/
def assignment : Nat → (skipped : Bool) → List Token → Evaluation (Int × List Token)
  | 0, _, _ => throw (.expecting "primary")
  | n + 1, skipped, ts =>
    match ts with
    | .name s :: .sign sign :: r =>
      match assigning.lookup sign with
      | none => choice n skipped ts
      | some operator? => do
        let (b, r) ← assignment n skipped r
        if skipped then return (b, r)
        else
          let c ←
            match operator? with
            | none => pure b
            | some operator => do liftM (apply operator (← valueOf text s) b)
          modify ((s, c) :: ·)
          return (c, r)
    | ts => choice n skipped ts

/-- An expression that may choose between two others by a question mark. -/
def choice : Nat → (skipped : Bool) → List Token → Evaluation (Int × List Token)
  | 0, _, _ => throw (.expecting "primary")
  | n + 1, skipped, ts => do
    let (a, r) ← either n skipped ts
    match r with
    | .sign "?" :: r =>
      let (b, r) ← assignment n (skipped || a == 0) r
      match r with
      | .sign ":" :: r =>
        let (c, r) ← choice n (skipped || a != 0) r
        return (if a != 0 then b else c, r)
      | _ => throw (.expecting "':'")
    | r => return (a, r)

/-- Alternatives, of which those after one that holds are skipped. -/
def either : Nat → (skipped : Bool) → List Token → Evaluation (Int × List Token)
  | 0, _, _ => throw (.expecting "primary")
  | n + 1, skipped, ts => do
    let (a, r) ← both n skipped ts
    match r with
    | .sign "||" :: r =>
      let (b, r) ← either n (skipped || a != 0) r
      return (truth (a != 0 || b != 0), r)
    | r => return (a, r)

/-- Conditions, of which those after one that does not hold are skipped. -/
def both : Nat → (skipped : Bool) → List Token → Evaluation (Int × List Token)
  | 0, _, _ => throw (.expecting "primary")
  | n + 1, skipped, ts => do
    let (a, r) ← ranked n skipped ranks ts
    match r with
    | .sign "&&" :: r =>
      let (b, r) ← both n (skipped || a == 0) r
      return (truth (a != 0 && b != 0), r)
    | r => return (a, r)

/-- An expression of operators of the given ranks. -/
def ranked : Nat → (skipped : Bool) → List (List String) → List Token →
    Evaluation (Int × List Token)
  | 0, _, _, _ => throw (.expecting "primary")
  | n + 1, skipped, [], ts => operand n skipped ts
  | n + 1, skipped, signs :: ranks, ts => do
    let (a, r) ← ranked n skipped ranks ts
    further n skipped signs ranks a r

/-- The further operands of operators of one rank. -/
def further : Nat → (skipped : Bool) → List String → List (List String) → Int → List Token →
    Evaluation (Int × List Token)
  | 0, _, _, _, _, _ => throw (.expecting "primary")
  | n + 1, skipped, signs, ranks, a, ts =>
    match ts with
    | .sign s :: r =>
      if signs.contains s then do
        let (b, r) ← ranked n skipped ranks r
        let c ← if skipped then pure b else liftM (apply s a b)
        further n skipped signs ranks c r
      else return (a, ts)
    | ts => return (a, ts)

/-- A number, a variable, a sign with its operand, or an expression in parentheses. -/
def operand : Nat → (skipped : Bool) → List Token → Evaluation (Int × List Token)
  | 0, _, _ => throw (.expecting "primary")
  | n + 1, skipped, ts =>
    match ts with
    | .number a :: r => return (a, r)
    | .name s :: r => do return (← if skipped then pure 0 else valueOf text s, r)
    | .sign "(" :: r => do
      let (a, r) ← assignment n skipped r
      match r with
      | .sign ")" :: r => return (a, r)
      | _ => throw (.expecting "')'")
    | .sign "+" :: r => operand n skipped r
    | .sign "-" :: r => do
      let (a, r) ← operand n skipped r
      return (wrapped (-a), r)
    | .sign "!" :: r => do
      let (a, r) ← operand n skipped r
      return (truth (a == 0), r)
    | .sign "~" :: r => do
      let (a, r) ← operand n skipped r
      return (-a - 1, r)
    | _ => throw (.expecting "primary")

end

/-- The value of an expression, given the texts that variables hold, and the variables that
it assigns to. -/
def evaluate (s : String) : Except Fault (Int × Assigned) := do
  let ts := tokens (s.length + 1) s.toList
  let ((a, r), assigned) ← assignment text (16 * (ts.length + 1)) false ts []
  if r.isEmpty then return (a, assigned) else throw (.expecting "EOF")

end

end DecoderBench.Shell.Arithmetic
