/-
What `echo` and `printf` make of their arguments: escapes, and conversions with
their widths.
-/
import DecoderBench.Shell.ByteText
import DecoderBench.Text.Hexadecimal
import DecoderBench.Text.Tokens

namespace DecoderBench.Shell

/-! ## Escapes -/

/-- Up to `n` octal digits at the start of a text, as a number, and the rest. -/
def octal : Nat → Nat → List Char → Nat × List Char
  | n + 1, value, c :: r =>
    if '0' ≤ c && c ≤ '7' then octal n (value * 8 + (c.toNat - '0'.toNat)) r else (value, c :: r)
  | _, value, r => (value, r)

theorem octal_length (n value : Nat) (cs : List Char) :
    (octal n value cs).2.length ≤ cs.length := by
  fun_induction octal n value cs with
  | case1 n value c r _ ih => exact Nat.le_succ_of_le ih
  | case2 => exact Nat.le_refl _
  | case3 => exact Nat.le_refl _

/-- The byte of a letter after a backslash. -/
def escaped? : Char → Option UInt8
  | 'a' => some 7
  | 'b' => some 8
  | 'e' => some 27
  | 't' => some 9
  | 'n' => some 10
  | 'v' => some 11
  | 'f' => some 12
  | 'r' => some 13
  | '\\' => some 92
  | _ => none

/-- The byte that a character stands for. -/
def byteOf (c : Char) : List UInt8 := bytesOf c.toString

/-- How many more octal digits an escape has after its first one. It is one more after
a zero where `zeroed` texts are read. -/
def furtherDigits (zeroed : Bool) (first : Char) : Nat :=
  if zeroed && first == '0' then 3 else 2

/-- The bytes of a text with escapes, and whether it is cut off by `\c`. -/
def unescape (zeroed : Bool) : List Char → List UInt8 × Bool
  | [] => ([], false)
  | '\\' :: c :: r =>
    if c == 'c' then ([], true)
    else
      match escaped? c with
      | some b => (b :: (unescape zeroed r).1, (unescape zeroed r).2)
      | none =>
        if '0' ≤ c && c ≤ '7' then
          let s := unescape zeroed (octal (furtherDigits zeroed c) (c.toNat - '0'.toNat) r).2
          ((octal (furtherDigits zeroed c) (c.toNat - '0'.toNat) r).1.toUInt8 :: s.1, s.2)
        else
          let s := unescape zeroed r
          (92 :: byteOf c ++ s.1, s.2)
  | c :: r =>
    let s := unescape zeroed r
    (byteOf c ++ s.1, s.2)
termination_by cs => cs.length
decreasing_by
  all_goals simp only [List.length_cons]
  all_goals try omega
  have := octal_length (furtherDigits zeroed c) (c.toNat - '0'.toNat) r
  omega

/-- What `echo` prints. -/
def echoed (args : List String) : List UInt8 :=
  let newline := args.head? != some "-n"
  let s := unescape true (" ".intercalate (if newline then args else args.tail)).toList
  s.1 ++ (if newline && !s.2 then [10] else [])

/-! ## Numbers -/

/-- How many numbers 64 bits can hold. -/
def wordSize : Nat := 18446744073709551616

/-- A number as it is at the start of an argument, after blanks: a whole one with a sign, in
one of the three bases; and what follows it. -/
def numberAt (cs : List Char) : Option (Int × List Char) :=
  let cs := cs.dropWhile fun c => c == ' ' || ('\t' ≤ c && c ≤ '\r')
  let (negative, cs) :=
    match cs with
    | '-' :: r => (true, r)
    | '+' :: r => (false, r)
    | r => (false, r)
  let isHex (c : Char) : Bool := (Text.hexNumber? [c]).isSome
  let based : Option (Nat × List Char) :=
    match cs with
    | '0' :: x :: r =>
      let own := r.takeWhile isHex
      if (x == 'x' || x == 'X') && !own.isEmpty then
        (Text.hexNumber? own).map fun n => (n, r.drop own.length)
      else
        let own := (x :: r).takeWhile fun c => '0' ≤ c && c ≤ '7'
        some ((octal own.length 0 own).1, (x :: r).drop own.length)
    | r =>
      let own := r.takeWhile Char.isDigit
      if own.isEmpty then none
      else some (((String.ofList own).toNat?).getD 0, r.drop own.length)
  based.map fun s => (if negative then -(s.1 : Int) else s.1, s.2)

/-- What is wrong with an argument that is to be a number, given what follows the number. -/
def numberFault (s : String) (rest? : Option (List Char)) (fits : Bool) : Option String :=
  match rest? with
  | none => if s.isEmpty then none else some (s ++ ": expected numeric value")
  | some (_ :: _) => some (s ++ ": not completely converted")
  | some [] => if fits then none else some (s ++ ": Numerical result out of range")

/-- The number that an argument is, within 64 bits, and what is wrong with it. After a quote
it is the code of a character. -/
def wholeNumber (signed : Bool) (s : String) : Int × Option String :=
  match s.toList with
  | '\x27' :: r => ((r.head?.map Char.toNat).getD 0, none)
  | '"' :: r => ((r.head?.map Char.toNat).getD 0, none)
  | cs =>
    let read := numberAt cs
    let n := (read.map (·.1)).getD 0
    let half : Int := (wordSize / 2 : Nat)
    let high : Int := if signed then half - 1 else (wordSize - 1 : Nat)
    let low : Int := if signed then -half else -high
    let fits := decide (low ≤ n) && decide (n ≤ high)
    (if n < low then (if signed then low else high) else if high < n then high else n,
      numberFault s (read.map (·.2)) fits)

/-! ## Conversions -/

/-- A width or a precision: a number, or the next argument. -/
inductive Amount
  | number (n : Nat)
  | argument

/-- How a converted argument is set: its flags, its width, and its precision. -/
structure Setting where
  left : Bool := false
  zero : Bool := false
  plus : Bool := false
  space : Bool := false
  alternate : Bool := false
  width : Nat := 0
  precision : Option Nat := none

/-- A part of a format. -/
inductive Piece
  | bytes (bs : List UInt8)
  | conversion (setting : Setting) (width : Amount) (precision : Option Amount) (letter : Char)
  /-- A percent sign with what follows it starts no conversion. -/
  | invalid (s : String)

/-- The flags at the start of a conversion, and what follows them. -/
def flags (s : Setting) : List Char → Setting × List Char
  | '-' :: r => flags { s with left := true } r
  | '0' :: r => flags { s with zero := true } r
  | '+' :: r => flags { s with plus := true } r
  | ' ' :: r => flags { s with space := true } r
  | '#' :: r => flags { s with alternate := true } r
  | r => (s, r)

theorem flags_length (s : Setting) (cs : List Char) : (flags s cs).2.length ≤ cs.length := by
  fun_induction flags s cs with
  | case6 => exact Nat.le_refl _
  | _ => rename_i ih; exact Nat.le_succ_of_le ih

/-- An amount at the start of a text, and what follows it. -/
def amount : List Char → Amount × List Char
  | '*' :: r => (.argument, r)
  | cs =>
    (.number (((String.ofList (cs.takeWhile Char.isDigit)).toNat?).getD 0),
      cs.dropWhile Char.isDigit)

theorem amount_length (cs : List Char) : (amount cs).2.length ≤ cs.length := by
  unfold amount
  split
  · exact Nat.le_succ _
  · exact (List.dropWhile_suffix _).length_le

/-- A precision, if a point comes next, and what follows it. -/
def precision : List Char → Option Amount × List Char
  | '.' :: r => (some (amount r).1, (amount r).2)
  | r => (none, r)

theorem precision_length (cs : List Char) : (precision cs).2.length ≤ cs.length := by
  unfold precision
  split
  · exact Nat.le_succ_of_le (amount_length _)
  · exact Nat.le_refl _

/-- The setting of a conversion after its percent sign, and what follows it. -/
def setting (cs : List Char) : (Setting × Amount × Option Amount) × List Char :=
  let f := flags {} cs
  let w := amount f.2
  let p := precision w.2
  ((f.1, w.1, p.1), p.2)

theorem setting_length (cs : List Char) : (setting cs).2.length ≤ cs.length :=
  Nat.le_trans (precision_length _) (Nat.le_trans (amount_length _) (flags_length _ _))

/-- The letters of the conversions. -/
def conversions : List Char := ['s', 'b', 'c', 'd', 'i', 'u', 'o', 'x', 'X']

/-- The parts of a format, up to the first percent sign that starts no conversion. -/
def pieces : List Char → List Piece
  | [] => []
  | '%' :: '%' :: r => .bytes [37] :: pieces r
  | '%' :: r =>
    match _h : (setting r).2 with
    | letter :: rest =>
      if conversions.contains letter then
        .conversion (setting r).1.1 (setting r).1.2.1 (setting r).1.2.2 letter :: pieces rest
      else
        let directive := String.ofList ('%' :: r.take (r.length - rest.length))
        [.invalid (directive ++ ": invalid directive")]
    | [] => [.invalid "missing format character"]
  | '\\' :: c :: r =>
    match escaped? c with
    | some b => .bytes [b] :: pieces r
    | none =>
      if '0' ≤ c && c ≤ '7' then
        .bytes [(octal 2 (c.toNat - '0'.toNat) r).1.toUInt8] ::
          pieces (octal 2 (c.toNat - '0'.toNat) r).2
      else .bytes (92 :: byteOf c) :: pieces r
  | c :: r => .bytes (byteOf c) :: pieces r
termination_by cs => cs.length
decreasing_by
  all_goals simp only [List.length_cons]
  all_goals try omega
  · have := setting_length r
    rw [_h] at this
    simp only [List.length_cons] at this
    omega
  · have := octal_length 2 (c.toNat - '0'.toNat) r
    omega

/-- Bytes in a field of a width. -/
def pad (s : Setting) (bs : List UInt8) : List UInt8 :=
  let blanks := List.replicate (s.width - bs.length) 32
  if s.left then bs ++ blanks else blanks ++ bs

/-- Digits in a field, with zeros after the sign if the field is filled with them. -/
def padDigits (s : Setting) (filled : Bool) (sign digits : String) : List UInt8 :=
  let zeros := if filled && s.zero && !s.left then s.width - sign.length - digits.length else 0
  pad s (bytesOf (sign ++ String.ofList (List.replicate zeros '0') ++ digits))

/-- A whole number's digits, with as many zeros as the precision asks for. There are none for
a zero if none are asked for. -/
def wholeDigits (s : Setting) (digits : String) : String :=
  match s.precision with
  | some p =>
    if p == 0 && digits == "0" then ""
    else String.ofList (List.replicate (p - digits.length) '0') ++ digits
  | none => digits

/-- The digits of a number to a base, in the letter's case. -/
def digitsIn (letter : Char) (n : Nat) : String :=
  match letter with
  | 'o' => String.ofList (Nat.toDigits 8 n)
  | 'x' => String.ofList (Nat.toDigits 16 n)
  | 'X' => (String.ofList (Nat.toDigits 16 n)).toUpper
  | _ => toString n

/-- The sign that a number is written with. -/
def signOf (s : Setting) (negative : Bool) : String :=
  if negative then "-" else if s.plus then "+" else if s.space then " " else ""

/-- An argument, converted. -/
structure Converted where
  bytes : List UInt8
  /-- Whether all that follows is cut off. -/
  cut : Bool := false
  fault : Option String := none

/-- A whole number with its sign. -/
def signedText (s : Setting) (n : Int) : List UInt8 :=
  padDigits s s.precision.isNone (signOf s (n < 0)) (wholeDigits s (toString n.natAbs))

/-- A whole number without a sign. -/
def unsignedText (s : Setting) (letter : Char) (n : Int) : List UInt8 :=
  let n := if n < 0 then wordSize - n.natAbs else n.natAbs
  let digits := wholeDigits s (digitsIn letter n)
  let mark :=
    if !s.alternate then ""
    else
      match letter with
      | 'o' => if digits.startsWith "0" then "" else "0"
      | 'x' => if n == 0 then "" else "0x"
      | 'X' => if n == 0 then "" else "0X"
      | _ => ""
  padDigits s s.precision.isNone mark digits

/-- Converts an argument. -/
def convert (s : Setting) (letter : Char) (arg : String) : Converted :=
  let limited (bs : List UInt8) := match s.precision with
    | some p => bs.take p
    | none => bs
  match letter with
  | 's' => { bytes := pad s (limited (bytesOf arg)) }
  | 'b' =>
    let u := unescape true arg.toList
    { bytes := pad s (limited u.1), cut := u.2 }
  | 'c' => { bytes := pad s ((bytesOf arg).take 1) }
  | letter =>
    if letter == 'd' || letter == 'i' then
      { bytes := signedText s (wholeNumber true arg).1, fault := (wholeNumber true arg).2 }
    else
      { bytes := unsignedText s letter (wholeNumber false arg).1,
        fault := (wholeNumber false arg).2 }

/-- A format with arguments in the places of its conversions. -/
structure Filled where
  bytes : List UInt8
  /-- The arguments that are left. -/
  rest : List String
  /-- Whether what follows is cut off. -/
  cut : Bool := false
  /-- What is wrong with arguments. -/
  faults : List String := []
  /-- What is wrong with the format, where it is reached. -/
  fault : Option String := none

/-- Puts bytes before what is printed, and faults before what is wrong. -/
def Filled.after (bs : List UInt8) (faults : List String) (f : Filled) : Filled :=
  { f with bytes := bs ++ f.bytes, faults := faults ++ f.faults }

/-- An amount out of the arguments if it is to be one of them, with those that are left and
what is wrong with it. -/
def Amount.take (a : Amount) (args : List String) : Int × List String × List String :=
  match a with
  | .number n => (n, args, [])
  | .argument =>
    let n := wholeNumber true (args.headD "")
    (n.1, args.tail, n.2.toList)

/-- A setting with a width, of which a sign asks for the left side, and a precision, of which
a sign takes it back. -/
def Setting.sized (s : Setting) (width : Int) (precision : Option Int) : Setting :=
  { s with
    left := s.left || decide (width < 0),
    width := width.natAbs,
    precision := precision.bind fun n => if n < 0 then none else some n.toNat }

/-- Fills a format. -/
def fill : List Piece → List String → Filled
  | [], args => { bytes := [], rest := args }
  | .bytes bs :: ps, args => (fill ps args).after bs []
  | .conversion setting width precision letter :: ps, args =>
    let w := width.take args
    let p := match precision with
      | some a => let t := a.take w.2.1; (some t.1, t.2.1, t.2.2)
      | none => (none, w.2.1, [])
    let c := convert (setting.sized w.1 p.1) letter (p.2.1.headD "")
    let faults := w.2.2 ++ p.2.2 ++ c.fault.toList
    if c.cut then { bytes := c.bytes, rest := p.2.1.tail, cut := true, faults }
    else (fill ps p.2.1.tail).after c.bytes faults
  | .invalid complaint :: _, args => { bytes := [], rest := args, cut := true, fault := complaint }

/-- A format that is gone through as long as it uses arguments up. -/
def fillAll (ps : List Piece) (args : List String) : Filled :=
  if _h : (fill ps args).rest.length < args.length then
    if (fill ps args).rest.isEmpty || (fill ps args).cut then fill ps args
    else (fillAll ps (fill ps args).rest).after (fill ps args).bytes (fill ps args).faults
  else fill ps args
termination_by args.length

/-- What `printf` prints. -/
def formatted (format : String) (args : List String) : Filled :=
  fillAll (pieces format.toList) args

end DecoderBench.Shell
