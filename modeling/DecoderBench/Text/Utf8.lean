/-
UTF-8: reading bytes as text, strictly or with a replacement for what is not text.

A character takes one to four bytes. Bytes that no character starts with, or a
character's first bytes with something else after them, are a fault; a fault
takes the bytes that could still have become a character, and at least one.
-/
namespace DecoderBench.Utf8

/-- The bytes of a text. -/
def encode (s : String) : List UInt8 := s.toUTF8.toList

/-- What a character's first byte tells: its payload bits, how many bytes follow,
and the bounds of the byte after it. -/
structure Lead where
  bits : Nat
  following : Nat
  least : UInt8
  most : UInt8

/-- The character that starts with `b`, if one does. The bounds of the second byte
keep out overlong forms, surrogates and everything above U+10FFFF. -/
def lead? (b : UInt8) : Option Lead :=
  let n := b.toNat
  if n < 0x80 then some ⟨n, 0, 0x80, 0xBF⟩
  else if n < 0xC2 then none
  else if n < 0xE0 then some ⟨n - 0xC0, 1, 0x80, 0xBF⟩
  else if n < 0xF0 then
    some ⟨n - 0xE0, 2, if n == 0xE0 then 0xA0 else 0x80, if n == 0xED then 0x9F else 0xBF⟩
  else if n < 0xF5 then
    some ⟨n - 0xF0, 3, if n == 0xF0 then 0x90 else 0x80, if n == 0xF4 then 0x8F else 0xBF⟩
  else none

/-- One step of reading: a character, or a fault. Either comes with the number of
bytes it takes; a fault also tells whether the input ended in it. -/
inductive Item
  | char (c : Char)
  | fault (length : Nat) (atEnd : Bool)

/-- Reads the `following` bytes of a character of which `taken` bytes are read. -/
def follow (bits : Nat) : (following taken : Nat) → (least most : UInt8) → List UInt8 →
    Item × List UInt8
  | 0, _, _, _, rest => (.char (Char.ofNat bits), rest)
  | _ + 1, taken, _, _, [] => (.fault taken true, [])
  | n + 1, taken, least, most, b :: rest =>
    if least ≤ b && b ≤ most then
      follow (bits * 64 + (b.toNat - 0x80)) n (taken + 1) 0x80 0xBF rest
    else (.fault taken false, b :: rest)

/-- Reads what starts with the byte `b`. -/
def next (b : UInt8) (rest : List UInt8) : Item × List UInt8 :=
  match lead? b with
  | none => (.fault 1 false, rest)
  | some l => follow l.bits l.following 1 l.least l.most rest

theorem length_follow_le (bits n taken : Nat) (least most : UInt8) (rest : List UInt8) :
    (follow bits n taken least most rest).2.length ≤ rest.length := by
  induction rest generalizing bits n taken least most with
  | nil => cases n <;> simp [follow]
  | cons b rest ih =>
    cases n with
    | zero => simp [follow]
    | succ n =>
      simp only [follow]
      split
      · exact Nat.le_succ_of_le (ih ..)
      · exact Nat.le_refl _

/-- Reading never gives back more than it was given. -/
theorem length_next_le (b : UInt8) (rest : List UInt8) : (next b rest).2.length ≤ rest.length := by
  unfold next
  split
  · exact Nat.le_refl _
  · exact length_follow_le ..

/-- The characters and faults that the bytes consist of. -/
def items : List UInt8 → List Item
  | [] => []
  | b :: rest => (next b rest).1 :: items (next b rest).2
termination_by bytes => bytes.length
decreasing_by exact Nat.lt_succ_of_le (length_next_le b rest)

/-- The first fault of some bytes: where it is, how long it is, and whether the
bytes end in it. -/
structure Fault where
  position : Nat
  length : Nat
  atEnd : Bool
  deriving DecidableEq

namespace Fault

/-- A fault in words. -/
def message (f : Fault) : String :=
  if f.atEnd then "incomplete utf-8 byte sequence from index " ++ toString f.position
  else
    "invalid utf-8 sequence of " ++ toString f.length ++ " bytes from index " ++
      toString f.position

end Fault

/-- The characters of the items, or the first fault; `position` bytes came before. -/
def gather (position : Nat) : List Item → Except Fault (List Char)
  | [] => .ok []
  | .fault length atEnd :: _ => .error ⟨position, length, atEnd⟩
  | .char c :: rest => (gather (position + c.utf8Size) rest).map (c :: ·)

/-- The text that the bytes are, if they are text throughout. -/
def decode (bytes : List UInt8) : Except Fault String :=
  (gather 0 (items bytes)).map String.ofList

/-- The text of the bytes with U+FFFD in the place of each fault. -/
def decodeLossy (bytes : List UInt8) : String :=
  String.ofList ((items bytes).map fun
    | .char c => c
    | .fault .. => '\uFFFD')

end DecoderBench.Utf8
