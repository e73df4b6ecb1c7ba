/-
The texts that a shell works on. They are any bytes, so each character of such a
text stands for one byte; a text of the machine around it is there as its UTF-8
bytes.
-/
import DecoderBench.Path
import DecoderBench.Text.Utf8

namespace DecoderBench.Shell

/-- The text of some bytes. -/
def textOfBytes (bs : List UInt8) : String := String.ofList (bs.map fun b => Char.ofNat b.toNat)

/-- The bytes of a text. -/
def bytesOf (s : String) : List UInt8 := s.toList.map fun c => c.toNat.toUInt8

/-- A text of the machine as the shell has it. -/
def inward (s : String) : String := textOfBytes (Utf8.encode s)

/-- A text of the shell as the machine has it. -/
def outward (s : String) : String := Utf8.decodeLossy (bytesOf s)

/-- The path that a text of the shell writes. -/
def pathOf (s : String) : Path := ⟨outward s⟩

/-! ## The first line of a script, which names the program that is to run it -/

/-- How many bytes of a program are looked at to find out what runs it. -/
def interpreterLimit : Nat := 256

/-- Whether a byte separates the words of the line. -/
def isBlank (b : UInt8) : Bool := b == 32 || b == 9

/-- What follows the mark on the first line, given as many bytes as are looked at. A line
that goes on beyond them counts only if the name on it does not. -/
def namingLine? (bs : List UInt8) : Option (List UInt8) :=
  if bs.contains 10 then some (bs.takeWhile (· != 10))
  else if (bs.dropWhile isBlank).any fun b => isBlank b || b == 0 then some bs.dropLast
  else none

/-- The program that is to run a script, and the argument that it gets before the script's
name, if the script names one. The argument is all that follows the program, without the
blanks around it. Either ends at a NUL, and so at the end of the file. -/
def interpreter? (content : List UInt8) : Option (String × Option String) :=
  let zeros := List.replicate (interpreterLimit - content.length) 0
  match content.take interpreterLimit ++ zeros with
  | 35 :: 33 :: r => do
    let line := (Text.dropTrailing isBlank (← namingLine? r)).dropWhile isBlank
    if line.isEmpty then none
    else
      let name := line.takeWhile fun b => !isBlank b && b != 0
      let rest := line.drop name.length
      let argument := rest.dropWhile isBlank
      return (textOfBytes name,
        if (rest.head?.map isBlank).getD false then
          some (textOfBytes (argument.takeWhile (· != 0)))
        else none)
  | _ => none

/-- The text of a script for the shell. -/
def scriptText (body : String) : String := "#!/bin/sh\n" ++ body ++ "\n"

end DecoderBench.Shell
