/-
What a run needs from the machine that it runs on: files, directories, programs
to start, and a place to print to.
-/
import DecoderBench.Path

namespace DecoderBench

/-- Why the machine refuses something. -/
inductive SystemFault
  | notFound
  | alreadyThere
  | notDirectory
  | isDirectory
  | notProgram
  | accessDenied
  | nameTooLong
  /-- Too many steps lead on from one file to the next. -/
  | tooManyLinks
  /-- Nothing more can be stored. -/
  | noSpace
  /-- A path with a NUL in it names nothing. -/
  | nulInPath
  /-- A NUL would end an argument of a program early. -/
  | nulInArgument
  /-- Another reason, in the machine's own words. -/
  | other (reason : String)
  deriving DecidableEq

/-- A refusal in words. -/
def SystemFault.words : SystemFault → String
  | .notFound => "No such file or directory"
  | .notProgram => "Exec format error"
  | .alreadyThere => "File exists"
  | .notDirectory => "Not a directory"
  | .isDirectory => "Is a directory"
  | .accessDenied => "Permission denied"
  | .nameTooLong => "File name too long"
  | .tooManyLinks => "Too many levels of symbolic links"
  | .noSpace => "No space left on device"
  | .nulInPath => "file name contained an unexpected NUL byte"
  | .nulInArgument => "nul byte found in provided data"
  | .other reason => reason

/-- The number of a refusal, if its reason has one. -/
def SystemFault.number? : SystemFault → Option Nat
  | .notFound => some 2
  | .notProgram => some 8
  | .accessDenied => some 13
  | .alreadyThere => some 17
  | .notDirectory => some 20
  | .isDirectory => some 21
  | .noSpace => some 28
  | .nameTooLong => some 36
  | .tooManyLinks => some 40
  | .nulInPath | .nulInArgument | .other _ => none

/-- A refusal in words, with its number. -/
def SystemFault.message (f : SystemFault) : String :=
  match f.number? with
  | some n => f.words ++ " (os error " ++ toString n ++ ")"
  | none => f.words

/-- What a path can lead to. -/
inductive Kind
  | file
  | directory
  /-- Neither of them, such as a device. -/
  | other
  deriving DecidableEq

/-- How a program ended: its status, if it was not stopped from outside, and what it
wrote to its output and to its diagnostics. -/
structure Outcome where
  status : Option Int
  output : List UInt8
  diagnostics : List UInt8
  deriving DecidableEq

/-- A machine, whose operations are the effects of `m`. -/
class Host (m : Type → Type) where
  /-- The working directory. -/
  workingDirectory : m (Except SystemFault Path)
  /-- What a path leads to, if it leads anywhere. -/
  kind? : Path → m (Option Kind)
  /-- The content of a file. -/
  read : Path → m (Except SystemFault (List UInt8))
  /-- Gives a file its content. The file is created if its directory is there. -/
  write : Path → List UInt8 → m (Except SystemFault Unit)
  /-- Creates a directory in one that is there. -/
  makeDirectory : Path → m (Except SystemFault Unit)
  /-- Where the program of a name is, if there is one that can be started. -/
  findProgram : String → m (Option Path)
  /-- Runs a program to its end. -/
  start : Path → List String → m (Except SystemFault Outcome)
  /-- Prints a text. -/
  print : String → m Unit

end DecoderBench
