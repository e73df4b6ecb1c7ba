/-
A program whose modules are reduced to decoders and views and whose decoders are
paired: what the generated module and the report are both made from.
-/
import DecoderBench.Program

namespace DecoderBench

/-- A program's modules, classified, with the pairings of their decoders. -/
structure PairedProgram where
  modules : List Module
  pairings : List Pairing
  deriving DecidableEq

namespace PairedProgram

/-- Classifies the modules of a program and pairs what is left of them. -/
def of (classifier : Classifier) (modules : List Module) : PairedProgram :=
  let kept := classify classifier modules
  ⟨kept, pair classifier kept⟩

/-- The counts of the pairings. -/
def summary (p : PairedProgram) : Summary := .of p.pairings

/-- The generated module of a paired program. -/
def generate (p : PairedProgram) (classifier : Classifier) (name : String) : GeneratedModule :=
  Program.render (Plan.of classifier p.modules p.pairings) name

end PairedProgram
end DecoderBench
