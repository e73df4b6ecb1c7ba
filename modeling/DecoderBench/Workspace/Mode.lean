/-
What users may do with a file.

A mode has a number of three octal digits, one for each kind of user: four for
reading, two for writing and one for running. Its letters come in the same order.
-/
import DecoderBench.Host

namespace DecoderBench

/-- What one kind of user may do with a file. -/
structure Rights where
  reads : Bool
  writes : Bool
  runs : Bool
  deriving DecidableEq

/-- What the owner of a file, the users in its group, and all others may do with it. -/
structure Mode where
  owner : Rights
  group : Rights
  others : Rights
  deriving DecidableEq

namespace Rights

/-- The rights that an octal digit stands for. -/
def ofDigit (n : Nat) : Rights := ⟨n / 4 % 2 == 1, n / 2 % 2 == 1, n % 2 == 1⟩

/-- The octal digit that stands for rights. -/
def digit (r : Rights) : Nat :=
  (if r.reads then 4 else 0) + (if r.writes then 2 else 0) + (if r.runs then 1 else 0)

/-- The letters of rights, with dashes in the place of those that are missing. -/
def letters (r : Rights) : List Char :=
  [if r.reads then 'r' else '-', if r.writes then 'w' else '-', if r.runs then 'x' else '-']

/-- The letters of the rights that there are. -/
def shortLetters (r : Rights) : List Char := r.letters.filter (· != '-')

/-- The rights of one or the other. -/
def union (r s : Rights) : Rights := ⟨r.reads || s.reads, r.writes || s.writes, r.runs || s.runs⟩

/-- The rights of the first that the second does not have. -/
def without (r s : Rights) : Rights :=
  ⟨r.reads && !s.reads, r.writes && !s.writes, r.runs && !s.runs⟩

end Rights

namespace Mode

/-- The mode of a number; only its last three octal digits count. -/
def ofNumber (n : Nat) : Mode := ⟨.ofDigit (n / 64 % 8), .ofDigit (n / 8 % 8), .ofDigit (n % 8)⟩

/-- The number of a mode. -/
def number (m : Mode) : Nat := m.owner.digit * 64 + m.group.digit * 8 + m.others.digit

/-- The nine letters of a mode. -/
def letters (m : Mode) : List Char := m.owner.letters ++ m.group.letters ++ m.others.letters

/-- The same rights for all users. -/
def forAll (r : Rights) : Mode := ⟨r, r, r⟩

/-- The mode that allows everything. -/
def full : Mode := forAll ⟨true, true, true⟩

/-- The rights of one or the other. -/
def union (m n : Mode) : Mode :=
  ⟨m.owner.union n.owner, m.group.union n.group, m.others.union n.others⟩

/-- The rights of the first that the second does not have. -/
def without (m n : Mode) : Mode :=
  ⟨m.owner.without n.owner, m.group.without n.group, m.others.without n.others⟩

/-- The rights that both have. -/
def common (m n : Mode) : Mode := m.without (m.without n)

/-- Whether a file may be run, which is so if anyone may. -/
def isRunnable (m : Mode) : Bool := m.owner.runs || m.group.runs || m.others.runs

/-- The mode of a file that is written, where nothing else is asked for. -/
def usual : Mode := ⟨⟨true, true, false⟩, ⟨true, false, false⟩, ⟨true, false, false⟩⟩

/-- The mode of a program. -/
def runnable : Mode := ⟨⟨true, true, true⟩, ⟨true, false, true⟩, ⟨true, false, true⟩⟩

end Mode
end DecoderBench
