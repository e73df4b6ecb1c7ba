/-
What the generated program declares: its imports, its constructors with the
branches that belong to them, and its tables.

Decoders whose types have the same tokens share a constructor. Where two other
types ask for one name, the later one gets a number, so that no constructor is
declared twice.
-/
import DecoderBench.Identifier
import DecoderBench.Pairing

namespace DecoderBench

/-- A constructor for decoded values, the type it carries, and the function that
shows values of that type. -/
structure DecodedCase where
  name : String
  payload : String
  view : String
  deriving DecidableEq

/-- A constructor for views that have the type `signature`. -/
structure ViewCase where
  name : String
  signature : String
  deriving DecidableEq

/-- A row of the table of decoders: which constructor wraps the decoded value and
which view is named as the one that shows it. -/
structure DecoderRow where
  reference : String
  constructor : String
  view : String
  deriving DecidableEq

/-- Everything that is decided about the generated program before it is written. -/
structure Plan where
  imports : List String := []
  decodedCases : List DecodedCase := []
  viewCases : List ViewCase := []
  decoderRows : List DecoderRow := []
  /-- The reference of each view, with the constructor of its type. -/
  knownViews : List (String × String) := []
  deriving DecidableEq

/-- The elements of `l` whose keys do not occur earlier in it. -/
def firstsBy {α : Type} (key : α → String) (l : List α) : List α :=
  go [] l
where
  /-- The same, given the keys that occurred before. -/
  go (seen : List String) : List α → List α
    | [] => []
    | a :: l => if key a ∈ seen then go seen l else a :: go (key a :: seen) l

/-- Cases and rows while the pairings are gone through. Each case stands beside
the tokens of the type it was made for. -/
structure DecoderTable where
  cases : List (List (List Char) × DecodedCase) := []
  rows : List DecoderRow := []

namespace DecoderTable

/-- The constructors given out so far. -/
def taken (t : DecoderTable) : List String := t.cases.map fun c => c.2.name

/-- The case that a new type gets: its payload's name, with a number if it is taken. -/
def newCase (classifier : Classifier) (t : DecoderTable) (p : Pairing) : DecodedCase where
  name := Identifier.fresh p.decoder.payloadName t.taken
  payload := classifier.payload p.decoder
  view := p.rendering.reference

/-- The row of a pairing whose values are wrapped by `constructor`. -/
def rowOf (p : Pairing) (constructor : String) : DecoderRow :=
  ⟨p.reference, constructor, p.rendering.reference⟩

/-- The table with one pairing more: a case is added if the decoder's tokens are new. -/
def add (classifier : Classifier) (t : DecoderTable) (p : Pairing) : DecoderTable :=
  let key := Text.tokens p.decoder.type.toList
  match t.cases.lookup key with
  | some c => { t with rows := t.rows ++ [rowOf p c.name] }
  | none =>
    let c := newCase classifier t p
    { cases := t.cases ++ [(key, c)], rows := t.rows ++ [rowOf p c.name] }

/-- The table of all the pairings. -/
def of (classifier : Classifier) (pairings : List Pairing) : DecoderTable :=
  pairings.foldl (add classifier) {}

end DecoderTable

namespace Plan

/-- The modules that have something to refer to and a name to refer to it by. -/
def importsOf (modules : List Module) : List String :=
  firstsBy id ((modules.filter fun m => !m.isEmpty && !m.isNameless).map (·.name))

/-- One constructor for each type of a simple view. -/
def viewCasesOf (classifier : Classifier) (modules : List Module) : List ViewCase :=
  let views := modules.flatMap fun m => (m.restrict classifier .views).signatures
  (firstsBy Signature.tagName views).map fun v => ⟨v.tagName, v.type⟩

/-- Each simple view with its constructor. -/
def knownViewsOf (classifier : Classifier) (modules : List Module) : List (String × String) :=
  modules.flatMap fun m =>
    (m.restrict classifier .views).signatures.map fun v => (m.reference v.name, v.tagName)

/-- The plan for the pairings of a program whose classified modules are `modules`. -/
def of (classifier : Classifier) (modules : List Module) (pairings : List Pairing) : Plan :=
  let table := DecoderTable.of classifier pairings
  { imports := importsOf modules
    decodedCases := table.cases.map (·.2)
    viewCases := viewCasesOf classifier modules
    decoderRows := table.rows
    knownViews := knownViewsOf classifier modules }

end Plan
end DecoderBench
