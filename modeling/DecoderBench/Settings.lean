/-
The settings of a run, each of which has a default, and what is wrong with values
that cannot be used.
-/
import DecoderBench.PairedProgram
import DecoderBench.Text.Quoted

namespace DecoderBench

/-- What can be set. -/
inductive Setting
  /-- The first token of a decoder's type. -/
  | decoderType
  /-- The result of a simple view. -/
  | viewType
  /-- The name of the generated module. -/
  | moduleName
  /-- The program that prints the interfaces of a project's modules. -/
  | extractor
  /-- The file that a project's directory must hold. -/
  | manifest
  deriving DecidableEq

namespace Setting

/-- All settings, in the order in which they are checked. -/
def all : List Setting := [.decoderType, .viewType, .moduleName, .extractor, .manifest]

/-- The key of a setting in a settings file. -/
def key : Setting → String
  | .decoderType => "decoder_type"
  | .viewType => "view_type"
  | .moduleName => "module_name"
  | .extractor => "extractor"
  | .manifest => "manifest"

/-- The value of a setting that is not given. -/
def default : Setting → String
  | .decoderType => Classifier.defaultDecoderType
  | .viewType => Classifier.defaultViewType
  | .moduleName => Program.defaultName
  | .extractor => "elm-interface-to-json"
  | .manifest => "elm-package.json"

end Setting

/-- The values that are given. -/
structure Settings where
  given : Setting → Option String

namespace Settings

/-- The settings of a run for which none are given. -/
def none : Settings := ⟨fun _ => .none⟩

/-- The value of a setting, given or not. -/
def value (s : Settings) (k : Setting) : String := (s.given k).getD k.default

/-- The classifier that compares names with the types of the settings. -/
def classifier (s : Settings) : Classifier := .lexical (s.value .decoderType) (s.value .viewType)

/-- What can be wrong with a value. -/
inductive Problem
  /-- There is nothing in it. -/
  | empty (k : Setting)
  /-- A type's name has a blank in it. -/
  | blank (k : Setting) (value : String)
  /-- The name of the generated module starts with something other than a capital. -/
  | start (value : String)
  deriving DecidableEq

/-- A problem in words. -/
def Problem.message : Problem → String
  | .empty k => k.key ++ " must not be empty"
  | .blank k v => k.key ++ " must not contain whitespace, got " ++ Text.quoted v
  | .start v =>
    Setting.moduleName.key ++ " must start with an uppercase ASCII letter, got " ++ Text.quoted v

/-- What is wrong with the name of a type. -/
def typeProblem? (k : Setting) (value : String) : Option Problem :=
  if value.isEmpty then some (.empty k)
  else if value.toList.any Text.isBlank then some (.blank k value)
  else .none

/-- What is wrong with the name of a module. -/
def nameProblem? (value : String) : Option Problem :=
  match value.toList with
  | c :: _ => if c.isUpper then .none else some (.start value)
  | [] => some (.start value)

/-- What is wrong with a value that only has to be something. -/
def emptyProblem? (k : Setting) (value : String) : Option Problem :=
  if (Text.trim value.toList).isEmpty then some (.empty k) else .none

/-- What is wrong with a value of a setting. -/
def problem? (k : Setting) (value : String) : Option Problem :=
  match k with
  | .decoderType | .viewType => typeProblem? k value
  | .moduleName => nameProblem? value
  | .extractor | .manifest => emptyProblem? k value

/-- What is wrong with the settings. -/
def problems (s : Settings) : List Problem := Setting.all.filterMap fun k => problem? k (s.value k)

/-- The generated module for a program's modules. -/
def generate (s : Settings) (modules : List Module) : GeneratedModule :=
  (PairedProgram.of s.classifier modules).generate s.classifier (s.value .moduleName)

end Settings
end DecoderBench
