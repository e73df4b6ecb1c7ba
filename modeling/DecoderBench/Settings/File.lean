/-
Settings files: a document that assigns texts to the keys of settings.
-/
import DecoderBench.Settings
import DecoderBench.Toml.Document

namespace DecoderBench

/-- The setting with the given key. -/
def Setting.ofKey? (key : String) : Option Setting := Setting.all.find? fun k => k.key == key

namespace Settings

/-- The name of a settings file. -/
def fileName : String := ".debug-decoders.toml"

/-- Why a text gives no settings. -/
inductive Fault
  /-- It is no document of settings. -/
  | unreadable
  /-- Its settings cannot be used. -/
  | unusable (problems : List Problem)
  deriving DecidableEq

/-- A fault in words. -/
def Fault.message : Fault → String
  | .unreadable => "Failed to parse " ++ fileName
  | .unusable problems => "; ".intercalate (problems.map Problem.message)

/-- The values that the assignments give, if every key is a setting's and none comes
twice. -/
def ofAssignments? (as : List Toml.Assignment) : Option Settings :=
  if as.all (fun a => (Setting.ofKey? a.1).isSome) && (as.map (·.1)).Nodup then
    some ⟨fun k => as.lookup k.key⟩
  else .none

/-- The settings that a text gives. -/
def parse (text : String) : Except Fault Settings :=
  match (Toml.parse text).bind ofAssignments? with
  | .none => .error .unreadable
  | some s =>
    match s.problems with
    | [] => .ok s
    | ps => .error (.unusable ps)

/-- The assignments of the given values, in the order of the settings `ks`. -/
def assignments (s : Settings) (ks : List Setting) : List Toml.Assignment :=
  ks.filterMap fun k => (s.given k).map fun v => (k.key, v)

/-- The settings file for the given values. -/
def write (s : Settings) : String := Toml.write (s.assignments Setting.all)

/-- The settings file to start from: every setting with its default and what it
means. -/
def template : String :=
  "\n".intercalate
    [ "# debug-decoders configuration"
    , ""
    , "# A signature is a decoder when its first token is this type."
    , entry .decoderType
    , ""
    , "# A function is a view when it returns this type."
    , entry .viewType
    , ""
    , "# Name of the generated module, written to <project>/<name>.elm"
    , entry .moduleName
    , ""
    , "# Tool that prints the project's module interfaces as JSON"
    , entry .extractor
    , ""
    , "# File that must exist in the project directory"
    , entry .manifest
    , "" ]
where
  /-- The line that gives a setting its default. -/
  entry (k : Setting) : String := k.key ++ " = \"" ++ k.default ++ "\""

end Settings
end DecoderBench
