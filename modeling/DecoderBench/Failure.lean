/-
Why a run fails, in words and as an exit status.
-/
import DecoderBench.Settings.File

namespace DecoderBench

/-- What can go wrong in a run. Classifying, pairing and generating never fail. -/
inductive Failure
  /-- The project's directory lacks the file that marks a project. -/
  | manifestMissing (manifest project : String)
  /-- There is no program of the extractor's name. -/
  | extractorMissing (program : String)
  /-- The extractor ended with a status other than zero, or complained. -/
  | extractorFailed (program : String) (status : Option Int) (complaint : String)
  /-- What should be a list of module interfaces is none. -/
  | interfaceUnreadable
  /-- The settings cannot be used. -/
  | configuration (reason : String)
  /-- There is a settings file already where a new one should be written. -/
  | settingsPresent
  /-- The system refused something. -/
  | system (reason : String)
  /-- A failure with what was being done. -/
  | during (activity reason : String)
  deriving DecidableEq

namespace Failure

/-- The status of an extractor in words. -/
def statusText (status : Option Int) : String := status.elim "none" toString

/-- A failure in words. -/
def message : Failure → String
  | manifestMissing manifest project => manifest ++ " did not exist at " ++ project
  | extractorMissing program =>
    "Unable to start " ++ program ++ ". Install it globally first: npm install -g " ++ program
  | extractorFailed program status complaint =>
    program ++ " failed with exit code " ++ statusText status ++ ": " ++ complaint
  | interfaceUnreadable => "Could not read module interfaces"
  | configuration reason => "Configuration error: " ++ reason
  | settingsPresent => "Configuration file already exists. Use --force to overwrite."
  | system reason => reason
  | during activity reason => activity ++ ": " ++ reason

/-- The failure with what was being done when it came up. -/
def context (f : Failure) (activity : String) : Failure := during activity f.message

/-- The status that a failure asks for: an extractor's own, if it is not zero, and
otherwise one. -/
def exitCode : Failure → Int
  | extractorFailed _ (some status) _ => if status == 0 then 1 else status
  | _ => 1

/-- The status that a run ends with: a status that does not fit into a byte becomes
one. -/
def exitStatus (f : Failure) : UInt8 :=
  if 0 ≤ f.exitCode ∧ f.exitCode < 256 then f.exitCode.toNat.toUInt8 else 1

/-- Settings that cannot be used. -/
def ofSettings (f : Settings.Fault) : Failure := configuration f.message

end Failure
end DecoderBench
