/-
Carrying out commands.
-/
import DecoderBench.Command
import DecoderBench.Extractor
import DecoderBench.Settings.Discovery

namespace DecoderBench

variable {m : Type → Type} [Monad m] [Host m]

/-- Where a generated module goes unless something else is said. -/
def defaultOutput (project : Path) (module : GeneratedModule) : Path :=
  project.join ⟨module.fileName⟩

/-- Where a run saves the module that it generates. -/
def GenerateJob.target (job : GenerateJob) (module : GeneratedModule) : Path :=
  job.output.getD (defaultOutput job.source.path module)

/-- A generated module may not take the name of a module of the project: saving it
would overwrite that module. -/
def ensureNameIsFree (modules : List Module) (name : String) : Except Failure Unit :=
  if modules.any fun m => m.name == name then
    .error (.configuration ("module_name " ++ Text.quoted name ++
      " is already a module of this project; choose another name"))
  else .ok ()

theorem ensureNameIsFree_eq_ok_iff {modules : List Module} {name : String} :
    ensureNameIsFree modules name = .ok () ↔ ∀ m ∈ modules, m.name ≠ name := by
  unfold ensureNameIsFree
  split <;> simp_all

namespace Run

/-- Prints a line. -/
def printLine (s : String) : m Unit := Host.print (s ++ "\n")

/-- The module for a project, if nothing speaks against it. -/
def prepare (job : GenerateJob) : ExceptT Failure m GeneratedModule := do
  let settings ← Settings.resolve job.source.path job.source.config
  let modules ← loadModules job.source.path job.source.interface settings
  ensureNameIsFree modules (settings.value .moduleName)
  return settings.generate modules

/-- Prints a generated module, or saves it. -/
def deliver (job : GenerateJob) (generated : GeneratedModule) : ExceptT Failure m Unit := do
  if job.stdout then
    Host.print (m := m) generated.source
  else
    let target := job.target generated
    printLine (m := m) ("Creating a file at " ++ target.text)
    Host.saveText target generated.source
    printLine (m := m) "Open it with elm-reactor!"

/-- Generates the module for a project. -/
def generate (job : GenerateJob) : ExceptT Failure m Unit := do
  deliver job (← prepare job)

/-- The report on a project. -/
def report (source : Source) : ExceptT Failure m Report := do
  let settings ← Settings.resolve source.path source.config
  let modules ← loadModules source.path source.interface settings
  return Report.of settings.classifier (PairedProgram.of settings.classifier modules)

/-- Prints the report on a project, in colours unless it should be plain. -/
def inspect (job : InspectJob) : ExceptT Failure m Unit := do
  let r ← report job.source
  printLine (m := m) (r.render job.format !job.plain)

/-- Writes a settings file to start from. One that is there already is kept unless
`force` is set. -/
def init (directory : Path) (force : Bool) : ExceptT Failure m Unit := do
  let file := directory.join ⟨Settings.fileName⟩
  if (← Host.isThere (m := m) file) && !force then throw Failure.settingsPresent
  Host.saveText file Settings.template
  printLine (m := m) ("Created " ++ Settings.fileName ++ " configuration file")

/-- Carries out a command. -/
def command : Command → ExceptT Failure m Unit
  | .generate job _ => generate job
  | .inspect job _ => inspect job
  | .init force => init ⟨"."⟩ force

end Run
end DecoderBench
