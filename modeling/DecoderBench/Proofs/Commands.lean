/-
What commands do to a file system, on a machine that may refuse any request: nothing
before there is something to write, and then they write one file
(`commands_change_target_only`). On the way to that file directories may come up that
were missing, whether or not writing succeeds.
-/
import DecoderBench.Proofs.Ancestors
import DecoderBench.Proofs.Session
import DecoderBench.Proofs.Text.Utf8
import DecoderBench.Proofs.Workspace.Saving

namespace DecoderBench
namespace Session

open Workspace (Grows Saved Unsaved)

variable {α : Type} {P : Path → Prop} {p : Path}

/-! ## Creating directories -/

instance (P : Path → Prop) : IsPreorder Session fun s s' => Grows P s.workspace s'.workspace where
  refl s := .refl P s.workspace
  trans _ _ _ := Grows.trans

/-- The run at most creates directories, at paths with the property `P`. -/
abbrev Makes (P : Path → Prop) (x : M α) : Prop := Takes (fun s s' => Grows P s.workspace s'.workspace) x

theorem Looks.makes {x : M α} (h : Looks x) : Makes P x := by
  intro s
  rw [(h s).workspace]
  exact .refl P _

theorem makes_makeDirectory (hp : P p) : Makes P (Host.makeDirectory p) := by
  refine Takes.request (fun s _ => .refl P s.workspace) (fun s => ?_) fun _ s => .refl P s.workspace
  rw [change]
  split
  · rename_i w h
    exact Workspace.grows_makeDirectory hp h
  · exact .refl P _

theorem makes_makeOrKeep (hp : P p) : Makes P (Host.makeOrKeep p) := by
  refine (makes_makeDirectory hp).bind fun r => ?_
  split
  · refine (looks_isDirectory p).makes.bind fun b => ?_
    split <;> exact .pure _
  · exact .pure _

theorem makes_makeMissing {above : List Path} (hp : P p) (habove : ∀ q ∈ above, P q) :
    Makes P (Host.makeMissing p above) := by
  induction above generalizing p with
  | nil =>
    refine (makes_makeOrKeep hp).bind fun r => ?_
    split
    · exact makes_makeOrKeep hp
    · exact .pure _
  | cons q above ih =>
    refine (makes_makeOrKeep hp).bind fun r => ?_
    split
    · refine (ih (habove q (by simp)) fun r hr => habove r (by simp [hr])).bind fun r => ?_
      split
      · exact .pure _
      · exact makes_makeOrKeep hp
    · exact .pure _

theorem makes_makeDirectories (hp : P p) (habove : ∀ q : Path, q.IsAbove p → P q) :
    Makes P (Host.makeDirectories p) := by
  rw [Host.makeDirectories]
  split
  · exact .pure _
  · refine makes_makeMissing hp fun q hq => habove q ?_
    exact Path.isAbove_of_mem_ancestors (List.takeWhile_subset _ hq)

theorem makes_ensureDirectory (hp : P p) (habove : ∀ q : Path, q.IsAbove p → P q) :
    Makes P (Host.ensureDirectory p).run := by
  refine (looks_isThere p).makes.lift.bind_run fun b => ?_
  split
  · refine (makes_makeDirectories hp habove).lift.bind_run fun r => ?_
    split <;> exact .pure _
  · exact .pure _

/-! ## Saving a file -/

/-- What a run comes to that gives a file its content: the file is saved, or nothing could
be written. -/
def Leaves (target : Path) (content : List UInt8) (w : Workspace) (r : Except Failure Unit) (w' : Workspace) :
    Prop :=
  match r with
  | .ok () => Saved (·.IsAbove target) target content w w'
  | .error _ => Unsaved (·.IsAbove target) target w w'

/-- The end of saving a text, when its directory was seen to. -/
def writeText (p : Path) (text : String) : ExceptT Failure M Unit := do
  match ← Host.write (m := M) p (Utf8.encode text) with
  | .ok () => return ()
  | .error f => throw ((Failure.system f.message).context ("Failed to write " ++ p.text))

theorem saveText_eq (p : Path) (text : String) :
    ∃ x : ExceptT Failure M Unit, Makes (·.IsAbove p) x.run ∧
      Host.saveText p text = x >>= fun _ => writeText p text := by
  unfold Host.saveText
  split
  · rename_i d hd
    have habove : d.IsAbove p := Path.isAbove_of_parent? hd
    split
    · exact ⟨pure (), .pure _, (pure_bind () fun _ => writeText p text).symm⟩
    · exact ⟨Host.ensureDirectory d, makes_ensureDirectory habove fun q hq => habove.trans hq, rfl⟩
  · exact ⟨pure (), .pure _, (pure_bind () fun _ => writeText p text).symm⟩

/-- Writing is carried out or breaks off. The directories that were created before are
counted in. -/
theorem write_leaves {w : Workspace} {s : Session} (content : List UInt8)
    (h : Grows (·.IsAbove p) w s.workspace) :
    match Host.write (m := M) p content s with
    | (.ok (), s') => Saved (·.IsAbove p) p content w s'.workspace
    | (.error _, s') => Unsaved (·.IsAbove p) p w s'.workspace := by
  change match request (change fun w => w.write p content) (breakOff p) s with
    | (.ok (), s') => Saved (·.IsAbove p) p content w s'.workspace
    | (.error _, s') => Unsaved (·.IsAbove p) p w s'.workspace
  obtain ⟨rest, hrequest | ⟨r, hrequest⟩⟩ := request_cases (change fun w => w.write p content) (breakOff p) s
  · rw [hrequest, change]
    cases hwrite : s.workspace.write p content with
    | ok w' => exact Workspace.saved_of_write h hwrite
    | error f => exact .kept h
  · rw [hrequest, breakOff]
    cases r.late with
    | false => exact .kept h
    | true => exact Workspace.unsaved_touch h p

theorem writeText_leaves {w : Workspace} {s : Session} (text : String)
    (h : Grows (·.IsAbove p) w s.workspace) :
    Leaves p (Utf8.encode text) w ((writeText p text).run s).1 ((writeText p text).run s).2.workspace := by
  have hwrite := write_leaves (Utf8.encode text) h
  rw [writeText, bind_run_ok (lift_run _ _)]
  cases hr : Host.write (m := M) p (Utf8.encode text) s with
  | mk r s' =>
    rw [hr] at hwrite
    cases r <;> exact hwrite

theorem saveText_leaves (p : Path) (text : String) (s : Session) :
    Leaves p (Utf8.encode text) s.workspace
      ((Host.saveText p text : ExceptT Failure M Unit).run s).1
      ((Host.saveText p text : ExceptT Failure M Unit).run s).2.workspace := by
  obtain ⟨x, hx, heq⟩ := saveText_eq p text
  have hgrows := hx s
  rw [heq, bind_run_eq]
  cases (x.run s).1 with
  | error e => exact .kept hgrows
  | ok u => exact writeText_leaves text hgrows

end Session

/-! ## Commands -/

open Session

theorem deliver_run_of_stdout {job : GenerateJob} (h : job.stdout = true) (generated : GeneratedModule) (s : Session) :
    (Run.deliver (m := M) job generated).run s = (.ok (), { s with printed := s.printed ++ generated.source }) := by
  rw [Run.deliver, if_pos h]
  rfl

theorem deliver_leaves {job : GenerateJob} (h : job.stdout = false) (generated : GeneratedModule) (s : Session) :
    Leaves (job.target generated) (Utf8.encode generated.source) s.workspace
      ((Run.deliver (m := M) job generated).run s).1 ((Run.deliver (m := M) job generated).run s).2.workspace := by
  rw [Run.deliver, if_neg (by simp [h]), bind_run_ok (lift_run _ _), bind_run_eq]
  -- Only the printed text of the session is another one by now.
  have hsave := saveText_leaves (job.target generated) generated.source
    (Run.printLine (m := M) ("Creating a file at " ++ (job.target generated).text) s).2
  cases hr : ((Host.saveText (m := M) (job.target generated) generated.source).run
    (Run.printLine (m := M) ("Creating a file at " ++ (job.target generated).text) s).2).1 with
  | error e | ok u =>
    rw [hr] at hsave
    exact hsave

theorem init_keeps {d : Path} {s : Session}
    (h : (s.workspace.kind? (d.join ⟨Settings.fileName⟩)).isSome = true) :
    (Run.init (m := M) d false).run s = (.error .settingsPresent, s) := by
  have hthere : (Host.isThere (m := M) (d.join ⟨Settings.fileName⟩) s).1 = true := h
  rw [Run.init, bind_run_ok (lift_run _ _), hthere]
  rfl

/-- **Commands change nothing but their target, and failures destroy nothing.** Whatever
the machine refuses, given a file with the interfaces: a run that comes to no module
leaves all as it was; one that prints its module only prints it; and one that saves it
leaves the module in its file, unless that is a device, and all other files as they
were, or on a failure all files. Inspecting changes nothing, and neither does starting
settings where there are some. -/
theorem commands_change_target_only (s : Session) :
    (∀ job : GenerateJob, job.source.interface.isSome = true →
      let r := (Run.generate (m := M) job).run s
      match ((Run.prepare (m := M) job).run s).1 with
      | .error f => r.1 = .error f ∧ Unchanged s r.2
      | .ok generated =>
        if job.stdout then
          r.1 = .ok () ∧ r.2.workspace = s.workspace ∧ r.2.printed = s.printed ++ generated.source
        else Leaves (job.target generated) (Utf8.encode generated.source) s.workspace r.1 r.2.workspace) ∧
    (∀ job : InspectJob, job.source.interface.isSome = true →
      ((Run.inspect (m := M) job).run s).2.workspace = s.workspace) ∧
    ∀ d : Path, (s.workspace.kind? (d.join ⟨Settings.fileName⟩)).isSome = true →
      (Run.init (m := M) d false).run s = (.error .settingsPresent, s) := by
  refine ⟨fun job hjob => ?_, fun job hjob => ?_, fun d => init_keeps⟩
  · obtain ⟨file, hfile⟩ := Option.isSome_iff_exists.1 hjob
    have hlooks := looks_prepare hfile s
    rw [Run.generate, bind_run_eq]
    cases ((Run.prepare (m := M) job).run s).1 with
    | error f => exact ⟨rfl, hlooks⟩
    | ok generated =>
      simp only
      split
      · rename_i hstdout
        rw [deliver_run_of_stdout hstdout]
        exact ⟨rfl, hlooks.workspace, congrArg (· ++ generated.source) hlooks.printed⟩
      · rename_i hstdout
        rw [← hlooks.workspace]
        exact deliver_leaves (by simpa using hstdout) generated _
  · obtain ⟨file, hfile⟩ := Option.isSome_iff_exists.1 hjob
    have hlooks := looks_report hfile s
    rw [Run.inspect, bind_run_eq]
    cases ((Run.report (m := M) job.source).run s).1 <;> exact hlooks.workspace

/-- A project with the interfaces of its modules and with settings, and a device that keeps
nothing. -/
def preparedWorkspace : Workspace where
  entries := [(["app"], .directory), (["app", "interface.json"], .file 0 (Utf8.encode "[]") .usual),
    (["app", ".debug-decoders.toml"], .file 1 (Utf8.encode "module_name = \"Probe\"\n") .usual),
    (["app", "null"], .device .null)]
  directory := ["app"]

/-- A run on this project that saves the module at `target`. -/
def preparedJob (target : String) : GenerateJob where
  source := { interface := some ⟨"interface.json"⟩ }
  output := some ⟨target⟩

/-- What a run on this project comes to, on a machine with the given refusals. -/
def preparedRun (refusals : List (Option Refusal)) {α : Type} (run : ExceptT Failure M α) :
    Except Failure α × Session :=
  run.run { workspace := preparedWorkspace, refusals }

/-- The settings and the interfaces are read, and then nothing can be stored. -/
def fullDisk : List (Option Refusal) := [none, none, none, some { fault := .noSpace }]

/-- Without refusals the module comes into a file, below directories that were missing.
Where writing over a file is refused, that file is as it was. -/
theorem commands_change_target_only_prepared :
    (∃ generated, (preparedRun [] (Run.prepare (preparedJob "out/src/Probe.elm"))).1 = .ok generated ∧
      (preparedRun [] (Run.generate (preparedJob "out/src/Probe.elm"))).1 = .ok () ∧
      Workspace.Saved (·.IsAbove ⟨"out/src/Probe.elm"⟩) ⟨"out/src/Probe.elm"⟩ (Utf8.encode generated.source)
        preparedWorkspace (preparedRun [] (Run.generate (preparedJob "out/src/Probe.elm"))).2.workspace) ∧
    (∃ r, preparedRun fullDisk (Run.generate (preparedJob "interface.json")) = r ∧
      r.1 = .error (.during "Failed to write interface.json" "No space left on device (os error 28)") ∧
      Workspace.Unsaved (·.IsAbove ⟨"interface.json"⟩) ⟨"interface.json"⟩ preparedWorkspace r.2.workspace) ∧
    (preparedRun [] (Run.inspect { source := (preparedJob "out").source })).2.workspace = preparedWorkspace ∧
    preparedRun [] (Run.init ⟨"."⟩ false) = (.error .settingsPresent, { workspace := preparedWorkspace }) := by
  have changes (refusals : List (Option Refusal)) :=
    commands_change_target_only { workspace := preparedWorkspace, refusals }
  have prepares (refusals : List (Option Refusal)) (target : String)
      (h : (preparedRun refusals (Run.prepare (preparedJob target))).1.isOk = true) :
      ∃ generated, (preparedRun refusals (Run.prepare (preparedJob target))).1 = .ok generated := by
    cases hr : (preparedRun refusals (Run.prepare (preparedJob target))).1 with
    | ok generated => exact ⟨generated, rfl⟩
    | error f =>
      rw [hr] at h
      cases h
  refine ⟨?_, ?_, (changes []).2.1 _ rfl, (changes []).2.2 ⟨"."⟩ (by decide +kernel)⟩
  · obtain ⟨generated, hprepared⟩ := prepares [] "out/src/Probe.elm" (by decide +kernel)
    have hok : (preparedRun [] (Run.generate (preparedJob "out/src/Probe.elm"))).1 = .ok () := by
      decide +kernel
    have hleaves := (changes []).1 (preparedJob "out/src/Probe.elm") rfl
    rw [preparedRun] at hok hprepared
    simp only [hprepared, hok] at hleaves
    exact ⟨generated, hprepared, hok, hleaves⟩
  · obtain ⟨generated, hprepared⟩ := prepares fullDisk "interface.json" (by decide +kernel)
    have hfailed : (preparedRun fullDisk (Run.generate (preparedJob "interface.json"))).1 =
        .error (.during "Failed to write interface.json" "No space left on device (os error 28)") := by
      decide +kernel
    have hleaves := (changes fullDisk).1 (preparedJob "interface.json") rfl
    rw [preparedRun] at hfailed hprepared
    simp only [hprepared, hfailed] at hleaves
    exact ⟨_, rfl, hfailed, hleaves⟩

/-- A device takes the module and keeps nothing of it. -/
theorem device_keeps_nothing :
    ∃ generated, (preparedRun [] (Run.prepare (preparedJob "null"))).1 = .ok generated ∧
      Utf8.encode generated.source ≠ [] ∧
      (preparedRun [] (Run.generate (preparedJob "null"))).1 = .ok () ∧
      (preparedRun [] (Run.generate (preparedJob "null"))).2.workspace.read ((preparedJob "null").target generated) =
        .ok [] := by
  have hsource : ∀ generated ∈ (preparedRun [] (Run.prepare (preparedJob "null"))).1.toOption,
      generated.source ≠ "" := by
    decide +kernel
  cases hprepared : (preparedRun [] (Run.prepare (preparedJob "null"))).1 with
  | error f =>
    have hok : (preparedRun [] (Run.prepare (preparedJob "null"))).1.isOk = true := by decide +kernel
    rw [hprepared] at hok
    cases hok
  | ok generated =>
    have hne := hsource generated (by rw [hprepared]; rfl)
    refine ⟨generated, rfl, fun hnil => hne (Utf8.encode_eq_nil_iff.1 hnil), by decide +kernel, ?_⟩
    change (preparedRun [] (Run.generate (preparedJob "null"))).2.workspace.read ⟨"null"⟩ = .ok []
    decide +kernel

end DecoderBench
