/-
Runs on a session, step by step. What a run reads of settings is what the file system
holds, whatever else the machine refuses (`resolve_cases`); on a machine that refuses
nothing, a search for settings comes to looking them up there (`resolve_apply`).

Where every step takes a session to one that some preorder relates it to, so does the
run (`Takes`). Runs that only look at files leave all as it was but for the refusals
that are used up (`Looks`): those that find settings, read modules from a file and make
a report.
-/
import DecoderBench.Proofs.Path
import DecoderBench.Run
import DecoderBench.Session
import Mathlib.Order.Defs.Unbundled

namespace DecoderBench

/-- The text of a file, or why there is none. -/
def Workspace.text (w : Workspace) (p : Path) : Except String String :=
  match w.read p with
  | .error f => .error f.message
  | .ok bytes =>
    match Utf8.decode bytes with
    | .error _ => .error Host.notText
    | .ok text => .ok text

/-- The settings of a file, if it can be read and they can be used. -/
def Workspace.settings? (w : Workspace) (file : Path) : Option Settings :=
  match w.text file with
  | .error _ => none
  | .ok text => (Settings.parse text).toOption

theorem Workspace.text_eq_ok_iff {w : Workspace} {p : Path} {text : String} :
    w.text p = .ok text ↔ ∃ bytes, w.read p = .ok bytes ∧ Utf8.decode bytes = .ok text := by
  unfold Workspace.text
  cases w.read p with
  | error f => simp
  | ok bytes => cases h : Utf8.decode bytes <;> simp [h]

theorem Workspace.settings?_eq_some_iff {w : Workspace} {file : Path} {s : Settings} :
    w.settings? file = some s ↔ ∃ text, w.text file = .ok text ∧ Settings.parse text = .ok s := by
  unfold settings?
  cases w.text file with
  | error reason => simp
  | ok text => cases h : Settings.parse text <;> simp [Except.toOption, h]

namespace Session

variable {σ α β : Type}

/-! ## Steps, on any machine with a state -/

theorem bind_apply (x : StateM σ α) (f : α → StateM σ β) (s : σ) : (x >>= f) s = f (x s).1 (x s).2 := rfl

theorem lift_run (x : StateM σ α) (s : σ) :
    (liftM x : ExceptT Failure (StateM σ) α).run s = (.ok (x s).1, (x s).2) := rfl

/-- A run goes on from where its first step has come to, unless that failed. -/
theorem bind_run_eq (x : ExceptT Failure (StateM σ) α) (f : α → ExceptT Failure (StateM σ) β) (s : σ) :
    (x >>= f).run s =
      match (x.run s).1 with
      | .ok a => (f a).run (x.run s).2
      | .error e => (.error e, (x.run s).2) := by
  rw [ExceptT.run_bind, bind_apply]
  cases (x.run s).1 <;> rfl

section

variable {x : ExceptT Failure (StateM σ) α} {f : α → ExceptT Failure (StateM σ) β} {s s' : σ}

theorem bind_run_ok {a : α} (h : x.run s = (.ok a, s')) : (x >>= f).run s = (f a).run s' := by
  rw [bind_run_eq, h]

theorem bind_run_error {e : Failure} (h : x.run s = (.error e, s')) : (x >>= f).run s = (.error e, s') := by
  rw [bind_run_eq, h]

end

/-! ## Requests -/

variable {carriedOut : M (Except SystemFault α)} {refused : Refusal → M (Except SystemFault α)}

theorem request_cases (carriedOut : M (Except SystemFault α)) (refused : Refusal → M (Except SystemFault α))
    (s : Session) :
    ∃ rest, request carriedOut refused s = carriedOut { s with refusals := rest } ∨
      ∃ r, request carriedOut refused s = refused r { s with refusals := rest } := by
  unfold request
  split
  · rename_i h
    exact ⟨s.refusals, .inl rfl⟩
  · rename_i rest h
    exact ⟨rest, .inl rfl⟩
  · rename_i r rest h
    exact ⟨rest, .inr ⟨r, rfl⟩⟩

/-- A machine that refuses nothing carries out what it is asked for. -/
theorem request_of_obliging {s : Session} (h : s.refusals = []) : request carriedOut refused s = carriedOut s := by
  rw [request, h]

/-! ## Runs that keep to a relation -/

/-- Every session is taken to one that `R` relates it to. -/
def Takes (R : Session → Session → Prop) (x : M α) : Prop := ∀ s, R s (x s).2

namespace Takes

variable {R : Session → Session → Prop} [IsPreorder Session R]

theorem pure (a : α) : Takes R (Pure.pure a : M α) := fun s => refl_of R s

theorem bind {x : M α} {f : α → M β} (hx : Takes R x) (hf : ∀ a, Takes R (f a)) : Takes R (x >>= f) := by
  intro s
  rw [bind_apply]
  exact trans_of R (hx s) (hf _ _)

theorem lift {x : M α} (hx : Takes R x) : Takes R (liftM x : ExceptT Failure M α).run := hx.bind fun _ => .pure _

theorem bind_run {x : ExceptT Failure M α} {f : α → ExceptT Failure M β} (hx : Takes R x.run)
    (hf : ∀ a, Takes R (f a).run) : Takes R (x >>= f).run := by
  rw [ExceptT.run_bind]
  refine hx.bind fun r => ?_
  cases r with
  | ok a => exact hf a
  | error e => exact .pure _

/-- Refusals that are used up do not count, if `R` does not look at them. -/
theorem request (hrefusals : ∀ s rest, R s { s with refusals := rest }) (hcarriedOut : Takes R carriedOut)
    (hrefused : ∀ r, Takes R (refused r)) : Takes R (Session.request carriedOut refused) := by
  intro s
  obtain ⟨rest, h | ⟨r, h⟩⟩ := request_cases carriedOut refused s
  · rw [h]
    exact trans_of R (hrefusals s rest) (hcarriedOut _)
  · rw [h]
    exact trans_of R (hrefusals s rest) (hrefused r _)

end Takes

/-! ## Looking -/

/-- Nothing was changed and nothing was printed, though requests may have been put to the
machine. -/
structure Unchanged (s s' : Session) : Prop where
  workspace : s'.workspace = s.workspace
  printed : s'.printed = s.printed

instance : IsPreorder Session Unchanged where
  refl _ := ⟨rfl, rfl⟩
  trans _ _ _ h h' := ⟨h'.workspace.trans h.workspace, h'.printed.trans h.printed⟩

/-- The run changes nothing and prints nothing. -/
abbrev Looks (x : M α) : Prop := Takes Unchanged x

theorem looks_request_look (f : Workspace → Except SystemFault α) :
    Looks (request (look f) fun r => pure (.error r.fault)) :=
  Takes.request (fun _ _ => ⟨rfl, rfl⟩) (fun _ => ⟨rfl, rfl⟩) fun _ _ => ⟨rfl, rfl⟩

theorem looks_kind? (p : Path) : Looks (Host.kind? p) := fun _ => ⟨rfl, rfl⟩

theorem looks_isThere (p : Path) : Looks (Host.isThere p) := (looks_kind? p).bind fun _ => .pure _

theorem looks_isDirectory (p : Path) : Looks (Host.isDirectory p) := (looks_kind? p).bind fun _ => .pure _

theorem looks_readText (p : Path) : Looks (Host.readText p) := by
  refine (looks_request_look fun w => w.read p).bind fun r => ?_
  cases r with
  | error f => exact .pure _
  | ok bytes =>
    simp only
    cases Utf8.decode bytes <;> exact .pure _

/-! ## Settings -/

/-- What is read is what is there. -/
theorem text_of_readText {p : Path} {s : Session} {text : String} (h : (Host.readText (m := M) p s).1 = .ok text) :
    s.workspace.text p = .ok text := by
  rw [Host.readText, bind_apply] at h
  have hread : ∀ bytes, (Host.read (m := M) p s).1 = .ok bytes → s.workspace.read p = .ok bytes := by
    intro bytes hbytes
    obtain ⟨rest, hrequest | ⟨r, hrequest⟩⟩ :=
      request_cases (look fun w => w.read p) (fun r => pure (.error r.fault)) s
    · exact (congrArg Prod.fst hrequest).symm.trans hbytes
    · cases (congrArg Prod.fst hrequest).symm.trans hbytes
  cases hbytes : (Host.read (m := M) p s).1 with
  | error f =>
    rw [hbytes] at h
    cases h
  | ok bytes =>
    rw [hbytes] at h
    rw [Workspace.text, hread bytes hbytes]
    simp only at h ⊢
    cases hdecode : Utf8.decode bytes with
    | error f =>
      rw [hdecode] at h
      cases h
    | ok text' =>
      rw [hdecode] at h
      exact h

theorem looks_tryLoad (file : Path) : Looks (Settings.tryLoad file) := by
  refine (looks_readText file).bind fun r => ?_
  cases r <;> exact .pure _

theorem settings?_of_tryLoad {file : Path} {s : Session} {found : Settings}
    (h : (Settings.tryLoad (m := M) file s).1 = some found) : s.workspace.settings? file = some found := by
  rw [Settings.tryLoad, bind_apply] at h
  cases htext : (Host.readText (m := M) file s).1 with
  | error reason =>
    rw [htext] at h
    cases h
  | ok text =>
    rw [htext] at h
    rw [Workspace.settings?, text_of_readText htext]
    exact h

theorem looks_firstUsable (files : List Path) : Looks (Settings.firstUsable files) := by
  induction files with
  | nil => exact .pure _
  | cons file files ih =>
    refine (looks_tryLoad file).bind fun r => ?_
    cases r with
    | none => exact ih
    | some found => exact .pure _

/-- Going through files for settings comes to those of one of them, or to none. -/
theorem firstUsable_cases (files : List Path) (s : Session) :
    (Settings.firstUsable (m := M) files s).1 = .none ∨
      ∃ file ∈ files, s.workspace.settings? file = some (Settings.firstUsable (m := M) files s).1 := by
  induction files generalizing s with
  | nil => exact .inl rfl
  | cons file files ih =>
    rw [Settings.firstUsable, bind_apply]
    cases hfound : (Settings.tryLoad (m := M) file s).1 with
    | some found => exact .inr ⟨file, by simp, settings?_of_tryLoad hfound⟩
    | none =>
      have hrest := ih (Settings.tryLoad (m := M) file s).2
      rw [(looks_tryLoad file s).workspace] at hrest
      exact hrest.imp_right fun ⟨g, hg, hsettings⟩ => ⟨g, by simp [hg], hsettings⟩

theorem looks_searchStart (project : Path) : Looks (Settings.searchStart project).run := by
  rw [Settings.searchStart]
  split
  · exact .pure _
  · refine .bind_run (looks_request_look fun w => .ok w.directoryPath).lift fun r => ?_
    cases r <;> exact .pure _

/-- A search starts at the project's path, as seen from the working directory. -/
theorem searchStart_eq_join {project start : Path} {s : Session}
    (h : ((Settings.searchStart (m := M) project).run s).1 = .ok start) :
    start = s.workspace.directoryPath.join project := by
  rw [Settings.searchStart] at h
  split at h
  · rename_i habsolute
    rw [Path.join_of_isAbsolute habsolute]
    exact (Except.ok.inj h).symm
  · rw [bind_run_ok (lift_run _ _)] at h
    obtain ⟨rest, hrequest | ⟨r, hrequest⟩⟩ :=
      request_cases (look fun w => .ok w.directoryPath) (fun r => pure (.error r.fault)) s
    · rw [show Host.workingDirectory (m := M) s = _ from hrequest] at h
      exact (Except.ok.inj h).symm
    · rw [show Host.workingDirectory (m := M) s = _ from hrequest] at h
      cases h

/-- Settings that are not named are the default ones, or those of a directory on the way
up from the project. -/
theorem resolve_cases {project : Path} {s : Session} {found : Settings}
    (h : ((Settings.resolve (m := M) project none).run s).1 = .ok found) :
    found = .none ∨ ∃ d ∈ (s.workspace.directoryPath.join project).ancestors 10,
      s.workspace.settings? (d.join ⟨".debug-decoders.toml"⟩) = some found := by
  rw [Settings.resolve, bind_run_eq] at h
  cases hstart : ((Settings.searchStart (m := M) project).run s).1 with
  | error f =>
    rw [hstart] at h
    cases h
  | ok start =>
    rw [hstart] at h
    have hsame := (looks_searchStart project s).workspace
    obtain rfl := searchStart_eq_join hstart
    obtain rfl := Except.ok.inj h
    rcases firstUsable_cases (Settings.candidates (s.workspace.directoryPath.join project))
      ((Settings.searchStart (m := M) project).run s).2 with hnone | ⟨file, hfile, hsettings⟩
    · exact .inl hnone
    · rw [hsame] at hsettings
      obtain ⟨d, hd, rfl⟩ := List.mem_map.1 hfile
      exact .inr ⟨d, hd, hsettings⟩

/-! ## Machines that refuse nothing -/

section

variable {s : Session} (hs : s.refusals = [])
include hs

theorem readText_apply (p : Path) : Host.readText (m := M) p s = (s.workspace.text p, s) := by
  have hread : Host.read (m := M) p s = (s.workspace.read p, s) := request_of_obliging hs
  rw [Host.readText, bind_apply, hread, Workspace.text]
  cases s.workspace.read p with
  | error f => rfl
  | ok bytes =>
    simp only
    cases Utf8.decode bytes <;> rfl

theorem tryLoad_apply (file : Path) : Settings.tryLoad (m := M) file s = (s.workspace.settings? file, s) := by
  rw [Settings.tryLoad, bind_apply, readText_apply hs, Workspace.settings?]
  cases s.workspace.text file <;> rfl

theorem firstUsable_apply (files : List Path) :
    Settings.firstUsable (m := M) files s = ((files.findSome? s.workspace.settings?).getD .none, s) := by
  induction files with
  | nil => rfl
  | cons file files ih =>
    rw [Settings.firstUsable, bind_apply, tryLoad_apply hs, List.findSome?_cons]
    cases s.workspace.settings? file with
    | some found => rfl
    | none => exact ih

theorem searchStart_apply (project : Path) :
    (Settings.searchStart (m := M) project).run s = (.ok (s.workspace.directoryPath.join project), s) := by
  rw [Settings.searchStart]
  split
  · rename_i habsolute
    rw [Path.join_of_isAbsolute habsolute]
    rfl
  · have hdirectory : Host.workingDirectory (m := M) s = (.ok s.workspace.directoryPath, s) :=
      request_of_obliging hs
    rw [bind_run_ok (lift_run _ _), hdirectory]
    rfl

theorem resolve_apply (project : Path) :
    (Settings.resolve (m := M) project none).run s =
      (.ok (((Settings.candidates (s.workspace.directoryPath.join project)).findSome? s.workspace.settings?).getD
        .none), s) := by
  rw [Settings.resolve, bind_run_ok (searchStart_apply hs project), lift_run, Settings.discover,
    firstUsable_apply hs]

end

/-! ## Runs that look -/

theorem looks_load (file : Path) : Looks (Settings.load file).run := by
  refine .bind_run (looks_readText file).lift fun r => ?_
  cases r with
  | error reason => exact .pure _
  | ok text =>
    simp only
    cases Settings.parse text <;> exact .pure _

theorem looks_resolve (project : Path) (named : Option Path) : Looks (Settings.resolve project named).run := by
  cases named with
  | some file => exact looks_load file
  | none =>
    exact (looks_searchStart project).bind_run fun start => (looks_firstUsable (Settings.candidates start)).lift

theorem looks_loadModules (project file : Path) (s : Settings) :
    Looks (loadModules project (some file) s).run := by
  have hload : Looks (Host.loadText file).run := by
    refine .bind_run (looks_readText file).lift fun r => ?_
    cases r <;> exact .pure _
  exact hload.bind_run fun text => .pure _

theorem looks_prepare {job : GenerateJob} {file : Path} (h : job.source.interface = some file) :
    Looks (Run.prepare job).run := by
  refine (looks_resolve job.source.path job.source.config).bind_run fun settings => ?_
  rw [h]
  refine (looks_loadModules job.source.path file settings).bind_run fun modules => ?_
  refine Takes.bind_run ?_ fun u => .pure _
  cases ensureNameIsFree modules (settings.value .moduleName) <;> exact .pure _

theorem looks_report {source : Source} {file : Path} (h : source.interface = some file) :
    Looks (Run.report source).run := by
  refine (looks_resolve source.path source.config).bind_run fun settings => ?_
  rw [h]
  exact (looks_loadModules source.path file settings).bind_run fun modules => .pure _

end Session
end DecoderBench
