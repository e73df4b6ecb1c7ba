/-
What comes of an extractor, on any machine with a state and whatever the program does:
each outcome gives modules or one failure, and failures go in a fixed order
(`outcome_classified`). A project without a manifest is refused before an extractor is
looked for or started, and no failure ends a run with status zero.
-/
import DecoderBench.Proofs.Session
import DecoderBench.Proofs.Text.Tokens
import DecoderBench.Proofs.Text.Utf8

namespace DecoderBench

/-! ## Outcomes -/

namespace Outcome

/-- Read as text, the diagnostics are blanks or nothing. -/
def IsQuiet (o : Outcome) : Prop := ∀ c ∈ (Utf8.decodeLossy o.diagnostics).toList, Text.isBlank c = true

instance (o : Outcome) : Decidable o.IsQuiet :=
  decidable_of_iff ((Utf8.decodeLossy o.diagnostics).toList.all Text.isBlank = true) List.all_eq_true

/-- The program ended with status zero and did not complain. -/
def EndedWell (o : Outcome) : Prop := o.status = some 0 ∧ o.IsQuiet

end Outcome

namespace Extractor

variable {program : String} {o : Outcome}

theorem complaint_eq_empty_iff : complaint o = "" ↔ o.IsQuiet := by
  rw [complaint, String.ofList_eq_empty_iff, Text.trim_eq_nil_iff]
  rfl

theorem endedWell_iff : ((complaint o).isEmpty && o.status == some 0) = true ↔ o.EndedWell := by
  rw [Bool.and_eq_true, String.isEmpty_iff, complaint_eq_empty_iff, beq_iff_eq, and_comm]
  rfl

theorem modules_of_not_endedWell (h : ¬o.EndedWell) :
    modules program o = .error (.extractorFailed program o.status (complaint o ++ "\n" ++ advice)) := by
  rw [modules, printed, if_neg (mt endedWell_iff.1 h)]
  rfl

theorem modules_of_endedWell (h : o.EndedWell) :
    modules program o =
      match Utf8.decode o.output with
      | .ok text => modulesOf text
      | .error f => .error (.during (program ++ " output") f.message) := by
  rw [modules, printed, if_pos (endedWell_iff.2 h)]
  cases Utf8.decode o.output <;> rfl

theorem modules_of_no_text (h : o.EndedWell) (hnone : ∀ text, o.output ≠ Utf8.encode text) :
    ∃ f, Utf8.decode o.output = .error f ∧
      modules program o = .error (.during (program ++ " output") f.message) := by
  rw [modules_of_endedWell h]
  cases hdecode : Utf8.decode o.output with
  | ok text => exact absurd (Utf8.decode_eq_ok_iff.1 hdecode) (hnone text)
  | error f => exact ⟨f, rfl, rfl⟩

theorem modules_of_unreadable (h : o.EndedWell) {text : String} (htext : o.output = Utf8.encode text)
    (hparse : Interface.parse text = none) : modules program o = .error .interfaceUnreadable := by
  rw [modules_of_endedWell h, Utf8.decode_eq_ok_iff.2 htext]
  simp only [modulesOf, hparse]

theorem modulesOf_eq_ok_iff {text : String} {ms : List Module} :
    modulesOf text = .ok ms ↔ Interface.parse text = some ms := by
  rw [modulesOf]
  cases Interface.parse text <;> simp

theorem modules_eq_ok_iff {ms : List Module} :
    modules program o = .ok ms ↔
      o.EndedWell ∧ ∃ text, o.output = Utf8.encode text ∧ Interface.parse text = some ms := by
  by_cases h : o.EndedWell
  · rw [modules_of_endedWell h]
    simp only [← Utf8.decode_eq_ok_iff, h, true_and]
    cases Utf8.decode o.output with
    | error f => simp
    | ok text => simp [modulesOf_eq_ok_iff]
  · simp [modules_of_not_endedWell h, h]

/-! ## Steps -/

open Session (bind_run_ok bind_run_error lift_run)

variable {σ : Type} [Host (StateM σ)]

/-- The manifest of a project is a file, on a machine in the state `st`. -/
def HasManifest (manifest : String) (project : Path) (st : σ) : Prop :=
  (Host.kind? (m := StateM σ) (project.join ⟨manifest⟩) st).1 = some .file

/-- After the manifest was looked at, the extractor starts and ends with the outcome
`o`. -/
def EndsWith (e : Extractor) (project : Path) (st : σ) (o : Outcome) : Prop :=
  ∃ st', Host.start (m := StateM σ) e.location (arguments project)
    (Host.kind? (m := StateM σ) (project.join ⟨e.manifest⟩) st).2 = (.ok o, st')

/-- After the manifest was looked at, the extractor of the settings is found, and the
machine is in the state `st'`. -/
def IsFound (s : Settings) (project : Path) (st : σ) (e : Extractor) (st' : σ) : Prop :=
  Host.findProgram (m := StateM σ) (s.value .extractor)
      (Host.kind? (m := StateM σ) (project.join ⟨s.value .manifest⟩) st).2 = (some e.location, st') ∧
    e.program = s.value .extractor ∧ e.manifest = s.value .manifest

variable {e : Extractor} {s : Settings} {manifest : String} {project : Path} {st st' : σ}

theorem isFile_apply (p : Path) (st : σ) :
    Host.isFile (m := StateM σ) p st =
      ((Host.kind? (m := StateM σ) p st).1 == some .file, (Host.kind? (m := StateM σ) p st).2) := rfl

theorem ensureManifest_run_of_file (h : HasManifest manifest project st) :
    (ensureManifest (m := StateM σ) project manifest).run st =
      (.ok (project.join ⟨manifest⟩), (Host.kind? (m := StateM σ) (project.join ⟨manifest⟩) st).2) := by
  rw [HasManifest] at h
  rw [ensureManifest, bind_run_ok (lift_run _ _), isFile_apply, h]
  rfl

theorem ensureManifest_run_of_no_file (h : ¬HasManifest manifest project st) :
    (ensureManifest (m := StateM σ) project manifest).run st =
      (.error (.manifestMissing manifest project.text),
        (Host.kind? (m := StateM σ) (project.join ⟨manifest⟩) st).2) := by
  rw [HasManifest] at h
  rw [ensureManifest, bind_run_ok (lift_run _ _), isFile_apply, beq_eq_false_iff_ne.2 h]
  rfl

theorem output_run {st₁ : σ} (h : Host.start (m := StateM σ) e.location (arguments project) st = (.ok o, st₁)) :
    (output (m := StateM σ) e project).run st = (printed e.program o, st₁) := by
  rw [output, bind_run_ok (lift_run _ _), h]
  rfl

theorem extract_run_of_no_manifest (h : ¬HasManifest e.manifest project st) :
    ((extract (m := StateM σ) e project).run st).1 = .error (.manifestMissing e.manifest project.text) := by
  rw [extract, bind_run_error (ensureManifest_run_of_no_file h)]

theorem extract_run (hmanifest : HasManifest e.manifest project st) (h : EndsWith e project st o) :
    ((extract (m := StateM σ) e project).run st).1 = modules e.program o := by
  obtain ⟨st₁, hstart⟩ := h
  have hrun := output_run hstart
  rw [extract, bind_run_ok (ensureManifest_run_of_file hmanifest), modules]
  cases hprinted : printed e.program o with
  | error f =>
    rw [hprinted] at hrun
    rw [bind_run_error hrun]
    rfl
  | ok text =>
    rw [hprinted] at hrun
    rw [bind_run_ok hrun]
    rfl

theorem loadModules_run_of_no_manifest (h : ¬HasManifest (s.value .manifest) project st) :
    ((loadModules (m := StateM σ) project none s).run st).1 =
      .error (.manifestMissing (s.value .manifest) project.text) := by
  have hrun : (forProject (m := StateM σ) s project).run st = _ := bind_run_error (ensureManifest_run_of_no_file h)
  rw [loadModules, bind_run_error hrun]

theorem forProject_run (hmanifest : HasManifest (s.value .manifest) project st) (h : IsFound s project st e st') :
    (forProject (m := StateM σ) s project).run st = (.ok e, st') := by
  obtain ⟨hfound, hprogram, hmanifest'⟩ := h
  rw [forProject, bind_run_ok (ensureManifest_run_of_file hmanifest), find, bind_run_ok (lift_run _ _), hfound,
    ← hprogram, ← hmanifest']
  rfl

theorem loadModules_run (hmanifest : HasManifest (s.value .manifest) project st) (h : IsFound s project st e st') :
    (loadModules (m := StateM σ) project none s).run st = (extract (m := StateM σ) e project).run st' := by
  rw [loadModules, bind_run_ok (forProject_run hmanifest h)]

end Extractor

/-! ## Statuses -/

namespace Failure

/-- The failure is that of an extractor, and its status can be a run's own. -/
def HasOwnStatus (f : Failure) (status : Int) : Prop :=
  ∃ program complaint, f = extractorFailed program (some status) complaint ∧ 1 ≤ status ∧ status ≤ 255

theorem toNat_exitStatus {f : Failure} {status : Int} (h : f.HasOwnStatus status) :
    (f.exitStatus.toNat : Int) = status := by
  obtain ⟨program, complaint, rfl, hlow, hhigh⟩ := h
  have hcode : (extractorFailed program (some status) complaint).exitCode = status := if_neg (by simp; omega)
  have hbyte : status.toNat < UInt8.size := by
    change status.toNat < 256
    omega
  rw [exitStatus, hcode, if_pos (by omega), Nat.toUInt8, UInt8.toNat_ofNat_of_lt' hbyte]
  omega

theorem exitStatus_eq_one {f : Failure} (h : ∀ status, ¬f.HasOwnStatus status) : f.exitStatus = 1 := by
  cases f with
  | extractorFailed program status complaint =>
    cases status with
    | none => rfl
    | some status =>
      have hrange : ¬(1 ≤ status ∧ status ≤ 255) := fun hrange => h status ⟨program, complaint, rfl, hrange⟩
      by_cases hzero : status = 0
      · rw [hzero]
        rfl
      · have hcode : (extractorFailed program (some status) complaint).exitCode = status :=
          if_neg (by simpa using hzero)
        rw [exitStatus, hcode, if_neg (by omega)]
  | _ => rfl

theorem exitStatus_ne_zero (f : Failure) : f.exitStatus ≠ 0 := by
  intro hzero
  by_cases h : ∃ status, f.HasOwnStatus status
  · obtain ⟨status, hstatus⟩ := h
    have hnat := toNat_exitStatus hstatus
    obtain ⟨-, -, -, hlow, -⟩ := hstatus
    rw [hzero] at hnat
    change 0 = status at hnat
    omega
  · rw [exitStatus_eq_one (not_exists.1 h)] at hzero
    cases hzero

end Failure

/-! ## Runs -/

/-- A machine on which every path leads to the same kind of thing, and every program ends
in the same way. -/
structure Stand where
  kind : Option Kind
  outcome : Outcome

namespace Stand

instance : Host (StateM Stand) where
  workingDirectory := return .ok ⟨"/"⟩
  kind? _ := return (← get).kind
  read _ := return .error .accessDenied
  write _ _ := return .error .accessDenied
  makeDirectory _ := return .error .accessDenied
  findProgram name := return some ⟨"/bin/" ++ name⟩
  start _ _ := return .ok (← get).outcome
  print _ := return ()

/-- The extractor of the default settings, as this machine finds it. -/
def extractor : Extractor where
  program := "elm-interface-to-json"
  location := ⟨"/bin/elm-interface-to-json"⟩
  manifest := "elm-package.json"

theorem endsWith (e : Extractor) (project : Path) (st : Stand) : e.EndsWith project st st.outcome := ⟨_, rfl⟩

theorem isFound (project : Path) (st : Stand) : Extractor.IsFound .none project st extractor st := ⟨rfl, rfl, rfl⟩

/-- The modules of a project with the given kind of manifest and outcome. -/
def modules (kind : Option Kind) (o : Outcome) : Except Failure (List Module) :=
  ((extractor.extract (m := StateM Stand) ⟨"."⟩).run ⟨kind, o⟩).1

end Stand

open Extractor in
/-- **Every outcome is sorted once, and its status is handed on.** On every machine, a
project without a manifest is refused as such, by an extractor and before there is one.
Where an extractor starts and ends, the modules of the project are those that its
output describes, exactly if there is a manifest, the extractor ended with status zero
and without a complaint, and its output is the encoding of a text that describes modules.
If it ended otherwise, it failed, whatever it printed; if it ended well, output that is no
text is told before output that describes no modules. A run takes the extractor that it
finds once it has seen a manifest. A failure ends a run with the extractor's own status if
that is in 1 to 255, otherwise with one, and never with zero. -/
theorem outcome_classified {σ : Type} [Host (StateM σ)] (e : Extractor) (s : Settings) (project : Path) (st : σ) :
    let result := ((e.extract (m := StateM σ) project).run st).1
    (¬HasManifest e.manifest project st → result = .error (.manifestMissing e.manifest project.text)) ∧
    (∀ o, e.EndsWith project st o →
      (∀ modules, result = .ok modules ↔
        HasManifest e.manifest project st ∧ o.status = some 0 ∧ o.IsQuiet ∧
          ∃ text, o.output = Utf8.encode text ∧ Interface.parse text = some modules) ∧
      (HasManifest e.manifest project st →
        (¬(o.status = some 0 ∧ o.IsQuiet) →
          result = .error (.extractorFailed e.program o.status (complaint o ++ "\n" ++ advice))) ∧
        (o.status = some 0 → o.IsQuiet → (∀ text, o.output ≠ Utf8.encode text) →
          ∃ f, Utf8.decode o.output = .error f ∧
            result = .error (.during (e.program ++ " output") f.message)) ∧
        (o.status = some 0 → o.IsQuiet → ∀ text, o.output = Utf8.encode text → Interface.parse text = none →
          result = .error .interfaceUnreadable))) ∧
    (¬HasManifest (s.value .manifest) project st →
      ((loadModules (m := StateM σ) project none s).run st).1 =
        .error (.manifestMissing (s.value .manifest) project.text)) ∧
    (HasManifest (s.value .manifest) project st → ∀ e' st', IsFound s project st e' st' →
      (loadModules (m := StateM σ) project none s).run st = (e'.extract (m := StateM σ) project).run st') ∧
    ∀ f : Failure, f.exitStatus ≠ 0 ∧ (∀ status, f.HasOwnStatus status → (f.exitStatus.toNat : Int) = status) ∧
      ((∀ status, ¬f.HasOwnStatus status) → f.exitStatus = 1) := by
  refine ⟨extract_run_of_no_manifest, ?_, loadModules_run_of_no_manifest,
    fun hmanifest _ _ hfound => loadModules_run hmanifest hfound,
    fun f => ⟨f.exitStatus_ne_zero, fun _ => Failure.toNat_exitStatus, Failure.exitStatus_eq_one⟩⟩
  intro o ho
  constructor
  · intro ms
    by_cases hmanifest : HasManifest e.manifest project st
    · rw [extract_run hmanifest ho, modules_eq_ok_iff, Outcome.EndedWell, and_assoc, and_iff_right hmanifest]
    · rw [extract_run_of_no_manifest hmanifest]
      simp [hmanifest]
  · intro hmanifest
    rw [extract_run hmanifest ho]
    exact ⟨modules_of_not_endedWell, fun hstatus hquiet => modules_of_no_text ⟨hstatus, hquiet⟩,
      fun hstatus hquiet _ => modules_of_unreadable ⟨hstatus, hquiet⟩⟩

/-- One program for each way to end, and a directory in the place of the manifest. -/
theorem outcome_classified_stand :
    Stand.modules (some .file) ⟨some 0, Utf8.encode "[]", Utf8.encode "\n"⟩ = .ok [] ∧
      Stand.modules (some .file) ⟨some 3, Utf8.encode "[]", []⟩ =
        .error (.extractorFailed "elm-interface-to-json" (some 3) ("\n" ++ Extractor.advice)) ∧
      Stand.modules (some .file) ⟨some 0, [91, 255], []⟩ =
        .error (.during "elm-interface-to-json output" "invalid utf-8 sequence of 1 bytes from index 1") ∧
      Stand.modules (some .file) ⟨some 0, Utf8.encode "[", []⟩ = .error .interfaceUnreadable ∧
      Stand.modules (some .directory) ⟨some 0, Utf8.encode "[]", []⟩ =
        .error (.manifestMissing "elm-package.json" ".") ∧
      ((loadModules (m := StateM Stand) ⟨"."⟩ none .none).run ⟨some .file, some 0, Utf8.encode "[]", []⟩).1 = .ok [] ∧
      (Failure.extractorFailed "elm-interface-to-json" (some 3) "").exitStatus.toNat = (3 : Int) ∧
      (Failure.extractorFailed "elm-interface-to-json" none "").exitStatus = 1 := by
  have classified (st : Stand) := outcome_classified Stand.extractor .none ⟨"."⟩ st
  have ended (st : Stand) := (classified st).2.1 _ (st.endsWith _ _)
  have failed (o : Outcome) := (ended ⟨some .file, o⟩).2 rfl
  have status := (classified ⟨none, none, [], []⟩).2.2.2.2
  have quiet : Extractor.complaint ⟨some 3, Utf8.encode "[]", []⟩ = "" := by decide +kernel
  have notText : Utf8.decode [91, 255] = .error ⟨1, 1, false⟩ := by decide +kernel
  refine ⟨?_, ?_, ?_, ?_, ?_, ?_, ?_, ?_⟩
  · exact ((ended ⟨_, _⟩).1 []).2 ⟨rfl, rfl, by decide +kernel, "[]", rfl, by decide +kernel⟩
  · have h := (failed ⟨some 3, Utf8.encode "[]", []⟩).1 fun h => by cases h.1
    rwa [show Extractor.complaint _ = "" from quiet] at h
  · obtain ⟨f, hf, h⟩ := (failed ⟨some 0, [91, 255], []⟩).2.1 rfl (by decide +kernel)
      fun text htext => nomatch notText.symm.trans (Utf8.decode_eq_ok_iff.2 htext)
    obtain rfl := Except.error.inj (hf.symm.trans notText)
    exact h
  · exact (failed ⟨some 0, _, _⟩).2.2 rfl (by decide +kernel) "[" rfl (by decide +kernel)
  · exact (classified _).1 fun h => by cases h
  · rw [(classified ⟨some .file, some 0, Utf8.encode "[]", []⟩).2.2.2.1 rfl _ _ (Stand.isFound _ _)]
    exact ((ended _).1 []).2 ⟨rfl, rfl, by decide +kernel, "[]", rfl, by decide +kernel⟩
  · exact (status _).2.1 3 ⟨_, _, rfl, by decide, by decide⟩
  · exact (status _).2.2 fun _ ⟨_, _, h, _⟩ => by cases h

end DecoderBench
