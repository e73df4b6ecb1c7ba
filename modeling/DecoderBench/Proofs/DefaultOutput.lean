/-
Settings that a run can load have no problems (`problems_of_resolve`), so the
generated module's name starts with a capital, and the file that it is saved to by
default lies in the project (`defaultOutput_in_project`).
-/
import DecoderBench.Proofs.Session
import DecoderBench.Proofs.SourceFiles

namespace DecoderBench

/-! ## Settings that can be loaded -/

namespace Settings

open Session (M lift_run)

theorem problems_of_parse {text : String} {s : Settings} (h : parse text = .ok s) : s.problems = [] := by
  unfold parse at h
  split at h
  · cases h
  · split at h
    · cases h
      assumption
    · cases h

theorem problems_of_settings? {w : Workspace} {file : Path} {s : Settings} (h : w.settings? file = some s) :
    s.problems = [] := by
  obtain ⟨text, -, hparse⟩ := Workspace.settings?_eq_some_iff.1 h
  exact problems_of_parse hparse

theorem problems_of_load {file : Path} {session : Session} {s : Settings}
    (h : ((load (m := M) file).run session).1 = .ok s) : s.problems = [] := by
  rw [load, Session.bind_run_ok (lift_run _ _)] at h
  cases hr : (Host.readText (m := M) file session).1 with
  | error reason =>
    rw [hr] at h
    cases h
  | ok text =>
    rw [hr] at h
    simp only at h
    cases hp : parse text with
    | error f =>
      rw [hp] at h
      cases h
    | ok t =>
      rw [hp] at h
      cases h
      exact problems_of_parse hp

/-- Whichever way the settings of a run are found, nothing is wrong with them. -/
theorem problems_of_resolve {project : Path} {named : Option Path} {session : Session} {s : Settings}
    (h : ((resolve (m := M) project named).run session).1 = .ok s) : s.problems = [] := by
  cases named with
  | some file => exact problems_of_load h
  | none =>
    rcases Session.resolve_cases h with rfl | ⟨d, -, hsettings⟩
    · decide
    · exact problems_of_settings? hsettings

/-- Settings without problems name the generated module with a capital in front. -/
theorem moduleName_of_problems {s : Settings} (h : s.problems = []) :
    ∃ c t, (s.value .moduleName).toList = c :: t ∧ c.isUpper = true := by
  have hname : nameProblem? (s.value .moduleName) = .none :=
    List.filterMap_eq_nil_iff.1 h .moduleName (by decide)
  unfold nameProblem? at hname
  split at hname
  · rename_i c t ht
    refine ⟨c, t, ht, ?_⟩
    by_contra hc
    rw [if_neg hc] at hname
    cases hname
  · cases hname

end Settings

/-! ## The file in the project -/

/-- A name that stands for itself in a path: there is something to it, it leads neither
here nor up, and no slash cuts it. -/
structure Path.IsName (n : String) : Prop where
  nonempty : n ≠ ""
  notHere : n ≠ "."
  notUp : n ≠ ".."
  slash : '/' ∉ n.toList

namespace GeneratedModule

theorem isRooted_of_isUpper {name : String} {c : Char} {t : List Char} (h : name.toList = c :: t)
    (hc : c.isUpper = true) : isRooted name = false := by
  have hdot : c ≠ '.' := by
    rintro rfl
    exact absurd hc (by decide)
  have hslash : c ≠ '/' := by
    rintro rfl
    exact absurd hc (by decide)
  simp [isRooted, h, isSeparator, hdot, hslash]

theorem slash_not_mem {name : String} {w : List Char} (hw : w ∈ piecesOf name) : '/' ∉ w := by
  intro hslash
  have hseparator := not_of_mem_splitOnP hw hslash
  contradiction

theorem isName_of_mem_directoriesOf {name : String} {w : List Char} (hw : w ∈ directoriesOf name) :
    Path.IsName (String.ofList w) := by
  obtain ⟨hmem, hne⟩ := List.mem_filter.1 hw
  have hpiece : w ∈ piecesOf name := List.dropLast_subset _ hmem
  have hdot : ∀ n : String, '.' ∈ n.toList → String.ofList w ≠ n := by
    rintro n hn rfl
    exact dot_not_mem hpiece (by simpa using hn)
  refine ⟨?_, hdot "." (by simp), hdot ".." (by simp), by simpa using slash_not_mem hpiece⟩
  simpa using hne

theorem isName_file (name : String) : Path.IsName (String.ofList (baseOf name ++ ".elm".toList)) := by
  have hm : ∀ n : String, 'm' ∉ n.toList → String.ofList (baseOf name ++ ".elm".toList) ≠ n := by
    rintro n hn rfl
    exact hn (by simp)
  have hpiece : baseOf name ∈ piecesOf name := by
    rw [← dropLast_piecesOf_append name]
    simp
  refine ⟨hm "" (by simp), hm "." (by simp), hm ".." (by simp), ?_⟩
  simpa using slash_not_mem hpiece

/-- The names that lead from a project to the source of a module. -/
def namesOf (name : String) : List String :=
  (directoriesOf name).map String.ofList ++ [String.ofList (baseOf name ++ ".elm".toList)]

theorem isName_of_mem_namesOf {name n : String} (hn : n ∈ namesOf name) : Path.IsName n := by
  rcases List.mem_append.1 hn with hn | hn
  · obtain ⟨w, hw, rfl⟩ := List.mem_map.1 hn
    exact isName_of_mem_directoriesOf hw
  · rw [List.mem_singleton.1 hn]
    exact isName_file name

theorem components_sourceFile_of_isRooted {name : String} (project : Path) (h : isRooted name = false) :
    (sourceFile project name).components = project.components ++ (namesOf name).map .named := by
  rw [components_sourceFile, directory, h, if_neg Bool.false_ne_true, namesOf, List.map_append, List.map_map,
    List.append_assoc]
  rfl

end GeneratedModule

open GeneratedModule

/-- **The generated module stays in the project.** Whatever settings a run loads, from a
named file, from one that it finds or without any, the way to the module's default file
is the way to the project and then one name or more; none of them leads up, out of the
project or to where it stands. -/
theorem defaultOutput_in_project (session : Session) (start : Path) (named : Option Path) {settings : Settings}
    (h : ((Settings.resolve (m := Session.M) start named).run session).1 = .ok settings) (project : Path)
    (modules : List Module) :
    ∃ names : List String, names ≠ [] ∧ (∀ n ∈ names, Path.IsName n) ∧
      (defaultOutput project (settings.generate modules)).components =
        project.components ++ names.map .named := by
  obtain ⟨c, t, hname, hupper⟩ := Settings.moduleName_of_problems (Settings.problems_of_resolve h)
  refine ⟨namesOf (settings.value .moduleName), by simp [namesOf], fun n => isName_of_mem_namesOf, ?_⟩
  exact components_sourceFile_of_isRooted project (isRooted_of_isUpper hname hupper)

/-- A project whose settings name the module by steps that would lead out of it. -/
def climbingWorkspace : Workspace where
  entries := [(["app"], .directory),
    (["app", ".debug-decoders.toml"], .file 0 (Utf8.encode "module_name = \"A/../../x.\"\n") .usual)]
  directory := ["app"]

theorem defaultOutput_in_project_climbing :
    ∃ settings, ((Settings.resolve (m := Session.M) ⟨"."⟩ none).run { workspace := climbingWorkspace }).1 = .ok settings ∧
      settings.value .moduleName = "A/../../x." ∧
      ∃ names : List String, names ≠ [] ∧ (∀ n ∈ names, Path.IsName n) ∧
        (defaultOutput ⟨"../app"⟩ (settings.generate [])).components =
          [.up, .named "app"] ++ names.map .named := by
  have hname : ((Settings.resolve (m := Session.M) ⟨"."⟩ none).run { workspace := climbingWorkspace }).1.toOption.map
      (·.value .moduleName) = some "A/../../x." := by
    decide +kernel
  cases hresolve : ((Settings.resolve (m := Session.M) ⟨"."⟩ none).run { workspace := climbingWorkspace }).1 with
  | error f =>
    rw [hresolve] at hname
    cases hname
  | ok settings =>
    rw [hresolve] at hname
    refine ⟨settings, rfl, Option.some.inj hname, ?_⟩
    exact defaultOutput_in_project { workspace := climbingWorkspace } ⟨"."⟩ none hresolve ⟨"../app"⟩ []

end DecoderBench
