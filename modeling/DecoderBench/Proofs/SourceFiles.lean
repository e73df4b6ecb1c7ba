/-
Where the source of a module lies: each dot and each slash of its name leads a
directory down, and where several stand together they lead down once
(`components_sourceFile`). So two names may have one file, and a generated module
whose name is free may take the file of a module of the project
(`defaultOutput_eq_source_iff`, `free_name_takes_source`). Names whose pieces are
parted by single dots do not meet (`IsDotted.eq_of_components`).
-/
import DecoderBench.Proofs.Path
import DecoderBench.Run
import Mathlib.Data.List.Basic

namespace DecoderBench

namespace GeneratedModule

/-- The file with the source of a project's module. -/
def sourceFile (project : Path) (name : String) : Path := project.join ⟨fileNameOf name⟩

theorem defaultOutput_eq_sourceFile (project : Path) (m : GeneratedModule) :
    defaultOutput project m = sourceFile project m.name := rfl

/-! ## The pieces of a name -/

/-- The characters of a module's name that lead into a directory. -/
def isSeparator (c : Char) : Bool := c == '.' || c == '/'

/-- The pieces of a name around its dots and slashes. -/
def piecesOf (name : String) : List (List Char) := name.toList.splitOnP isSeparator

/-- The directories that a name leads down. -/
def directoriesOf (name : String) : List (List Char) := (piecesOf name).dropLast.filter fun w => !w.isEmpty

/-- The name of the file, without its extension: the last piece, though it be empty. -/
def baseOf (name : String) : List Char := (piecesOf name).getLastD []

/-- Whether a name leads to a file from the root directory, and not from the project. -/
def isRooted (name : String) : Bool := name.toList.head?.any isSeparator

theorem dropLast_piecesOf_append (name : String) : (piecesOf name).dropLast ++ [baseOf name] = piecesOf name := by
  rw [baseOf]
  obtain h | ⟨ps, p, h⟩ := List.eq_nil_or_concat (piecesOf name)
  · exact absurd h (List.splitOnP_ne_nil isSeparator name.toList)
  · simp [h]

theorem dot_not_mem {name : String} {w : List Char} (hw : w ∈ piecesOf name) : '.' ∉ w := by
  intro hdot
  have hseparator := not_of_mem_splitOnP hw hdot
  contradiction

/-! ## The steps of a file name -/

theorem toList_fileNameOf (name : String) :
    (fileNameOf name).toList = (name.toList.map fun c => if c == '.' then '/' else c) ++ ".elm".toList := by
  rw [fileNameOf, String.toList_append, String.toList_ofList]

theorem parts_map_slash (t : List Char) :
    Path.parts (t.map fun c => if c == '.' then '/' else c) = t.splitOnP isSeparator := by
  unfold Path.parts
  induction t with
  | nil => rfl
  | cons c t ih =>
    rw [List.map_cons, List.splitOn_cons_eq_if_modifyHead, ih, List.splitOnP_cons_eq_if_modifyHead]
    by_cases hdot : c = '.' <;> simp [isSeparator, hdot]

theorem parts_fileNameOf (name : String) :
    Path.parts (fileNameOf name).toList = (piecesOf name).dropLast ++ [baseOf name ++ ".elm".toList] := by
  rw [toList_fileNameOf, Path.parts_append (by simp), parts_map_slash, piecesOf, baseOf, piecesOf]

/-- A piece between separators is never `.` or `..`, and neither is one with an
extension: every piece that is not empty is a name. -/
theorem steps_fileNameOf (name : String) :
    Path.steps (fileNameOf name).toList =
      (directoriesOf name).map (fun w => .named (String.ofList w)) ++
        [.named (String.ofList (baseOf name ++ ".elm".toList))] := by
  have hdot : ∀ w ∈ (piecesOf name).dropLast, '.' ∉ w := fun w hw => dot_not_mem (List.dropLast_subset _ hw)
  have hkept : (piecesOf name).dropLast.filter (fun w => !Path.isVoid w) = directoriesOf name :=
    List.filter_congr fun w hw => by
      have hne : w ≠ ['.'] := (ne_of_mem_of_not_mem' (List.mem_singleton_self '.') (hdot w hw)).symm
      rw [Path.isVoid_eq_isEmpty hne]
  have hnamed : (directoriesOf name).map Path.componentOf =
      (directoriesOf name).map fun w => .named (String.ofList w) :=
    List.map_congr_left fun w hw => Path.componentOf_eq_named <| by
      rintro rfl
      exact hdot _ (List.mem_of_mem_filter hw) (by simp)
  have hm : 'm' ∈ baseOf name ++ ".elm".toList := by simp
  have hfile : Path.isVoid (baseOf name ++ ".elm".toList) = false := by
    rw [Path.isVoid_eq_isEmpty (ne_of_mem_of_not_mem' hm (by simp))]
    simp
  rw [Path.steps, parts_fileNameOf, List.filter_append, List.map_append, hkept, hnamed,
    List.filter_singleton, hfile, Bool.not_false, cond_true, List.map_singleton,
    Path.componentOf_eq_named (ne_of_mem_of_not_mem' hm (by simp))]

theorem start_fileNameOf (name : String) :
    (isRooted name = true ∧ ∃ t, (fileNameOf name).toList = '/' :: t) ∨
      (isRooted name = false ∧ Path.IsBare (fileNameOf name).toList) := by
  rw [toList_fileNameOf, isRooted]
  cases name.toList with
  | nil => exact .inr ⟨rfl, by simp, by simp, by simp⟩
  | cons c t =>
    by_cases hdot : c = '.'
    · subst hdot
      exact .inl ⟨rfl, _, rfl⟩
    by_cases hslash : c = '/'
    · subst hslash
      exact .inl ⟨rfl, _, rfl⟩
    · exact .inr ⟨by simp [isSeparator, hdot, hslash], by simp [hdot, hslash], by simp [hdot], by simp [hdot]⟩

/-! ## The file of a module -/

/-- The steps to the directory with a module's source. -/
def directory (project : Path) (name : String) : List Path.Component :=
  (if isRooted name then [.root] else project.components) ++
    (directoriesOf name).map fun w => .named (String.ofList w)

/-- **The way to a module's source**: the project, the directories of the name, the file. -/
theorem components_sourceFile (project : Path) (name : String) :
    (sourceFile project name).components =
      directory project name ++ [.named (String.ofList (baseOf name ++ ".elm".toList))] := by
  rw [directory, List.append_assoc, ← steps_fileNameOf, sourceFile]
  rcases start_fileNameOf name with ⟨hrooted, t, ht⟩ | ⟨hrooted, hbare⟩
  · rw [Path.join_of_root (q := ⟨fileNameOf name⟩) ht, Path.components_of_root (p := ⟨fileNameOf name⟩) ht,
      hrooted, if_pos rfl, List.singleton_append]
  · rw [Path.components_join (q := ⟨fileNameOf name⟩) hbare,
      Path.components_of_isBare (p := ⟨fileNameOf name⟩) hbare, hrooted, if_neg Bool.false_ne_true]

theorem components_sourceFile_eq_iff {project : Path} {n n' : String} :
    (sourceFile project n).components = (sourceFile project n').components ↔
      directory project n = directory project n' ∧ baseOf n = baseOf n' := by
  rw [components_sourceFile, components_sourceFile]
  constructor
  · intro h
    obtain ⟨hdirectory, hfile⟩ := List.append_inj' h rfl
    have htext : baseOf n ++ ".elm".toList = baseOf n' ++ ".elm".toList := by
      simpa [String.ofList_inj] using hfile
    exact ⟨hdirectory, List.append_cancel_right htext⟩
  · rintro ⟨hdirectory, hbase⟩
    rw [hdirectory, hbase]

/-! ## Names with single dots -/

/-- A name of pieces that are not empty, with one dot between any two. -/
def IsDotted (name : String) : Prop := '/' ∉ name.toList ∧ [] ∉ name.toList.splitOn '.'

instance (name : String) : Decidable (IsDotted name) := inferInstanceAs (Decidable (_ ∧ _))

theorem splitOnP_eq_splitOn {t : List Char} (h : '/' ∉ t) : t.splitOnP isSeparator = t.splitOn '.' := by
  induction t with
  | nil => rfl
  | cons c t ih =>
    obtain ⟨hc, ht⟩ : c ≠ '/' ∧ '/' ∉ t := by simpa [eq_comm] using h
    rw [List.splitOnP_cons_eq_if_modifyHead, List.splitOn_cons_eq_if_modifyHead, ih ht]
    simp [isSeparator, hc]

variable {n n' : String}

theorem IsDotted.piecesOf_eq (h : IsDotted n) : piecesOf n = n.toList.splitOn '.' := splitOnP_eq_splitOn h.1

theorem IsDotted.isRooted_eq (h : IsDotted n) : isRooted n = false := by
  obtain ⟨hslash, hempty⟩ := h
  rw [isRooted]
  cases ht : n.toList with
  | nil => rfl
  | cons c t =>
    rw [ht] at hslash hempty
    have hdot : c ≠ '.' := by
      rintro rfl
      simp [List.splitOn_cons_eq_if_modifyHead] at hempty
    have hc : c ≠ '/' := by
      rintro rfl
      simp at hslash
    simp [isSeparator, hdot, hc]

theorem IsDotted.directoriesOf_eq (h : IsDotted n) : directoriesOf n = (piecesOf n).dropLast := by
  refine List.filter_eq_self.2 fun w hw => ?_
  have hmem : w ∈ n.toList.splitOn '.' := h.piecesOf_eq ▸ List.dropLast_subset _ hw
  have hne : w ≠ [] := ne_of_mem_of_not_mem hmem h.2
  simpa using hne

/-- The way to the file of such a name gives back its pieces, and they the name. -/
theorem IsDotted.eq_of_components {project : Path} (h : IsDotted n) (h' : IsDotted n')
    (heq : (sourceFile project n).components = (sourceFile project n').components) : n = n' := by
  obtain ⟨hdirectory, hbase⟩ := components_sourceFile_eq_iff.1 heq
  rw [directory, directory, h.isRooted_eq, h'.isRooted_eq, List.append_cancel_left_eq] at hdirectory
  have hdirectories : directoriesOf n = directoriesOf n' := by
    refine List.map_injective_iff.2 (fun w w' hw => ?_) hdirectory
    simpa [String.ofList_inj] using hw
  have hpieces : n.toList.splitOn '.' = n'.toList.splitOn '.' := by
    rw [← h.piecesOf_eq, ← h'.piecesOf_eq, ← dropLast_piecesOf_append n, ← dropLast_piecesOf_append n',
      ← h.directoriesOf_eq, ← h'.directoriesOf_eq, hdirectories, hbase]
  have htext := congrArg (List.intercalate ['.']) hpieces
  rw [List.intercalate_splitOn, List.intercalate_splitOn] at htext
  exact String.toList_injective htext

end GeneratedModule

open GeneratedModule

/-- **What a free name protects.** A generated module of a free name is written over the
source of a module of another name exactly if the two names lead down the same
directories to the same file. That does not happen between names of single dots. -/
theorem defaultOutput_eq_source_iff (project : Path) (source : String) {name : String} {modules : List Module}
    (hfree : ensureNameIsFree modules name = .ok ()) :
    (∀ m ∈ modules, (defaultOutput project ⟨name, source⟩).components = (sourceFile project m.name).components ↔
      m.name ≠ name ∧ directory project name = directory project m.name ∧ baseOf name = baseOf m.name) ∧
    (IsDotted name → ∀ m ∈ modules, IsDotted m.name →
      (defaultOutput project ⟨name, source⟩).components ≠ (sourceFile project m.name).components) := by
  have hne : ∀ m ∈ modules, m.name ≠ name := ensureNameIsFree_eq_ok_iff.1 hfree
  rw [defaultOutput_eq_sourceFile]
  constructor
  · intro m hm
    rw [components_sourceFile_eq_iff, and_iff_right (hne m hm)]
  · intro hname m hm hdotted heq
    exact hne m hm (hname.eq_of_components hdotted heq).symm

theorem defaultOutput_eq_source_iff_debugView :
    ensureNameIsFree [⟨"Debug", []⟩, ⟨"Debug/View", []⟩] "Debug.View" = .ok () ∧
    (defaultOutput ⟨"app"⟩ ⟨"Debug.View", ""⟩).components = (sourceFile ⟨"app"⟩ "Debug/View").components ∧
    (defaultOutput ⟨"app"⟩ ⟨"Debug.View", ""⟩).components ≠ (sourceFile ⟨"app"⟩ "Debug").components := by
  have hfree : ensureNameIsFree [⟨"Debug", []⟩, ⟨"Debug/View", []⟩] "Debug.View" = .ok () := by decide
  obtain ⟨hmeet, happart⟩ := defaultOutput_eq_source_iff ⟨"app"⟩ "" hfree
  refine ⟨hfree, (hmeet ⟨"Debug/View", []⟩ (by simp)).2 ⟨by decide, by decide, by decide⟩, ?_⟩
  exact happart (by decide) ⟨"Debug", []⟩ (by simp) (by decide)

/-- The name `A/B` can be set and is free beside `A.B`, and both have one file. -/
theorem free_name_takes_source :
    Settings.nameProblem? "A/B" = .none ∧ ensureNameIsFree [⟨"A.B", []⟩] "A/B" = .ok () ∧
    (defaultOutput ⟨"."⟩ ⟨"A/B", ""⟩).components = (sourceFile ⟨"."⟩ "A.B").components := by
  decide

end DecoderBench
