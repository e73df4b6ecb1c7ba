/-
Paths in a file system that grows. A path that leads somewhere still leads there
when entries are added and files change (`locate_of_follow`): links and directories
stay what they are, and nothing that was missing becomes a link.
-/
import DecoderBench.Proofs.Workspace.Entries
import DecoderBench.Workspace.Paths

namespace DecoderBench

/-- Where a path goes on from an entry: from a directory, at the path of a link, or not
at all. -/
inductive Entry.Onward
  | within
  | along (path : String)
  | nowhere
  deriving DecidableEq

/-- Where a path goes on from an entry. -/
def Entry.onward : Entry → Entry.Onward
  | .directory => .within
  | .link path => .along path
  | _ => .nowhere

namespace Workspace

/-- A path cannot tell `w'` from `w` where it leads somewhere in `w`. -/
structure Extends (w w' : Workspace) : Prop where
  directory : w'.directory = w.directory
  kept : ∀ l e, w.get? l = some e → ∃ e', w'.get? l = some e' ∧ e'.onward = e.onward
  added : ∀ l e, w.get? l = none → w'.get? l = some e → ∀ path, e ≠ .link path

variable {w w' : Workspace} {l r : Location} {ps : List (List Char)} {ending : Ending}
  {onward onward' : Location → List (List Char) → Except SystemFault Location}

theorem isDirectory_iff : w.isDirectory l = true ↔ w.get? l = some .directory := by
  simp [isDirectory]

namespace Extends

theorem get?_directory (h : Extends w w') (hl : w.get? l = some .directory) : w'.get? l = some .directory := by
  obtain ⟨e', he', honward⟩ := h.kept l _ hl
  cases e' <;> simp_all [Entry.onward]

theorem get?_link (h : Extends w w') {path : String} (hl : w.get? l = some (.link path)) :
    w'.get? l = some (.link path) := by
  obtain ⟨e', he', honward⟩ := h.kept l _ hl
  cases e' <;> simp_all [Entry.onward]

theorem get?_other (h : Extends w w') {e : Entry} (hl : w.get? l = some e) (he : ∀ path, e ≠ .link path) :
    ∃ e', w'.get? l = some e' ∧ ∀ path, e' ≠ .link path := by
  obtain ⟨e', he', honward⟩ := h.kept l _ hl
  refine ⟨e', he', ?_⟩
  rintro path rfl
  cases e <;> simp_all [Entry.onward]

end Extends

/-- Empty parts at the end of a path lead from a directory to itself. -/
theorem advance_of_all_empty (hl : w.get? l = some .directory) (hps : ps.all (· == []) = true) :
    w.advance ending onward l ps = .ok l := by
  induction ps with
  | nil => rfl
  | cons part ps ih =>
    obtain ⟨rfl, hps⟩ : part = [] ∧ ps.all (· == []) = true := by simpa using hps
    rw [advance, isDirectory_iff.2 hl]
    exact ih hps

/-- What must be in `w'` at the end of a path of `w`, so that it can be followed there. -/
inductive CanEnd (w w' : Workspace) (l : Location) : Ending → Prop
  | followed : CanEnd w w' l .followed
  | kept (h : w'.get? l = some .directory) : CanEnd w w' l .kept
  | created (h : w.get? l = none → ∃ e, w'.get? l = some e ∧ ∀ path, e ≠ .link path) : CanEnd w w' l .created

/-- A part that is a name. -/
structure IsName (part : List Char) : Prop where
  notVoid : Path.isVoid part = false
  notUp : part ≠ ['.', '.']
  fits : ¬ nameLimit < (String.ofList part).utf8ByteSize

/-- A name at which there is a link leads where the link leads. -/
theorem advance_link {part : List Char} (hpart : IsName part) (hl : w.get? l = some .directory) {path : String}
    (hlink : w.get? (l ++ [String.ofList part]) = some (.link path)) :
    w.advance .followed onward l (part :: ps) =
      onward (if (⟨path⟩ : Path).isAbsolute then [] else l) (Path.parts path.toList ++ ps) := by
  rw [advance, isDirectory_iff.2 hl]
  simp [hpart.notVoid, hpart.notUp, hpart.fits, hlink]

/-- A name at which there is something else leads to it. -/
theorem advance_entry {part : List Char} (hpart : IsName part) (hl : w.get? l = some .directory) {e : Entry}
    (he : w.get? (l ++ [String.ofList part]) = some e) (hnot : ∀ path, e ≠ .link path) :
    w.advance .followed onward l (part :: ps) = w.advance .followed onward (l ++ [String.ofList part]) ps := by
  rw [advance, isDirectory_iff.2 hl]
  cases e <;> simp_all [hpart.notVoid, hpart.notUp, hpart.fits]

/-- Where a path may end at a name, or how it goes on from there. -/
theorem advance_name_cases {part : List Char} (hl : w.get? l = some .directory) (hvoid : Path.isVoid part = false)
    (hup : part ≠ ['.', '.']) (hr : w.advance ending onward l (part :: ps) = .ok r) :
    IsName part ∧
      (r = l ++ [String.ofList part] ∧
          (ending = .kept ∧ ps.all (· == []) = true ∨
            ending = .created ∧ ps = [] ∧ w.get? (l ++ [String.ofList part]) = none) ∨
        (∃ path, w.get? (l ++ [String.ofList part]) = some (.link path) ∧
          onward (if (⟨path⟩ : Path).isAbsolute then [] else l) (Path.parts path.toList ++ ps) = .ok r) ∨
        ∃ e, w.get? (l ++ [String.ofList part]) = some e ∧ (∀ path, e ≠ .link path) ∧
          w.advance ending onward (l ++ [String.ofList part]) ps = .ok r) := by
  rw [advance, isDirectory_iff.2 hl] at hr
  simp only [Bool.not_true, Bool.false_eq_true, if_false, hvoid, beq_iff_eq, hup] at hr
  split at hr
  · cases hr
  rename_i hlong
  refine ⟨⟨hvoid, hup, hlong⟩, ?_⟩
  split at hr
  · rename_i hkept
    cases hr
    simp only [Bool.and_eq_true, beq_iff_eq] at hkept
    exact .inl ⟨rfl, .inl ⟨hkept.2, hkept.1⟩⟩
  split at hr
  · cases hr
  rename_i hslash
  split at hr
  · split at hr
    · rename_i hlast
      cases hr
      simp_all
    · cases hr
  · rename_i path hlink
    exact .inr (.inl ⟨path, hlink, hr⟩)
  · rename_i e hnot he
    exact .inr (.inr ⟨e, he, hnot, hr⟩)

-- By induction on the parts, for one link's worth of them: where a link is met, `onward'`
-- has to come to what `onward` comes to.
theorem advance_followed (h : Extends w w') (hend : CanEnd w w' r ending)
    (honward : ∀ l ps, onward l ps = .ok r → onward' l ps = .ok r)
    (hr : w.advance ending onward l ps = .ok r) : w'.advance .followed onward' l ps = .ok r := by
  induction ps generalizing l with
  | nil => exact hr
  | cons part ps ih =>
    cases hl : w.isDirectory l with
    | false =>
      rw [advance, hl] at hr
      cases hr
    | true =>
      have hl : w.get? l = some .directory := isDirectory_iff.1 hl
      have hl' := h.get?_directory hl
      cases hvoid : Path.isVoid part with
      | true =>
        rw [advance, isDirectory_iff.2 hl, hvoid] at hr
        rw [advance, isDirectory_iff.2 hl', hvoid]
        exact ih hr
      | false =>
        by_cases hup : part = ['.', '.']
        · subst hup
          rw [advance, isDirectory_iff.2 hl] at hr
          rw [advance, isDirectory_iff.2 hl']
          exact ih hr
        obtain ⟨hpart, hcases⟩ := advance_name_cases hl hvoid hup hr
        rcases hcases with ⟨rfl, ⟨rfl, hps⟩ | ⟨rfl, rfl, hnone⟩⟩ | ⟨path, hlink, hr⟩ | ⟨e, he, hnot, hr⟩
        · cases hend with
          | kept hend =>
            rw [advance_entry hpart hl' hend (by simp)]
            exact advance_of_all_empty hend hps
        · cases hend with
          | created hend =>
            obtain ⟨e, he, hnot⟩ := hend hnone
            rw [advance_entry hpart hl' he hnot]
            rfl
        · rw [advance_link hpart hl' (h.get?_link hlink)]
          exact honward _ _ hr
        · obtain ⟨e', he', hnot'⟩ := h.get?_other he hnot
          rw [advance_entry hpart hl' he' hnot']
          exact ih hr

theorem walk_followed (h : Extends w w') (hend : CanEnd w w' r ending) {links : Nat}
    (hr : w.walk ending links l ps = .ok r) : w'.walk .followed links l ps = .ok r := by
  induction links generalizing l ps with
  | zero => exact advance_followed h hend (fun _ _ hr => by cases hr) hr
  | succ links ih => exact advance_followed h hend (fun _ _ hr => ih hr) hr

/-- A path that leads somewhere still leads there when entries are added, if what is
there now can be followed. -/
theorem locate_of_follow (h : Extends w w') {p : Path} (hend : CanEnd w w' r ending)
    (hr : w.follow ending p = .ok r) : w'.locate p = .ok r := by
  rw [locate, follow, origin, h.directory]
  rw [follow] at hr
  cases hp : usable p with
  | error f =>
    rw [hp] at hr
    cases hr
  | ok u =>
    rw [hp] at hr
    exact walk_followed h hend hr

end Workspace
end DecoderBench
