/-
Whether a search for settings stays at or above the project. It goes through the
directories that the first steps of the project's path lead to. Where that path goes up
from a directory, the search goes down into it; so it stays at or above the project
exactly if the path comes back to each such directory (`search_stays_above_iff`).
-/
import DecoderBench.Proofs.Ancestors
import DecoderBench.Proofs.Discovery

namespace DecoderBench

namespace Path

/-! ## Where joined paths lead -/

theorem isAbsolute_iff {p : Path} : p.isAbsolute = true ↔ .root ∈ p.components := by
  have hsteps := root_not_mem_steps p.split.2
  rw [isAbsolute, beq_iff_eq, components_eq, List.mem_append]
  cases p.split.1 <;> simp [Start.components, hsteps]

/-- The root directory can only be the first step. -/
theorem root_not_mem_of_components {p : Path} {before after : List Component} {c : Component}
    (h : p.components = before ++ c :: after) : .root ∉ after := by
  have htail : .root ∉ p.components.tail := by
    have hsteps := root_not_mem_steps p.split.2
    rw [components_eq]
    cases p.split.1 with
    | root | here => exact hsteps
    | bare => exact fun hroot => hsteps (List.mem_of_mem_tail hroot)
  rw [h] at htail
  cases before with
  | nil => exact htail
  | cons d before => exact fun hroot => htail (by simp [hroot])

/-- From another directory, a path that is not absolute goes the same way. -/
theorem resolve_join {base p : Path} (hbase : base.isAbsolute = true) (hp : p.isAbsolute = false) :
    (base.join p).resolve = p.components.foldl advance base.resolve := by
  have hne : base.text.toList ≠ [] := by
    intro hempty
    rw [isAbsolute, split_eq_bare ⟨by simp [hempty], by simp [hempty], by simp [hempty]⟩] at hbase
    cases hbase
  rw [resolve, components_join_of_relative hne hp, List.foldl_append, ← resolve]
  rcases start_cases p.text.toList with ⟨r, hr⟩ | hr | ⟨r, hr⟩ | hbare
  · rw [isAbsolute, split_eq_root hr] at hp
    cases hp
  · rw [components_eq, split_eq_dot hr, hr]
    rfl
  · have hdot : steps ('.' :: '/' :: r) = steps r := steps_append_slash ['.'] r
    rw [components_eq, split_eq_here hr, hr, hdot, steps_slash]
    rfl
  · rw [components_of_isBare hbare]

/-- Steps that do not go up lead to the same place or below it. -/
theorem prefix_foldl_advance {cs : List Component} (hup : .up ∉ cs) (done : List Component) :
    done <+: cs.foldl advance done := by
  induction cs generalizing done with
  | nil => exact List.prefix_refl done
  | cons c cs ih =>
    obtain ⟨hc, hcs⟩ := not_or.1 (mt List.mem_cons.2 hup)
    refine List.IsPrefix.trans ?_ (ih hcs _)
    cases c with
    | here => exact List.prefix_refl done
    | up => exact absurd rfl hc
    | root | named => exact List.prefix_append done _

/-! ## At or above -/

/-- From whatever directory one looks, `q` leads to the place that `p` leads to, or above
it. -/
def Contains (q p : Path) : Prop :=
  ∀ base : Path, base.isAbsolute = true → (base.join q).resolve <+: (base.join p).resolve

theorem Contains.trans {p q r : Path} (hrq : r.Contains q) (hqp : q.Contains p) : r.Contains p :=
  fun base hbase => (hrq base hbase).trans (hqp base hbase)

/-- Absolute paths lead to one place from everywhere. -/
theorem contains_iff_of_isAbsolute {p q : Path} (hq : q.isAbsolute = true) (hp : p.isAbsolute = true) :
    q.Contains p ↔ q.resolve <+: p.resolve := by
  constructor
  · intro h
    have := h q hq
    rwa [join_of_isAbsolute hq, join_of_isAbsolute hp] at this
  · intro h base _
    rwa [join_of_isAbsolute hq, join_of_isAbsolute hp]

/-- A path that goes on without going up leads to the same place or below it. -/
theorem contains_of_components {p q : Path} {cs : List Component} (h : p.components = q.components ++ cs)
    (hroot : .root ∉ cs) (hup : .up ∉ cs) : q.Contains p := by
  intro base hbase
  have habsolute : p.isAbsolute = q.isAbsolute := by
    rw [Bool.eq_iff_iff, isAbsolute_iff, isAbsolute_iff, h, List.mem_append, or_iff_left hroot]
  cases hq : q.isAbsolute with
  | true =>
    rw [join_of_isAbsolute hq, join_of_isAbsolute (habsolute.trans hq), resolve, resolve, h, List.foldl_append]
    exact prefix_foldl_advance hup _
  | false =>
    rw [resolve_join hbase hq, resolve_join hbase (habsolute.trans hq), h, List.foldl_append]
    exact prefix_foldl_advance hup _

/-! ## Walks that stay at or above their start -/

/-- Where a path goes up from a directory with one of its last steps, of fewer than `n`, it
comes back to that directory. -/
def ComesBack (p : Path) (n : Nat) : Prop :=
  ∀ (r : Path) (after : List Component),
    p.components = r.components ++ .up :: after → after.length + 1 < n → r.Contains p

theorem forall_contains_iff_comesBack (p : Path) (n : Nat) : (∀ q ∈ p.ancestors n, q.Contains p) ↔ p.ComesBack n := by
  constructor
  · intro hall r after hr hlength
    have hroot : .root ∉ Component.up :: after := by simpa using root_not_mem_of_components hr
    obtain ⟨q, hq, hcomponents⟩ := exists_mem_ancestors hr hroot (by simpa using hlength)
    have hsame : q.components = r.components ++ [] := by rw [hcomponents, List.append_nil]
    have hrq : r.Contains q := contains_of_components hsame List.not_mem_nil List.not_mem_nil
    exact hrq.trans (hall q hq)
  · intro hback q hq
    obtain ⟨cs, hcs, hroot, hlength⟩ := components_of_mem_ancestors hq
    by_cases hup : .up ∈ cs
    · -- Up to the first step up the path only goes down, so `q` is above the directory it goes up from.
      obtain ⟨front, after, rfl, hfront⟩ := List.eq_append_cons_of_mem hup
      rw [List.mem_append, not_or] at hroot
      rw [← List.append_assoc] at hcs
      obtain ⟨r, -, hr⟩ := exists_mem_ancestors hcs hroot.2 (n := n) (by simp at hlength ⊢; omega)
      rw [← hr] at hcs
      have hqr : q.Contains r := contains_of_components hr hroot.1 hfront
      exact hqr.trans (hback r after hcs (by simp at hlength ⊢; omega))
    · exact contains_of_components hcs hroot hup

end Path

namespace Workspace

/-- **When a search stays at or above the project.** The paths that it goes through, `n` at
most, all lead to its start or above it exactly if the start comes back to each directory
from which one of its last steps goes up. A run whose settings are not named, and which
gets any, has the default ones, or those in a directory on its way, which is at or above
the project wherever the project's path comes back like that. It does get some where the
machine refuses nothing. -/
theorem search_stays_above_iff (start : Path) (n : Nat) (s : Session) (project : Path) :
    ((∀ q ∈ start.ancestors n, q.Contains start) ↔ start.ComesBack n) ∧
    (∀ found, ((Settings.resolve (m := Session.M) project none).run s).1 = .ok found →
      found = .none ∨ ∃ d ∈ (s.workspace.directoryPath.join project).ancestors 10,
        s.workspace.settings? (d.join ⟨".debug-decoders.toml"⟩) = some found ∧
          ((s.workspace.directoryPath.join project).ComesBack 10 →
            d.Contains (s.workspace.directoryPath.join project))) ∧
    (s.refusals = [] → ∃ found, (Settings.resolve (m := Session.M) project none).run s = (.ok found, s)) := by
  refine ⟨Path.forall_contains_iff_comesBack start n, fun found hfound => ?_,
    fun hs => ⟨_, Session.resolve_apply hs project⟩⟩
  rcases Session.resolve_cases hfound with hnone | ⟨d, hd, hsettings⟩
  · exact .inl hnone
  · exact .inr ⟨d, hd, hsettings, fun hback => (Path.forall_contains_iff_comesBack _ 10).2 hback d hd⟩

/-- A path without steps up: all its ancestors are above it, and settings come from one of
them. -/
theorem search_stays_above_iff_plain :
    (⟨"/work/./app//"⟩ : Path).ComesBack 10 ∧
      (∀ q ∈ Path.ancestors 10 ⟨"/work/./app//"⟩, q.Contains ⟨"/work/./app//"⟩) ∧
      ∃ found, (Settings.resolve (m := Session.M) ⟨"app"⟩ none).run { workspace := shadowedWorkspace } =
          (.ok found, { workspace := shadowedWorkspace }) ∧
        found.value .moduleName = "Outer" ∧
        ∃ d ∈ Path.ancestors 10 ⟨"/work/app"⟩,
          shadowedWorkspace.settings? (d.join ⟨".debug-decoders.toml"⟩) = some found ∧ d.Contains ⟨"/work/app"⟩ := by
  have hback {p : Path} (hup : Path.Component.up ∉ p.components) : p.ComesBack 10 := by
    intro r after hr
    exact absurd (by simp [hr]) hup
  obtain ⟨hiff, hcases, hok⟩ :=
    search_stays_above_iff ⟨"/work/./app//"⟩ 10 { workspace := shadowedWorkspace } ⟨"app"⟩
  obtain ⟨found, hfound⟩ := hok rfl
  have hname : ((Settings.resolve (m := Session.M) ⟨"app"⟩ none).run
      { workspace := shadowedWorkspace }).1.map (·.value .moduleName) = .ok "Outer" := by
    decide +kernel
  rw [hfound] at hname
  refine ⟨hback (by decide), hiff.2 (hback (by decide)), found, hfound, Except.ok.inj hname, ?_⟩
  rcases hcases found (by rw [hfound]) with rfl | ⟨d, hd, hsettings, hcontains⟩
  · exact absurd (Except.ok.inj hname) (by decide)
  · exact ⟨d, hd, hsettings, hcontains (hback (by decide))⟩

/-- A project with settings in a directory below it only. -/
def strayWorkspace : Workspace where
  entries := [(["work"], .directory), (["work", "app"], .directory),
    (["work", "app", ".debug-decoders.toml"], .file 0 (Utf8.encode "module_name = \"Inner\"\n") .usual)]
  directory := ["work"]

/-- Going up from a path that goes down and up again comes to a directory below the one
that the path leads to, and its settings are taken. -/
theorem search_goes_below :
    let start : Path := strayWorkspace.directoryPath.join ⟨"app/.."⟩
    start.resolve = [.root, .named "work"] ∧
      ⟨"/work/app"⟩ ∈ start.ancestors 10 ∧
      ¬ (⟨"/work/app"⟩ : Path).Contains start ∧
      ((Settings.resolve (m := Session.M) ⟨"app/.."⟩ none).run { workspace := strayWorkspace }).1.map
        (·.value .moduleName) = .ok "Inner" := by
  refine ⟨by decide, by decide, ?_, by decide +kernel⟩
  rw [Path.contains_iff_of_isAbsolute rfl rfl]
  decide

end Workspace
end DecoderBench
