/-
What is left of a file system after directories were created and a file was
written. Creating directories changes nothing that is there (`Grows`). Writing
changes one file, at all of its names, and where a path leads to no file it either
creates one or leaves everything as it is, at a device (`saved_of_write`). Writing that
is refused changes no file; at most it begins a new one (`unsaved_touch`).
-/
import DecoderBench.Proofs.Workspace.Paths
import DecoderBench.Workspace

namespace DecoderBench

theorem Entry.onward_of_isSame {e f : Entry} (h : e.isSame f = true) : f.onward = e.onward := by
  cases e <;> cases f <;> simp_all [Entry.isSame, Entry.number?, Entry.onward]

namespace Workspace

variable {P : Path → Prop} {w w₁ w' : Workspace} {p : Path} {l : Location} {f : Entry} {content : List UInt8}

theorem extends_put (hl : l ≠ []) (hlink : ∀ path, f ≠ .link path)
    (hold : ∀ e, w.get? l = some e → f.onward = e.onward) : Extends w (w.put l f) where
  directory := directory_put w l f
  kept := by
    intro l' e he
    by_cases h : l' = l
    · subst h
      exact ⟨f, get?_put_self w f hl, hold e he⟩
    · refine ⟨if e.isSame f then f else e, by rw [get?_put_other w f h, he, Option.map_some], ?_⟩
      split
      · exact Entry.onward_of_isSame ‹_›
      · rfl
  added := by
    intro l' e hnone he
    by_cases h : l' = l
    · subst h
      rw [get?_put_self w f hl] at he
      exact Option.some.inj he ▸ hlink
    · rw [get?_put_other w f h, hnone] at he
      cases he

/-! ## Creating directories -/

/-- All that there was is there as it was, and what came to it are directories at
paths with the property `P`. -/
structure Grows (P : Path → Prop) (w w' : Workspace) : Prop where
  directory : w'.directory = w.directory
  nameless : w'.nameless = w.nameless
  kept : ∀ l e, w.get? l = some e → w'.get? l = some e
  added : ∀ l e, w.get? l = none → w'.get? l = some e → e = .directory ∧ ∃ q, P q ∧ w'.locate q = .ok l

namespace Grows

theorem refl (P : Path → Prop) (w : Workspace) : Grows P w w where
  directory := rfl
  nameless := rfl
  kept := fun _ _ h => h
  added := fun l e hnone h => by simp [hnone] at h

theorem toExtends (h : Grows P w w') : Extends w w' where
  directory := h.directory
  kept := fun l e he => ⟨e, h.kept l e he, rfl⟩
  added := fun l e hnone he path hlink => by
    obtain ⟨rfl, -⟩ := h.added l e hnone he
    cases hlink

theorem trans (h₁ : Grows P w w₁) (h₂ : Grows P w₁ w') : Grows P w w' where
  directory := h₂.directory.trans h₁.directory
  nameless := h₂.nameless.trans h₁.nameless
  kept := fun l e he => h₂.kept l e (h₁.kept l e he)
  added := by
    intro l e hnone he
    cases hl : w₁.get? l with
    | none => exact h₂.added l e hl he
    | some e₁ =>
      obtain ⟨rfl, q, hq, hlocate⟩ := h₁.added l e₁ hnone hl
      rw [h₂.kept l _ hl] at he
      exact ⟨(Option.some.inj he).symm, q, hq, locate_of_follow h₂.toExtends .followed hlocate⟩

end Grows

theorem grows_makeDirectory (hp : P p) (h : w.makeDirectory p = .ok w') : Grows P w w' := by
  unfold makeDirectory at h
  cases htarget : w.target p with
  | error e =>
    rw [htarget] at h
    cases h
  | ok l =>
    rw [htarget] at h
    change (if (w.get? l).isSome then _ else _) = _ at h
    split at h
    · cases h
    rename_i hnone
    rw [Option.not_isSome_iff_eq_none] at hnone
    cases h
    have hl : l ≠ [] := by
      rintro rfl
      cases hnone
    have hextends : Extends w (w.put l .directory) := extends_put hl (by simp) (by simp [hnone])
    refine ⟨directory_put w l _, nameless_put_directory w l, ?_, ?_⟩
    · intro l' e he
      have hne : l' ≠ l := by
        rintro rfl
        rw [hnone] at he
        cases he
      rw [get?_put_directory w hne, he]
    · intro l' e hnone' he
      by_cases hl' : l' = l
      · subst hl'
        have hself := get?_put_self w .directory hl
        rw [hself] at he
        exact ⟨(Option.some.inj he).symm, p, hp, locate_of_follow hextends (.kept hself) htarget⟩
      · rw [get?_put_directory w hl', hnone'] at he
        cases he

/-! ## Writing a file -/

/-- At a path is the file `f`, and for the rest all is as it was: only what was this
file before has become so, and what came to it are `f`, with a number of its own, and
directories at paths with the property `P`. -/
structure SavedAt (P : Path → Prop) (p : Path) (l : Location) (f : Entry) (w w' : Workspace) : Prop where
  leads : w'.locate p = .ok l
  holds : w'.get? l = some f
  directory : w'.directory = w.directory
  nameless : w'.nameless = w.nameless.map fun e => if e.isSame f then f else e
  kept : ∀ l' e, w.get? l' = some e → w'.get? l' = some (if e.isSame f then f else e)
  own : w.get? l = none →
    (∀ l' e, w.get? l' = some e → e.isSame f = false) ∧ ∀ e ∈ w.nameless, e.isSame f = false
  added : ∀ l' e, w.get? l' = none → w'.get? l' = some e →
    l' = l ∨ e = .directory ∧ ∃ q, P q ∧ w'.locate q = .ok l'

/-- What is left after a content was written to the end of a path: a file that holds
it, or a device, which takes what is written and keeps nothing. -/
inductive Saved (P : Path → Prop) (p : Path) (content : List UInt8) (w w' : Workspace) : Prop
  | file {l : Location} {number : Nat} {mode : Mode} (h : SavedAt P p l (.file number content mode) w w')
  | device (kind : w'.kind? p = some .other) (h : Grows P w w')

/-- What is left where nothing could be written to the end of a path: what there was, or
besides a new file without content where none was. -/
inductive Unsaved (P : Path → Prop) (p : Path) (w w' : Workspace) : Prop
  | kept (h : Grows P w w')
  | begun {l : Location} {number : Nat} {mode : Mode} (missing : w.get? l = none)
      (h : SavedAt P p l (.file number [] mode) w w')

theorem savedAt_put {n : Nat} {mode : Mode} (hgrows : Grows P w w₁) (hdestination : w₁.destination p = .ok l)
    (hold : ∀ e, w₁.get? l = some e → e.isSame (.file n content mode) = true)
    (hown : w₁.get? l = none → ∀ e ∈ w₁.entries.map (·.2) ++ w₁.nameless, e.isSame (.file n content mode) = false) :
    SavedAt P p l (.file n content mode) w (w₁.put l (.file n content mode)) := by
  have hl : l ≠ [] := by
    rintro rfl
    cases hold _ (get?_root w₁)
  have hextends : Extends w₁ (w₁.put l (.file n content mode)) :=
    extends_put hl (by simp) fun e he => Entry.onward_of_isSame (hold e he)
  have hself := get?_put_self w₁ (.file n content mode) hl
  refine ⟨locate_of_follow hextends (.created fun _ => ⟨_, hself, by simp⟩) hdestination, hself, ?_, ?_, ?_, ?_, ?_⟩
  · rw [directory_put, hgrows.directory]
  · rw [nameless_put, hgrows.nameless]
  · intro l' e he
    have he₁ := hgrows.kept l' e he
    by_cases hl' : l' = l
    · subst hl'
      rw [hself, hold e he₁, if_pos rfl]
    · rw [get?_put_other w₁ _ hl', he₁, Option.map_some]
  · intro hnone
    -- What is missing in `w` is missing in `w₁` too: a directory would not be overwritten.
    have hnone₁ : w₁.get? l = none := by
      by_contra hsome
      obtain ⟨e₁, he₁⟩ := Option.ne_none_iff_exists'.1 hsome
      obtain ⟨rfl, -⟩ := hgrows.added l e₁ hnone he₁
      cases hold _ he₁
    refine ⟨fun l' e he => ?_, fun e he => ?_⟩
    · by_cases hl' : l' = []
      · subst hl'
        cases he
        rfl
      · exact hown hnone₁ e (List.mem_append_left _ (mem_of_get? (hgrows.kept l' e he) hl'))
    · exact hown hnone₁ e (List.mem_append_right _ (hgrows.nameless ▸ he))
  · intro l' e hnone he
    by_cases hl' : l' = l
    · exact .inl hl'
    rw [get?_put_other w₁ _ hl', Option.map_eq_some_iff] at he
    obtain ⟨e₁, he₁, rfl⟩ := he
    obtain ⟨rfl, q, hq, hlocate⟩ := hgrows.added l' e₁ hnone he₁
    exact .inr ⟨rfl, q, hq, locate_of_follow hextends .followed hlocate⟩

theorem savedAt_fresh (hgrows : Grows P w w₁) (hdestination : w₁.destination p = .ok l) (hl : w₁.get? l = none) :
    SavedAt P p l (.file w₁.fresh content .usual) w (w₁.put l (.file w₁.fresh content .usual)) :=
  savedAt_put hgrows hdestination (by simp [hl]) fun _ _ he => isSame_fresh he content .usual

/-- All that writing can do. -/
theorem write_cases (h : w.write p content = .ok w') :
    ∃ l, w.destination p = .ok l ∧
      ((∃ n old mode, w.get? l = some (.file n old mode) ∧ w' = w.put l (.file n content mode)) ∨
        (w.get? l = none ∧ w' = w.put l (.file w.fresh content .usual)) ∨
        (w' = w ∧ ∃ e, w.get? l = some e ∧ ((∃ d, e = .device d) ∨ ∃ path, e = .link path))) := by
  unfold write writeNew at h
  cases hdestination : w.destination p with
  | error e =>
    rw [hdestination] at h
    cases h
  | ok l =>
    rw [hdestination] at h
    refine ⟨l, rfl, ?_⟩
    simp only [bind, Except.bind] at h
    cases hl : w.get? l with
    | none =>
      rw [hl] at h
      cases h
      exact .inr (.inl ⟨rfl, rfl⟩)
    | some e =>
      rw [hl] at h
      cases e with
      | directory | program name => cases h
      | file n old mode =>
        cases h
        exact .inl ⟨n, old, mode, rfl, rfl⟩
      | link path =>
        cases h
        exact .inr (.inr ⟨rfl, _, rfl, .inr ⟨path, rfl⟩⟩)
      | device d =>
        have hkeeps : w' = w := by
          cases d with
          | null | zeros => exact (Except.ok.inj h).symm
          | full =>
            simp only at h
            split at h
            · exact (Except.ok.inj h).symm
            · cases h
        exact .inr (.inr ⟨hkeeps, _, rfl, .inl ⟨d, rfl⟩⟩)

/-- **What writing leaves**, after directories were created. -/
theorem saved_of_write (hgrows : Grows P w w₁) (h : w₁.write p content = .ok w') : Saved P p content w w' := by
  obtain ⟨l, hdestination, ⟨n, old, mode, hl, rfl⟩ | ⟨hl, rfl⟩ | ⟨rfl, e, hl, he⟩⟩ := write_cases h
  · refine .file (savedAt_put hgrows hdestination ?_ ?_)
    · simp [hl, Entry.isSame, Entry.number?]
    · simp [hl]
  · exact .file (savedAt_fresh hgrows hdestination hl)
  · refine .device ?_ hgrows
    have hlocate : w'.locate p = .ok l :=
      locate_of_follow (Grows.refl P w').toExtends (.created fun hnone => by simp [hl] at hnone) hdestination
    rw [kind?, find?, hlocate]
    obtain ⟨d, rfl⟩ | ⟨path, rfl⟩ := he <;> simp [hl]

/-- **What is left of writing that breaks off**, after directories were created. -/
theorem unsaved_touch (hgrows : Grows P w w₁) (p : Path) : Unsaved P p w (w₁.touch p) := by
  rw [touch]
  cases hdestination : w₁.destination p with
  | error e => exact .kept hgrows
  | ok l =>
    simp only
    cases hl : w₁.get? l with
    | some e => exact .kept hgrows
    | none =>
      have hmissing : w.get? l = none := by
        by_contra hsome
        obtain ⟨e, he⟩ := Option.ne_none_iff_exists'.1 hsome
        rw [hgrows.kept l e he] at hl
        cases hl
      exact .begun hmissing (savedAt_fresh hgrows hdestination hl)

end Workspace
end DecoderBench
