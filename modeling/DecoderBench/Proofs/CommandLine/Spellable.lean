/-
The commands that words can spell. Whatever words are read, the values that are kept are
ones that their options take (`Progress.IsSound`), so no other commands come out of them
(`isSpellable_of_parse`).
-/
import DecoderBench.CommandLine
import DecoderBench.Proofs.Lookup

namespace DecoderBench.CommandLine

/-! ## Commands that can be spelled -/

/-- The paths of a source are not empty. -/
structure IsNamed (s : Source) : Prop where
  path : s.path.text ≠ ""
  interface : ∀ p ∈ s.interface, p.text ≠ ""
  config : ∀ p ∈ s.config, p.text ≠ ""

/-- A command that words can spell: none of its paths is empty, its module does not go both
to a file and to the output, and its verbosity is one that is counted. -/
def IsSpellable : Command → Prop
  | .generate job verbosity =>
    IsNamed job.source ∧ (∀ p ∈ job.output, p.text ≠ "") ∧ ¬(job.output.isSome ∧ job.stdout = true) ∧ verbosity ≤ 255
  | .inspect job verbosity => IsNamed job.source ∧ verbosity ≤ 255
  | .init _ => True

theorem accepts_path {o : Valued} (ho : o ≠ .format) {text : String} : o.accepts text = true ↔ text ≠ "" := by
  cases o with
  | format => exact absurd rfl ho
  | path | output | interface | config => simp [Valued.accepts]

/-! ## What is read -/

theorem exists_of_bind_eq_ok {α β : Type} {x : Except Problem α} {f : α → Except Problem β} {b : β}
    (h : (x >>= f) = .ok b) : ∃ a, x = .ok a ∧ f a = .ok b := by
  cases x with
  | error e => cases h
  | ok a => exact ⟨a, rfl, h⟩

/-- What is read of a command's options holds values that their options take, and a
verbosity that is counted. -/
structure Progress.IsSound (p : Progress) : Prop where
  accepted : ∀ o text, (o, text) ∈ p.values → o.accepts text = true
  counted : p.verbosity ≤ maxVerbosity

namespace Progress.IsSound

variable {p q : Progress}

theorem empty : IsSound {} := ⟨nofun, Nat.zero_le _⟩

theorem store (h : p.IsSound) {o : Valued} {text : String} (hstore : p.store o text = .ok q) : q.IsSound := by
  rw [Progress.store] at hstore
  split at hstore
  · cases hstore
  · split at hstore
    · rename_i haccepts
      cases hstore
      refine ⟨fun o' text' hmem => ?_, h.counted⟩
      rcases List.mem_append.1 hmem with hmem | hmem
      · exact h.accepted o' text' hmem
      · obtain ⟨rfl, rfl⟩ := Prod.mk.inj (List.mem_singleton.1 hmem)
        exact haccepts
    · cases hstore

theorem settle (h : p.IsSound) (hsettle : p.settle = .ok q) : q.IsSound := by
  rw [Progress.settle] at hsettle
  split at hsettle
  · cases hsettle
    exact h
  · cases hsettle
  · have hcleared : IsSound { p with pending := none } := ⟨h.accepted, h.counted⟩
    exact hcleared.store hsettle

theorem choose (h : p.IsSound) {c : Choice} (hchoose : p.choose c = .ok q) : q.IsSound := by
  cases c with
  | valued o =>
    cases hchoose
    exact ⟨h.accepted, h.counted⟩
  | flag f =>
    rw [Progress.choose] at hchoose
    split at hchoose
    · cases hchoose
    · cases hchoose
      exact ⟨h.accepted, h.counted⟩
  | verbosity =>
    cases hchoose
    exact ⟨h.accepted, Nat.min_le_right _ _⟩
  | help => cases hchoose

theorem take (h : p.IsSound) {c : Choice} {attached : Option (List Char)} (htake : p.take c attached = .ok q) :
    q.IsSound := by
  unfold Progress.take at htake
  split at htake
  · obtain ⟨r, hr, hstore⟩ := exists_of_bind_eq_ok htake
    exact (h.settle hr).store hstore
  · cases htake
  · obtain ⟨r, hr, hchoose⟩ := exists_of_bind_eq_ok htake
    exact (h.settle hr).choose hchoose

theorem letters (h : p.IsSound) {v : Verb} {ls : List Char} (hread : readLetters v p ls = .ok q) : q.IsSound := by
  induction ls generalizing p with
  | nil =>
    cases hread
    exact h
  | cons l ls ih =>
    rw [readLetters] at hread
    split at hread
    · cases hread
    · exact h.take hread
    · obtain ⟨r, hr, hrest⟩ := exists_of_bind_eq_ok hread
      exact ih (h.take hr) hrest

theorem long (h : p.IsSound) {v : Verb} {w : List Char} (hread : readLong v p w = .ok q) : q.IsSound := by
  rw [readLong] at hread
  split at hread
  · cases hread
  · exact h.take hread

theorem value (h : p.IsSound) {w : String} (hread : readValue p w = .ok q) : q.IsSound := by
  rw [readValue.eq_def] at hread
  split at hread
  · cases hread
    exact ⟨h.accepted, h.counted⟩
  · cases hread

/-- Each word keeps what was read sound, so all words do. -/
theorem words (h : p.IsSound) {v : Verb} {ws : List String} (hread : readWords v p ws = .ok q) : q.IsSound := by
  induction ws generalizing p with
  | nil => exact h.settle hread
  | cons w ws ih =>
    rw [readWords] at hread
    split at hread
    · split at hread
      · exact h.settle hread
      · cases hread
    · obtain ⟨r, hr, hrest⟩ := exists_of_bind_eq_ok hread
      exact ih (h.long hr) hrest
    · obtain ⟨r, hr, hrest⟩ := exists_of_bind_eq_ok hread
      exact ih (h.letters hr) hrest
    · obtain ⟨r, hr, hrest⟩ := exists_of_bind_eq_ok hread
      exact ih (h.value hr) hrest

theorem path?_ne (h : p.IsSound) {o : Valued} (ho : o ≠ .format) : ∀ path ∈ p.path? o, path.text ≠ "" := by
  intro path hpath
  obtain ⟨text, hlookup, rfl⟩ := Option.map_eq_some_iff.1 hpath
  exact (accepts_path ho).1 (h.accepted o text (mem_of_lookup hlookup))

theorem isNamed_source (h : p.IsSound) : IsNamed p.source := by
  refine ⟨?_, h.path?_ne (by decide), h.path?_ne (by decide)⟩
  rw [Progress.source]
  cases hpath : p.path? .path with
  | none =>
    change "." ≠ ""
    decide
  | some path => exact h.path?_ne (by decide) path hpath

end Progress.IsSound

theorem isSpellable_of_command {v : Verb} {p : Progress} {c : Command} (h : p.IsSound) (hc : command v p = .ok c) :
    IsSpellable c := by
  cases v with
  | generate =>
    rw [command] at hc
    split at hc
    · cases hc
    · rename_i hboth
      cases hc
      refine ⟨h.isNamed_source, h.path?_ne (by decide), ?_, h.counted⟩
      rintro ⟨houtput, hstdout⟩
      exact hboth ⟨of_decide_eq_true hstdout, houtput⟩
  | inspect =>
    cases hc
    exact ⟨h.isNamed_source, h.counted⟩
  | init =>
    cases hc
    trivial

/-- Whatever words give a command, it is one that can be spelled. -/
theorem isSpellable_of_parse {ws : List String} {c : Command} (h : parse ws = .ok c) : IsSpellable c := by
  unfold parse at h
  split at h
  · cases h
  · split at h
    · cases h
    · cases h
    · cases h
    · split at h
      · obtain ⟨p, hp, hc⟩ := exists_of_bind_eq_ok h
        exact isSpellable_of_command (Progress.IsSound.empty.words hp) hc
      · cases h

end DecoderBench.CommandLine
