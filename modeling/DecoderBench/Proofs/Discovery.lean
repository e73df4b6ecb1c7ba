/-
Which settings a search finds. It goes through the directories at and above its start
and takes the first settings file that is of use (`discovered_eq`). That is the nearest
file, or nothing, unless the nearest file cannot be used: then a file above it counts
(`discovered_eq_nearest_iff`).
-/
import DecoderBench.Proofs.Session

namespace DecoderBench

/-! ## Texts that are no documents -/

theorem Toml.scanLine_nul (cs : List Char) : scanLine ('\x00' :: cs) = none := by
  have hfinish : finishLine? ('\x00' :: cs) = none := rfl
  have hassignment : scanAssignment ('\x00' :: cs) = none := rfl
  have hdrop : ('\x00' :: cs).dropWhile isBlank = '\x00' :: cs := rfl
  rw [scanLine, hfinish, hdrop]
  simp only [hassignment]

theorem Toml.parse_of_nul {text : String} {cs : List Char} (h : text.toList = '\x00' :: cs) : parse text = none := by
  rw [parse, h]
  change scanLines ('\x00' :: cs) = none
  rw [scanLines]
  split
  · rfl
  · rename_i s hs
    rw [scanLine_nul] at hs
    cases hs

theorem Utf8.decode_nil : decode [] = .ok "" := by
  rw [decode, items]
  rfl

theorem Utf8.toList_of_decode_zero {bytes : List UInt8} {text : String} (h : decode (0 :: bytes) = .ok text) :
    ∃ cs, text.toList = '\x00' :: cs := by
  rw [decode, items] at h
  have hnext : next 0 bytes = (.char '\x00', bytes) := rfl
  rw [hnext] at h
  simp only [gather] at h
  cases hrest : gather (0 + Char.utf8Size '\x00') (items bytes) with
  | error f =>
    rw [hrest] at h
    cases h
  | ok cs =>
    rw [hrest] at h
    cases h
    exact ⟨cs, by simp⟩

namespace Settings

theorem parse_empty : parse "" = .ok none := by
  have htoml : Toml.parse "" = some [] := by
    rw [Toml.parse, String.toList_empty]
    change Toml.scanLines [] = _
    rw [Toml.scanLines]
  have hnone : ofAssignments? [] = some none := rfl
  have hproblems : none.problems = [] := by decide
  rw [parse, htoml, Option.bind_some, hnone]
  simp only [hproblems]

theorem parse_of_nul {text : String} {cs : List Char} (h : text.toList = '\x00' :: cs) :
    parse text = .error .unreadable := by
  rw [parse, Toml.parse_of_nul h]
  rfl

end Settings

namespace Workspace

variable {w : Workspace}

/-! ## What is no file -/

/-- Where no file is, there is nothing to read, or there are zeros. -/
theorem read_cases_of_not_file {p : Path} {bytes : List UInt8} (hkind : w.kind? p ≠ some .file)
    (h : w.read p = .ok bytes) : bytes = [] ∨ ∃ rest, bytes = 0 :: rest := by
  rw [kind?, find?] at hkind
  rw [read] at h
  cases hl : w.locate p with
  | error e =>
    rw [hl] at h
    cases h
  | ok l =>
    rw [hl] at h hkind
    simp only [bind, Except.bind] at h hkind
    cases he : w.get? l with
    | none =>
      rw [he] at h
      cases h
    | some e =>
      rw [he] at h hkind
      cases e with
      | directory => cases h
      | file | program => exact absurd rfl hkind
      | link path =>
        cases h
        exact .inl rfl
      | device d =>
        cases h
        obtain ⟨n, hn⟩ : ∃ n, mostZeros = n + 1 := ⟨1048575, rfl⟩
        cases d with
        | null => exact .inl rfl
        | zeros | full =>
          refine .inr ⟨List.replicate n 0, ?_⟩
          change List.replicate mostZeros 0 = _
          rw [hn, List.replicate_succ]

/-- What is no file gives no settings of its own, though it may be read as if it were an
empty file. -/
theorem eq_none_of_settings?_of_not_file {p : Path} {s : Settings} (hkind : w.kind? p ≠ some .file)
    (h : w.settings? p = some s) : s = .none := by
  obtain ⟨text, htext, hparse⟩ := settings?_eq_some_iff.1 h
  obtain ⟨bytes, hread, hdecode⟩ := text_eq_ok_iff.1 htext
  rcases read_cases_of_not_file hkind hread with rfl | ⟨rest, rfl⟩
  · obtain rfl : "" = text := Except.ok.inj (Utf8.decode_nil.symm.trans hdecode)
    rw [Settings.parse_empty] at hparse
    exact (Except.ok.inj hparse).symm
  · obtain ⟨cs, hcs⟩ := Utf8.toList_of_decode_zero hdecode
    rw [Settings.parse_of_nul hcs] at hparse
    cases hparse

/-! ## The nearest file -/

/-- The first of the paths that leads to a file. -/
def nearest? (w : Workspace) (files : List Path) : Option Path := files.find? fun f => w.kind? f == some .file

/-- The first of the paths that leads to a file is `file`: what comes `before` it does
not, and the others are `above` it. -/
structure IsNearest (w : Workspace) (files before : List Path) (file : Path) (above : List Path) : Prop where
  split : files = before ++ file :: above
  isFile : w.kind? file = some .file
  first : ∀ g ∈ before, w.kind? g ≠ some .file

variable {files before above : List Path} {file : Path}

theorem nearest?_eq_some_iff : w.nearest? files = some file ↔ ∃ before above, w.IsNearest files before file above := by
  rw [nearest?, List.find?_eq_some_iff_append]
  constructor
  · rintro ⟨hfile, before, above, hsplit, hfirst⟩
    exact ⟨before, above, hsplit, by simpa using hfile, fun g hg => by simpa using hfirst g hg⟩
  · rintro ⟨before, above, hsplit, hfile, hfirst⟩
    exact ⟨by simpa using hfile, before, above, hsplit, fun g hg => by simpa using hfirst g hg⟩

/-- The settings of the first path that gives any, or else none. -/
def firstSettings (w : Workspace) (files : List Path) : Settings := (files.findSome? w.settings?).getD .none

theorem firstSettings_of_not_files (h : ∀ f ∈ files, w.kind? f ≠ some .file) : w.firstSettings files = .none := by
  rw [firstSettings]
  cases hs : files.findSome? w.settings? with
  | none => rfl
  | some s =>
    obtain ⟨f, hf, hfs⟩ := List.exists_of_findSome?_eq_some hs
    exact eq_none_of_settings?_of_not_file (h f hf) hfs

namespace IsNearest

variable (h : w.IsNearest files before file above)
include h

/-- Where nothing before the nearest file can be read, that file decides, or what is
above it if it cannot be used. -/
theorem firstSettings_of_unreadable (hbefore : ∀ g ∈ before, w.settings? g = none) :
    w.firstSettings files = ((w.settings? file).or (above.findSome? w.settings?)).getD .none := by
  rw [firstSettings, h.split, List.findSome?_append, List.findSome?_eq_none_iff.2 hbefore, Option.none_or,
    List.findSome?_cons]
  cases w.settings? file <;> rfl

/-- What is no file, but can be read, hides the nearest file. -/
theorem firstSettings_of_readable {g : Path} (hg : g ∈ before) (hsome : w.settings? g ≠ none) :
    w.firstSettings files = .none := by
  have hfront : w.firstSettings before = .none := firstSettings_of_not_files h.first
  rw [firstSettings, h.split, List.findSome?_append]
  rw [firstSettings] at hfront
  cases hs : before.findSome? w.settings? with
  | none => exact absurd (List.findSome?_eq_none_iff.1 hs g hg) hsome
  | some s => rwa [hs] at hfront

/-- When the nearest file decides. -/
theorem firstSettings_eq_iff :
    w.firstSettings files = (w.settings? file).getD .none ↔
      (∀ s, w.settings? file = some s → s = .none ∨ ∀ g ∈ before, w.settings? g = none) ∧
      (w.settings? file = none →
        (∃ g ∈ before, w.settings? g ≠ none) ∨ ∀ s, above.findSome? w.settings? = some s → s = .none) := by
  by_cases hbefore : ∀ g ∈ before, w.settings? g = none
  · rw [h.firstSettings_of_unreadable hbefore]
    cases hfile : w.settings? file with
    | some s => exact ⟨fun _ => ⟨fun _ _ => .inr hbefore, nofun⟩, fun _ => rfl⟩
    | none =>
      have hnone : ¬ ∃ g ∈ before, w.settings? g ≠ none := by simpa using hbefore
      cases above.findSome? w.settings? <;> simp [hnone]
  · obtain ⟨g, hg, hsome⟩ : ∃ g ∈ before, w.settings? g ≠ none := by simpa using hbefore
    rw [h.firstSettings_of_readable hg hsome]
    cases hfile : w.settings? file with
    | some s =>
      constructor
      · rintro rfl
        exact ⟨fun t ht => .inl (Option.some.inj ht).symm, nofun⟩
      · rintro ⟨hsame, -⟩
        rcases hsame s rfl with rfl | hall
        · rfl
        · exact absurd (hall g hg) hsome
    | none => exact ⟨fun _ => ⟨nofun, fun _ => .inl ⟨g, hg, hsome⟩⟩, fun _ => rfl⟩

end IsNearest

/-! ## Searching -/

/-- The settings that a search from `start` finds. -/
def discovered (w : Workspace) (start : Path) : Settings :=
  (Settings.discover (m := Session.M) start { workspace := w }).1

theorem discovered_eq (w : Workspace) (start : Path) :
    w.discovered start = w.firstSettings (Settings.candidates start) := by
  rw [discovered, Settings.discover, Session.firstUsable_apply rfl]
  rfl

/-- **When only the nearest file counts.** A search takes the first settings of use among
the files of the first ten directories at and above its start, or the defaults. These
are the settings of the nearest file, or the defaults if it cannot be used, exactly if
two things do not happen: the nearest file gives settings other than the defaults, but
before it stands something else that can be read, such as a null device; or the nearest
file cannot be used, nor can anything before it, and a file above it gives settings
other than the defaults. -/
theorem discovered_eq_nearest_iff (w : Workspace) (start : Path) :
    let files := (start.ancestors 10).map fun d => d.join ⟨".debug-decoders.toml"⟩
    w.discovered start = (files.findSome? w.settings?).getD .none ∧
    (w.discovered start = ((w.nearest? files).bind w.settings?).getD .none ↔
      ∀ before file above, w.IsNearest files before file above →
        (∀ s, w.settings? file = some s → s = .none ∨ ∀ g ∈ before, w.settings? g = none) ∧
        (w.settings? file = none →
          (∃ g ∈ before, w.settings? g ≠ none) ∨ ∀ s, above.findSome? w.settings? = some s → s = .none)) := by
  intro files
  have hfirst : w.discovered start = w.firstSettings files := discovered_eq w start
  refine ⟨hfirst, ?_⟩
  rw [hfirst]
  constructor
  · intro heq before file above hnearest
    rw [nearest?_eq_some_iff.2 ⟨before, above, hnearest⟩] at heq
    exact hnearest.firstSettings_eq_iff.1 heq
  · intro hall
    cases hfile : w.nearest? files with
    | none =>
      refine firstSettings_of_not_files fun f hf => ?_
      simpa using List.find?_eq_none.1 hfile f hf
    | some file =>
      obtain ⟨before, above, hnearest⟩ := nearest?_eq_some_iff.1 hfile
      exact hnearest.firstSettings_eq_iff.2 (hall before file above hnearest)

/-- A project whose own settings cannot be used, below a directory with settings. -/
def shadowedWorkspace : Workspace where
  entries := [(["work"], .directory),
    (["work", ".debug-decoders.toml"], .file 0 (Utf8.encode "module_name = \"Outer\"\n") .usual),
    (["work", "app"], .directory),
    (["work", "app", ".debug-decoders.toml"], .file 1 (Utf8.encode "module_name = \"lower\"\n") .usual)]
  directory := ["work"]

/-- The nearest file is passed over if it cannot be used, and the file above it counts. -/
theorem discovered_passes_over :
    let files := (Path.ancestors 10 ⟨"app"⟩).map fun d => d.join ⟨".debug-decoders.toml"⟩
    shadowedWorkspace.nearest? files = some ⟨"app/.debug-decoders.toml"⟩ ∧
      (((shadowedWorkspace.nearest? files).bind shadowedWorkspace.settings?).getD .none).value .moduleName =
        "DebugDecoders" ∧
      (shadowedWorkspace.discovered ⟨"app"⟩).value .moduleName = "Outer" := by
  decide +kernel

end Workspace
end DecoderBench
