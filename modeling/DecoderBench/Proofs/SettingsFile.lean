/-
Settings files are read as they are written: a document that assigns the given values,
in any order of their keys, gives the settings back, or what is wrong with them
(`parse_assignments`).
-/
import DecoderBench.Failure
import DecoderBench.Proofs.Text.Tokens
import DecoderBench.Proofs.Toml
import Mathlib.Data.List.Nodup

namespace DecoderBench

/-! ## Values that fit -/

/-- What a value of a setting must be like. -/
def Setting.Fits (k : Setting) (value : String) : Prop :=
  match k with
  | .decoderType | .viewType => value ≠ "" ∧ ∀ c ∈ value.toList, Text.isBlank c = false
  | .moduleName => ∃ c t, value.toList = c :: t ∧ c.isUpper = true
  | .extractor | .manifest => ∃ c ∈ value.toList, Text.isBlank c = false

namespace Settings

theorem typeProblem?_eq_none_iff {k : Setting} {value : String} :
    typeProblem? k value = .none ↔ value ≠ "" ∧ ∀ c ∈ value.toList, Text.isBlank c = false := by
  rw [typeProblem?]
  by_cases hempty : value = ""
  · simp [hempty]
  · simp [hempty]

theorem nameProblem?_eq_none_iff {value : String} :
    nameProblem? value = .none ↔ ∃ c t, value.toList = c :: t ∧ c.isUpper = true := by
  rw [nameProblem?]
  cases value.toList with
  | nil => simp
  | cons c t => by_cases hc : c.isUpper = true <;> simp [hc]

theorem emptyProblem?_eq_none_iff {k : Setting} {value : String} :
    emptyProblem? k value = .none ↔ ∃ c ∈ value.toList, Text.isBlank c = false := by
  have htrim : (Text.trim value.toList).isEmpty = true ↔ ∀ c ∈ value.toList, Text.isBlank c = true := by
    rw [List.isEmpty_iff, Text.trim_eq_nil_iff]
  rw [emptyProblem?, ite_eq_right_iff, htrim]
  simp

/-- Nothing is wrong with a value exactly if it fits. -/
theorem problem?_eq_none_iff {k : Setting} {value : String} : problem? k value = .none ↔ k.Fits value := by
  cases k with
  | decoderType | viewType => exact typeProblem?_eq_none_iff
  | moduleName => exact nameProblem?_eq_none_iff
  | extractor | manifest => exact emptyProblem?_eq_none_iff

instance (k : Setting) (value : String) : Decidable (k.Fits value) := decidable_of_iff _ problem?_eq_none_iff

/-- The setting that a problem is about. -/
def Problem.setting : Problem → Setting
  | .empty k => k
  | .blank k _ => k
  | .start _ => .moduleName

theorem setting_of_problem? {k : Setting} {value : String} {p : Problem} (h : problem? k value = some p) :
    p.setting = k := by
  cases k with
  | decoderType | viewType =>
    simp only [problem?, typeProblem?] at h
    split at h
    · obtain rfl := Option.some.inj h
      rfl
    · split at h
      · obtain rfl := Option.some.inj h
        rfl
      · cases h
  | moduleName =>
    simp only [problem?, nameProblem?] at h
    split at h
    · split at h
      · cases h
      · obtain rfl := Option.some.inj h
        rfl
    · obtain rfl := Option.some.inj h
      rfl
  | extractor | manifest =>
    simp only [problem?, emptyProblem?] at h
    split at h
    · obtain rfl := Option.some.inj h
      rfl
    · cases h

theorem key_isPrefix_message (p : Problem) : p.setting.key.toList <+: p.message.toList := by
  have hmessage : ∃ rest, p.message = p.setting.key ++ rest := by
    cases p with
    | empty k => exact ⟨_, rfl⟩
    | blank k value => exact ⟨_, String.append_assoc ..⟩
    | start value => exact ⟨_, String.append_assoc ..⟩
  obtain ⟨rest, hrest⟩ := hmessage
  rw [hrest, String.toList_append]
  exact List.prefix_append _ _

/-- There is one problem for each value that does not fit, in the order of the settings. -/
theorem problems_forall₂ (s : Settings) :
    List.Forall₂ (fun k p => problem? k (s.value k) = some p) (Setting.all.filter fun k => ¬ k.Fits (s.value k))
      s.problems := by
  rw [problems]
  induction Setting.all with
  | nil => exact .nil
  | cons k ks ih =>
    rw [List.filterMap_cons]
    cases hp : problem? k (s.value k) with
    | none =>
      have hfits : k.Fits (s.value k) := problem?_eq_none_iff.1 hp
      rwa [List.filter_cons_of_neg (by simpa using hfits)]
    | some p =>
      have hfits : ¬ k.Fits (s.value k) := fun h => by simp [problem?_eq_none_iff.2 h] at hp
      rw [List.filter_cons_of_pos (by simpa using hfits)]
      exact .cons hp ih

end Settings

/-! ## Assignments of settings -/

namespace Setting

theorem isBareKey_key (k : Setting) : Toml.IsBareKey k.key := by
  cases k <;> exact ⟨by decide, List.all_eq_true.1 (by decide)⟩

theorem mem_all (k : Setting) : k ∈ all := by
  cases k <;> decide

theorem key_injective : Function.Injective key := by
  have hall : ∀ k ∈ all, ∀ k' ∈ all, k.key = k'.key → k = k' := by decide
  exact fun k k' => hall k k.mem_all k' k'.mem_all

theorem ofKey?_key (k : Setting) : ofKey? k.key = some k := by
  cases k <;> rfl

end Setting

namespace Settings

variable {s : Settings} {order : List Setting}

/-- The keys are those of the settings that are given. -/
theorem keys_assignments (s : Settings) (order : List Setting) :
    (s.assignments order).map (·.1) = (order.filter fun k => (s.given k).isSome).map Setting.key := by
  induction order with
  | nil => rfl
  | cons k order ih =>
    rw [assignments] at ih ⊢
    cases hk : s.given k <;> simp [hk, ih]

theorem exists_key_of_mem_assignments {a : Toml.Assignment} (h : a ∈ s.assignments order) :
    ∃ k : Setting, k.key = a.1 := by
  have hmem : a.1 ∈ (s.assignments order).map (·.1) := List.mem_map_of_mem h
  rw [keys_assignments] at hmem
  obtain ⟨k, -, hk⟩ := List.mem_map.1 hmem
  exact ⟨k, hk⟩

theorem lookup_assignments {k : Setting} (h : k ∈ order ∨ s.given k = .none) :
    (s.assignments order).lookup k.key = s.given k := by
  induction order with
  | nil => simpa [assignments, eq_comm] using h
  | cons k' order ih =>
    have hcons : s.assignments (k' :: order) =
        ((s.given k').map fun v => (k'.key, v)).toList ++ s.assignments order := by
      cases hk' : s.given k' <;> simp [assignments, hk']
    rw [hcons]
    by_cases hk : k = k'
    · subst hk
      cases hgiven : s.given k with
      | none => simpa [hgiven] using ih (.inr hgiven)
      | some v => simp
    · have hkey : (k.key == k'.key) = false := by simpa using Setting.key_injective.ne hk
      have hrest := ih (h.imp_left fun hmem => (List.mem_cons.1 hmem).resolve_left hk)
      cases s.given k' <;> simp [List.lookup_cons, hkey, hrest]

theorem ofAssignments?_assignments (h : order.Perm Setting.all) : ofAssignments? (s.assignments order) = some s := by
  have hnodup : ((s.assignments order).map (·.1)).Nodup := by
    rw [keys_assignments]
    have hall : Setting.all.Nodup := by decide
    exact List.Nodup.map Setting.key_injective ((h.nodup_iff.2 hall).filter _)
  have hknown : ∀ a ∈ s.assignments order, (Setting.ofKey? a.1).isSome := by
    intro a ha
    obtain ⟨k, hk⟩ := exists_key_of_mem_assignments ha
    rw [← hk, Setting.ofKey?_key]
    rfl
  have hgiven : (fun k : Setting => (s.assignments order).lookup k.key) = s.given :=
    funext fun k => lookup_assignments (.inl (h.mem_iff.2 k.mem_all))
  rw [ofAssignments?, if_pos, hgiven]
  simpa [hnodup] using hknown

/-- **Settings files are read as they are written.** A text with a line for each value that
is given, whatever the order of the keys and the escapes of the values, gives the settings
back if nothing is wrong with them. Otherwise it is refused, and the reason lists what is
wrong: one message for each value that does not fit, given or not, which names its key
first, in the order of the settings. -/
theorem parse_assignments (s : Settings) {order : List Setting} (horder : order.Perm Setting.all) {text : String}
    (htext : Toml.Writes (s.assignments order) text.toList) :
    ((parse text).mapError Failure.ofSettings =
      if s.problems = [] then .ok s
      else .error (.configuration ("; ".intercalate (s.problems.map Problem.message)))) ∧
    List.Forall₂ (fun k p => p.setting = k ∧ k.key.toList <+: p.message.toList)
      ([Setting.decoderType, .viewType, .moduleName, .extractor, .manifest].filter fun k => ¬ k.Fits (s.value k))
      s.problems := by
  constructor
  · have hkeys : ∀ a ∈ s.assignments order, Toml.IsBareKey a.1 := by
      intro a ha
      obtain ⟨k, hk⟩ := exists_key_of_mem_assignments ha
      exact hk ▸ k.isBareKey_key
    rw [parse, Toml.parse_of_writes htext hkeys, Option.bind_some, ofAssignments?_assignments horder]
    cases hproblems : s.problems with
    | nil =>
      rw [if_pos rfl]
      simp only [hproblems]
      rfl
    | cons p ps =>
      rw [if_neg (List.cons_ne_nil p ps)]
      simp only [hproblems]
      rfl
  · refine s.problems_forall₂.imp fun k p hp => ?_
    obtain rfl := setting_of_problem? hp
    exact ⟨rfl, key_isPrefix_message p⟩

/-- Settings that give two values that do not fit, one that does, and leave two out. -/
def mistakenSettings : Settings where
  given
    | .decoderType => some "Json\tDecoder"
    | .moduleName => some "\"debug\""
    | .manifest => some "\\elm.json\n"
    | _ => .none

theorem parse_assignments_mistakenSettings :
    let order := [Setting.manifest, .moduleName, .extractor, .decoderType, .viewType]
    order.Perm Setting.all ∧
    Toml.Writes (mistakenSettings.assignments order) (Toml.write (mistakenSettings.assignments order)).toList ∧
    Toml.write (mistakenSettings.assignments order) =
      "manifest = \"\\\\elm.json\\u000a\"\nmodule_name = \"\\\"debug\\\"\"\ndecoder_type = \"Json\\u0009Decoder\"\n" ∧
    ((parse (Toml.write (mistakenSettings.assignments order))).mapError Failure.ofSettings =
      .error (.configuration ("decoder_type must not contain whitespace, got \"Json\\tDecoder\"; " ++
        "module_name must start with an uppercase ASCII letter, got \"\\\"debug\\\"\""))) := by
  intro order
  have horder : order.Perm Setting.all := by decide
  have hwrites := Toml.writes_write (mistakenSettings.assignments order)
  have hmessages : "; ".intercalate (mistakenSettings.problems.map Problem.message) =
      "decoder_type must not contain whitespace, got \"Json\\tDecoder\"; " ++
        "module_name must start with an uppercase ASCII letter, got \"\\\"debug\\\"\"" := by
    decide
  have hproblems : mistakenSettings.problems ≠ [] := by decide
  have hparse := (parse_assignments mistakenSettings horder hwrites).1
  rw [if_neg hproblems, hmessages] at hparse
  exact ⟨horder, hwrites, by decide, hparse⟩

end Settings
end DecoderBench
