/-
The keys of the generated tables. Where names have no dots, the last dot of a reference
parts a module's name from the name of its value (`Module.reference_eq_iff`), so decoders
of different modules or names have different references. Each of them is a key of the
table of decoders and of the table that names their views, as these are read back from
the generated source, and a dictionary made from such a table has an entry for every
decoder (`decoder_keys_distinct`). A decoder that breaks out of its row may bring a key a
second time (`key_of_decoder_repeated`).
-/
import DecoderBench.Proofs.Branches

namespace DecoderBench

/-! ## References -/

/-- What stands behind the last dot of two texts, if nothing there has a dot, can be told
from what stands in front of it. -/
theorem append_dot_inj {m n a b : List Char} (ha : '.' ∉ a) (hb : '.' ∉ b) (h : m ++ '.' :: a = n ++ '.' :: b) :
    m = n ∧ a = b := by
  rcases List.append_eq_append_iff.1 h with ⟨l, hn, hl⟩ | ⟨l, hm, hl⟩
  · cases l with
    | nil => simp_all
    | cons c l =>
      obtain ⟨-, rfl⟩ := List.cons.inj hl
      simp at ha
  · cases l with
    | nil => simp_all
    | cons c l =>
      obtain ⟨-, rfl⟩ := List.cons.inj hl
      simp at hb

namespace Module

/-- References of names without dots are those of one module and one name, also where the
module's name has dots, or where there is none. -/
theorem reference_eq_iff {m n : Module} {a b : String} (ha : '.' ∉ a.toList) (hb : '.' ∉ b.toList) :
    m.reference a = n.reference b ↔ m.name = n.name ∧ a = b := by
  constructor
  · intro h
    have hlist := congrArg String.toList h
    by_cases hm : m.name = "" <;> by_cases hn : n.name = ""
    · rw [reference_of_nameless hm, reference_of_nameless hn] at h
      exact ⟨hm.trans hn.symm, h⟩
    · rw [reference_of_nameless hm, toList_reference hn] at hlist
      simp [hlist] at ha
    · rw [toList_reference hm, reference_of_nameless hn] at hlist
      simp [← hlist] at hb
    · rw [toList_reference hm, toList_reference hn] at hlist
      obtain ⟨hname, hab⟩ := append_dot_inj ha hb hlist
      exact ⟨String.toList_inj.1 hname, String.toList_inj.1 hab⟩
  · rintro ⟨hname, rfl⟩
    rw [reference, reference, isNameless, isNameless, hname]

end Module

namespace Program

/-- A dictionary of rows with one key for each decoder has all these keys, if no two
decoders have one reference. -/
theorem keys_dictionary {plan : Plan} (h : (plan.decoderRows.map (·.reference)).Nodup) (value : DecoderRow → String) :
    (Elm.dictionary (plan.decoderRows.map fun r => (r.reference, value r))).map (·.1) =
      plan.decoderRows.map (·.reference) := by
  have hkeys : (plan.decoderRows.map fun r => (r.reference, value r)).map (·.1) =
      plan.decoderRows.map (·.reference) := by
    rw [List.map_map]
    rfl
  rw [Elm.dictionary_of_nodup (by rwa [hkeys]), hkeys]

end Program

namespace PairedProgram

section

variable {classifier : Classifier} {modules : List Module}

theorem nodup_references_rows
    (hdots : ∀ s ∈ (ownedSignatures modules).filter fun s => classifier.isDecoder s.2, '.' ∉ s.2.name.toList)
    (hdistinct : (((ownedSignatures modules).filter fun s => classifier.isDecoder s.2).map
      fun s => (s.1.name, s.2.name)).Nodup) :
    (((of classifier modules).plan classifier).decoderRows.map (·.reference)).Nodup := by
  rw [references_rows_plan]
  refine List.pairwise_map.2 ((List.pairwise_map.1 hdistinct).imp_of_mem fun {s t} hs ht hne heq => hne ?_)
  obtain ⟨hname, hsame⟩ := (Module.reference_eq_iff (hdots s hs) (hdots t ht)).1 heq
  rw [hname, hsame]

end

/-- **No decoder is lost in the tables.** A reference to a name without dots belongs to one
module's name and one name. So, for decoders whose names have no dots and no two of which
have one module's name and one name, the keys of the two tables are different literals,
and the dictionaries that are made from the rows, as they are read back from the generated
source, have one entry for each decoder. A decoder must not break out of its row, where
it is written as it is. -/
theorem decoder_keys_distinct (classifier : Classifier) (modules : List Module) (name : String) :
    (∀ (m n : Module) (a b : String), '.' ∉ a.toList → '.' ∉ b.toList →
      m.reference a = n.reference b → m.name = n.name ∧ a = b) ∧
    let decoders := (ownedSignatures modules).filter fun s => classifier.isDecoder s.2
    let plan := (of classifier modules).plan classifier
    let source := ((of classifier modules).generate classifier name).source
    (∀ t ∈ [Program.decoderTable plan, Program.pairedViews plan], t.toList <:+: source.toList) ∧
    ((∀ s ∈ decoders, '.' ∉ s.2.name.toList) → (decoders.map fun s => (s.1.name, s.2.name)).Nodup →
      (plan.decoderRows.map fun r => Elm.literal r.reference).Nodup ∧
      (∃ rows, Elm.rows? (Program.pairedViews plan) = some rows ∧ (rows.map (·.1)).Nodup ∧
        (Elm.dictionary rows).map (·.1) = decoders.map (fun s => s.1.reference s.2.name)) ∧
      ((∀ s ∈ decoders, Elm.isBalanced (s.1.reference s.2.name) = true) →
        ∃ rows, Elm.rows? (Program.decoderTable plan) = some rows ∧ (rows.map (·.1)).Nodup ∧
          (Elm.dictionary rows).map (·.1) = decoders.map (fun s => s.1.reference s.2.name))) := by
  refine ⟨fun m n a b ha hb => (Module.reference_eq_iff ha hb).1, ?_⟩
  intro decoders plan source
  have hsections : [Program.decoderTable plan, Program.pairedViews plan] ⊆ Program.sections plan name := by
    simp [Program.sections]
  refine ⟨fun t ht => infix_generate classifier modules (hsections ht), fun hdots hdistinct => ?_⟩
  have hreferences : plan.decoderRows.map (·.reference) = decoders.map fun s => s.1.reference s.2.name :=
    references_rows_plan classifier modules
  have hkeys : (plan.decoderRows.map (·.reference)).Nodup := nodup_references_rows hdots hdistinct
  have hrows (value : DecoderRow → String) :
      ((plan.decoderRows.map fun r => (r.reference, value r)).map (·.1)).Nodup ∧
        (Elm.dictionary (plan.decoderRows.map fun r => (r.reference, value r))).map (·.1) =
          decoders.map (fun s => s.1.reference s.2.name) := by
    rw [List.map_map]
    exact ⟨hkeys, (Program.keys_dictionary hkeys value).trans hreferences⟩
  refine ⟨?_, ⟨_, Program.rows?_pairedViews plan, hrows _⟩,
    fun hbalanced => ⟨_, Program.rows?_decoderTable ?_, hrows _⟩⟩
  · have hliterals := hkeys.map Elm.literal_injective
    rwa [List.map_map] at hliterals
  · exact forall_mem_rows_plan (P := fun reference => Elm.isBalanced reference = true) hbalanced

/-- Decoders of one name in a module whose name has a dot, in one that is called like the
first piece of that name, and in one without a name. -/
def dottedModules : List Module :=
  [⟨"A.B", [⟨"c", "Json.Decode.Decoder Int"⟩, ⟨"say \"d\"", "Json.Decode.Decoder Bool"⟩]⟩,
    ⟨"A", [⟨"c", "Json.Decode.Decoder Int"⟩]⟩, ⟨"", [⟨"c", "Json.Decode.Decoder Int"⟩]⟩]

theorem decoder_keys_distinct_dottedModules :
    let classifier := Settings.none.classifier
    let decoders := (ownedSignatures dottedModules).filter fun s => classifier.isDecoder s.2
    let plan := (of classifier dottedModules).plan classifier
    (∀ s ∈ decoders, '.' ∉ s.2.name.toList) ∧ (decoders.map fun s => (s.1.name, s.2.name)).Nodup ∧
      (∀ s ∈ decoders, Elm.isBalanced (s.1.reference s.2.name) = true) ∧
      (plan.decoderRows.map fun r => Elm.literal r.reference).Nodup ∧
      ∃ rows, Elm.rows? (Program.decoderTable plan) = some rows ∧
        (Elm.dictionary rows).map (·.1) = ["A.B.c", "A.B.say \"d\"", "A.c", "c"] := by
  intro classifier decoders plan
  have hdots : ∀ s ∈ decoders, '.' ∉ s.2.name.toList := by decide
  have hdistinct : (decoders.map fun s => (s.1.name, s.2.name)).Nodup := by decide
  have hbalanced : ∀ s ∈ decoders, Elm.isBalanced (s.1.reference s.2.name) = true := by decide
  obtain ⟨hliterals, -, htable⟩ := (decoder_keys_distinct classifier dottedModules "Main").2.2 hdots hdistinct
  obtain ⟨rows, hrows, -, hkeys⟩ := htable hbalanced
  exact ⟨hdots, hdistinct, hbalanced, hliterals, rows, hrows, hkeys.trans (by decide)⟩

/-- A decoder whose name goes on with a row for the key of another decoder. -/
def escapingModules : List Module :=
  [⟨"", [⟨"foo", "Json.Decode.Decoder Int"⟩, ⟨"bar ), ( \"foo\", other", "Json.Decode.Decoder Int"⟩]⟩]

theorem key_of_decoder_repeated :
    let classifier := Settings.none.classifier
    let decoders := (ownedSignatures escapingModules).filter fun s => classifier.isDecoder s.2
    let plan := (of classifier escapingModules).plan classifier
    (∀ s ∈ decoders, '.' ∉ s.2.name.toList) ∧ (decoders.map fun s => (s.1.name, s.2.name)).Nodup ∧
      (Elm.rows? (Program.decoderTable plan)).map (·.map (·.1)) =
        some ["foo", "bar ), ( \"foo\", other", "foo"] := by
  intro classifier decoders plan
  have hrows : plan.decoderRows = [⟨"foo", "IntPayload", "viewAsText"⟩,
      ⟨"bar ), ( \"foo\", other", "IntPayload", "viewAsText"⟩] := by
    decide +kernel
  refine ⟨by decide +kernel, by decide +kernel, ?_⟩
  rw [Elm.rows?, Program.decoderTable, hrows]
  simp only [Elm.lines, Elm.list, Elm.marked, Elm.tuple, List.map_cons, List.map_nil, List.cons_append,
    List.nil_append, String.intercalate_singleton, String.intercalate_cons_cons, String.toList_append]
  decide +kernel

/-- A name with a dot may take the key of another decoder. -/
example : (⟨"A.B", []⟩ : Module).reference "c" = (⟨"A", []⟩ : Module).reference "B.c" := by decide

end PairedProgram
end DecoderBench
