/-
The numbers behind constructors. Of the decoders that ask for one name, those of the first
type get the name itself, those of the second type the name with 2 behind it, and so on
(`constructors_numbered`). Names of different bases never meet, because a base does not end
in a digit, so that a number can be taken off again (`numbered_inj`); so what one base
gives out does not depend on the decoders that ask for another.

`IsNumbered` says this of a table and the pairings it was made from, `IsNumbered.add` that
one pairing more keeps it.
-/
import DecoderBench.Proofs.DecoderTable
import DecoderBench.Proofs.Spacing
import Mathlib.Data.List.DropRight

namespace DecoderBench

namespace Identifier

/-! ## Bases and numbers -/

/-- The `n`th of the names made from `base`: `base` itself, and after it `base` with the
number behind it. -/
def numbered (base : String) (n : Nat) : String := if n = 1 then base else base ++ toString n

/-- A name without the digits at its end. -/
def stem (name : String) : String := String.ofList (name.toList.rdropWhile Char.isDigit)

theorem stem_append_toString (base : String) (n : Nat) : stem (base ++ toString n) = stem base := by
  unfold stem List.rdropWhile
  rw [String.toList_append, List.reverse_append, List.dropWhile_append_of_pos]
  intro c hc
  exact isDigit_of_mem_toString (List.mem_reverse.1 hc)

theorem stem_numbered (base : String) (n : Nat) : stem (numbered base n) = stem base := by
  unfold numbered
  split
  · rfl
  · exact stem_append_toString base n

theorem stem_payloadName (s : Signature) : stem s.payloadName = s.payloadName := by
  simp [stem, Signature.payloadName, List.rdropWhile]

theorem append_toString_ne (base : String) (n : Nat) : base ++ toString n ≠ base := by
  intro h
  have hlength := congrArg (fun s => s.toList.length) h
  have hpos : 0 < (toString n).toList.length := by
    rw [toList_toString]
    exact Nat.length_toDigits_pos
  simp only [String.toList_append, List.length_append] at hlength
  omega

theorem numbered_injective (base : String) : Function.Injective (numbered base) := by
  intro m n h
  unfold numbered at h
  split at h <;> split at h
  · omega
  · exact absurd h.symm (append_toString_ne base n)
  · exact absurd h (append_toString_ne base m)
  · exact append_toString_inj h

/-- Names made from bases that do not end in a digit are of one base and one number. -/
theorem numbered_inj {b c : String} (hb : stem b = b) (hc : stem c = c) {m n : Nat}
    (h : numbered b m = numbered c n) : b = c ∧ m = n := by
  have hbase : b = c := by rw [← hb, ← hc, ← stem_numbered b m, ← stem_numbered c n, h]
  subst hbase
  exact ⟨rfl, numbered_injective b h⟩

/-- Where the first `m` of the names of a base are taken and no more, the next one is
given out. -/
theorem fresh_eq_numbered {base : String} {taken : List String} {m : Nat}
    (h : ∀ n, 1 ≤ n → (numbered base n ∈ taken ↔ n ≤ m)) : fresh base taken = numbered base (m + 1) := by
  have hbase : base ∈ taken ↔ 1 ≤ m := h 1 le_rfl
  have hnumber (n : Nat) (hn : 2 ≤ n) : base ++ toString n ∈ taken ↔ n ≤ m := by
    have := h n (by omega)
    rwa [numbered, if_neg (by omega)] at this
  unfold fresh
  by_cases hm : 1 ≤ m
  · have hfree : freeNumber base taken 2 = m + 1 := by
      refine freeNumber_eq (by omega) ?_ fun j hj hlt => (hnumber j hj).2 (by omega)
      rw [hnumber _ (by omega)]
      omega
    rw [if_pos (hbase.2 hm), hfree, numbered, if_neg (by omega)]
  · rw [if_neg (mt hbase.1 hm), numbered, if_pos (by omega)]

end Identifier

/-! ## Types that ask for one name -/

/-- Decoders of one type ask for one name. -/
theorem Pairing.payloadName_congr {p q : Pairing} (h : p.key = q.key) :
    p.decoder.payloadName = q.decoder.payloadName := by
  rw [Signature.payloadName, Signature.payloadName, Identifier.ofType_congr (Lexical.tokens_payload_congr h)]

/-- The types of the decoders that ask for the name `base`, each once, in the order in which
they come up first. -/
def keysNamed (ps : List Pairing) (base : String) : List (List (List Char)) :=
  ((ps.filter fun p => p.decoder.payloadName == base).map Pairing.key).eraseDups

/-- Which of the types that ask for the name of `p` its type is, counted from one. -/
def Pairing.rank (ps : List Pairing) (p : Pairing) : Nat := (keysNamed ps p.decoder.payloadName).idxOf p.key + 1

theorem mem_keysNamed {ps : List Pairing} {p : Pairing} :
    p.key ∈ keysNamed ps p.decoder.payloadName ↔ p.key ∈ ps.map Pairing.key := by
  simp only [keysNamed, List.mem_eraseDups, List.mem_map, List.mem_filter, beq_iff_eq]
  constructor
  · rintro ⟨q, ⟨hq, -⟩, hkey⟩
    exact ⟨q, hq, hkey⟩
  · rintro ⟨q, hq, hkey⟩
    exact ⟨q, ⟨hq, Pairing.payloadName_congr hkey⟩, hkey⟩

theorem mem_map_key_of_mem_keysNamed {ps : List Pairing} {base : String} {k : List (List Char)}
    (h : k ∈ keysNamed ps base) : k ∈ ps.map Pairing.key := by
  rw [keysNamed, List.mem_eraseDups] at h
  exact List.map_subset _ (List.filter_subset_self _) h

/-- Decoders that ask for another name do not count. -/
theorem keysNamed_filter (ps : List Pairing) (base : String) :
    keysNamed (ps.filter fun p => p.decoder.payloadName == base) base = keysNamed ps base := by
  simp only [keysNamed, List.filter_filter, Bool.and_self]

theorem keysNamed_concat_other {p : Pairing} {base : String} (h : p.decoder.payloadName ≠ base) (ps : List Pairing) :
    keysNamed (ps ++ [p]) base = keysNamed ps base := by
  have hnone : [p].filter (fun p => p.decoder.payloadName == base) = [] := by simpa using h
  rw [keysNamed, List.filter_append, hnone, List.append_nil, keysNamed]

theorem keysNamed_concat_self (ps : List Pairing) (p : Pairing) :
    keysNamed (ps ++ [p]) p.decoder.payloadName =
      if p.key ∈ ps.map Pairing.key then keysNamed ps p.decoder.payloadName
      else keysNamed ps p.decoder.payloadName ++ [p.key] := by
  have hone : [p].filter (fun q => q.decoder.payloadName == p.decoder.payloadName) = [p] := by simp
  have hmem : p.key ∈ keysNamed ps p.decoder.payloadName ↔ p.key ∈ ps.map Pairing.key := mem_keysNamed
  unfold keysNamed at hmem ⊢
  rw [List.mem_eraseDups] at hmem
  rw [List.filter_append, hone, List.map_append, List.map_singleton, List.eraseDups_append]
  simp only [← hmem]
  split
  · rename_i hold
    simp [List.removeAll, hold]
  · rename_i hnew
    simp [List.removeAll, hnew, List.eraseDups_cons]

/-- There are no more types than pairings. -/
theorem length_keysNamed_le (ps : List Pairing) (base : String) : (keysNamed ps base).length ≤ ps.length := by
  induction ps using List.reverseRecOn with
  | nil => exact Nat.le_refl 0
  | append_singleton ps p ih =>
    rw [List.length_append, List.length_singleton]
    by_cases h : p.decoder.payloadName = base
    · subst h
      rw [keysNamed_concat_self]
      split
      · omega
      · rw [List.length_append, List.length_singleton]
        omega
    · rw [keysNamed_concat_other h]
      omega

namespace DecoderTable

variable {classifier : Classifier}

/-! ## One pairing -/

/-- The constructor that a table has for a type. -/
def constructor? (t : DecoderTable) (key : List (List Char)) : Option String := (t.cases.lookup key).map (·.name)

theorem constructor?_add_other {t : DecoderTable} {p : Pairing} {k : List (List Char)} (h : p.key ≠ k) :
    (t.add classifier p).constructor? k = t.constructor? k := by
  rw [constructor?, lookup_add_other h, constructor?]

theorem constructor?_add_self {t : DecoderTable} {p : Pairing} (h : t.cases.lookup p.key = none) :
    (t.add classifier p).constructor? p.key = some (newCase classifier t p).name := by
  rw [constructor?, add_of_none h, List.lookup_append, h, Option.none_or, List.lookup_cons_self, Option.map_some]

/-- The constructors of a table are numbered in the order of the pairings `ps`. -/
structure IsNumbered (ps : List Pairing) (t : DecoderTable) : Prop where
  /-- The types that ask for one name have the names made from it, in their order. -/
  names : ∀ base, (keysNamed ps base).map t.constructor? =
    (List.range' 1 (keysNamed ps base).length).map fun n => some (Identifier.numbered base n)
  /-- No other names of a base are taken. -/
  taken : ∀ base, Identifier.stem base = base → ∀ n, 1 ≤ n →
    (Identifier.numbered base n ∈ t.taken ↔ n ≤ (keysNamed ps base).length)

/-- A type that asks for a name gets the next one made from it. -/
theorem IsNumbered.name_newCase {ps : List Pairing} {t : DecoderTable} (h : IsNumbered ps t) (p : Pairing) :
    (newCase classifier t p).name =
      Identifier.numbered p.decoder.payloadName ((keysNamed ps p.decoder.payloadName).length + 1) :=
  Identifier.fresh_eq_numbered (h.taken _ (Identifier.stem_payloadName p.decoder))

theorem IsNumbered.names_add {ps : List Pairing} {t : DecoderTable} (h : IsNumbered ps t) {p : Pairing}
    (hp : t.cases.lookup p.key = none) (hnew : p.key ∉ ps.map Pairing.key) (base : String) :
    (keysNamed (ps ++ [p]) base).map (t.add classifier p).constructor? =
      (List.range' 1 (keysNamed (ps ++ [p]) base).length).map fun n => some (Identifier.numbered base n) := by
  have hold : (keysNamed ps base).map (t.add classifier p).constructor? =
      (List.range' 1 (keysNamed ps base).length).map fun n => some (Identifier.numbered base n) := by
    rw [← h.names base]
    refine List.map_congr_left fun k hk => constructor?_add_other fun heq => hnew ?_
    rw [heq]
    exact mem_map_key_of_mem_keysNamed hk
  by_cases hbase : p.decoder.payloadName = base
  · subst hbase
    rw [keysNamed_concat_self, if_neg hnew, List.map_append, List.map_singleton, hold, constructor?_add_self hp,
      h.name_newCase, List.length_append, List.length_singleton, List.range'_1_concat, List.map_append,
      List.map_singleton, Nat.add_comm 1]
  · rw [keysNamed_concat_other hbase, hold]

theorem IsNumbered.taken_add {ps : List Pairing} {t : DecoderTable} (h : IsNumbered ps t) {p : Pairing}
    (hp : t.cases.lookup p.key = none) (hnew : p.key ∉ ps.map Pairing.key) {base : String}
    (hstem : Identifier.stem base = base) {n : Nat} (hn : 1 ≤ n) :
    Identifier.numbered base n ∈ (t.add classifier p).taken ↔ n ≤ (keysNamed (ps ++ [p]) base).length := by
  rw [taken_add_of_none hp, List.mem_append, h.taken base hstem n hn, List.mem_singleton, h.name_newCase]
  by_cases hbase : p.decoder.payloadName = base
  · subst hbase
    have hnext : Identifier.numbered p.decoder.payloadName n =
        Identifier.numbered p.decoder.payloadName ((keysNamed ps p.decoder.payloadName).length + 1) ↔
        n = (keysNamed ps p.decoder.payloadName).length + 1 :=
      ⟨fun heq => (Identifier.numbered_inj hstem hstem heq).2, fun heq => by rw [heq]⟩
    rw [hnext, keysNamed_concat_self, if_neg hnew, List.length_append, List.length_singleton]
    omega
  · rw [keysNamed_concat_other hbase]
    refine ⟨fun hor => hor.resolve_right fun heq => hbase ?_, .inl⟩
    exact (Identifier.numbered_inj hstem (Identifier.stem_payloadName p.decoder) heq).1.symm

theorem IsNumbered.add {ps : List Pairing} {t : DecoderTable} (htells : Tells classifier ps t)
    (h : IsNumbered ps t) (p : Pairing) : IsNumbered (ps ++ [p]) (t.add classifier p) := by
  cases hp : t.cases.lookup p.key with
  | some d =>
    have hold := htells.mem_map_key_of_lookup hp
    have hkeys (base : String) : keysNamed (ps ++ [p]) base = keysNamed ps base := by
      by_cases hbase : p.decoder.payloadName = base
      · rw [← hbase, keysNamed_concat_self, if_pos hold]
      · exact keysNamed_concat_other hbase ps
    rw [add_of_some hp]
    refine ⟨fun base => ?_, fun base hstem n hn => ?_⟩
    · rw [hkeys]
      exact h.names base
    · rw [hkeys]
      exact h.taken base hstem n hn
  | none =>
    have hnew : p.key ∉ ps.map Pairing.key := htells.lookup_eq_none_iff.1 hp
    exact ⟨h.names_add hp hnew, fun base hstem n hn => h.taken_add hp hnew hstem hn⟩

/-! ## All pairings -/

theorem isNumbered_of (classifier : Classifier) (ps : List Pairing) : IsNumbered ps (of classifier ps) := by
  induction ps using List.reverseRecOn with
  | nil => exact ⟨fun _ => rfl, fun base _ n hn => by simp [of, taken, keysNamed]; omega⟩
  | append_singleton ps p ih =>
    rw [of_concat]
    exact ih.add (tells_of classifier ps) p

/-- The name of a type's constructor: the one that its decoders ask for, numbered by the
place of the type among those that ask for it. -/
theorem constructor?_of (classifier : Classifier) {ps : List Pairing} {p : Pairing} (h : p.key ∈ ps.map Pairing.key) :
    (of classifier ps).constructor? p.key = some (Identifier.numbered p.decoder.payloadName (p.rank ps)) := by
  have hmem := mem_keysNamed.2 h
  have hat := congrArg (fun l => l[(keysNamed ps p.decoder.payloadName).idxOf p.key]?)
    ((isNumbered_of classifier ps).names p.decoder.payloadName)
  simp only [List.getElem?_map, List.getElem?_idxOf hmem, List.getElem?_range' (List.idxOf_lt_length_iff.2 hmem),
    Option.map_some, Option.some.injEq] at hat
  rw [hat, Pairing.rank, Nat.one_mul, Nat.add_comm 1]

theorem rows_of (classifier : Classifier) (ps : List Pairing) : (of classifier ps).rows =
    ps.map fun p => rowOf p (Identifier.numbered p.decoder.payloadName (p.rank ps)) := by
  have htells := tells_of classifier ps
  rw [← List.map_id (of classifier ps).rows]
  refine (map_eq_map_of_forall₂ htells.rows ?_).symm
  rintro p r ⟨d, hd, rfl⟩
  have hname := constructor?_of classifier (htells.mem_map_key_of_lookup hd)
  rw [constructor?, hd, Option.map_some, Option.some.injEq] at hname
  rw [hname]
  rfl

/-- The pairings that ask for one name have the rows that they would have alone. -/
theorem rows_of_filter (classifier : Classifier) (ps : List Pairing) (base : String) :
    ((ps.zip (of classifier ps).rows).filter fun x => x.1.decoder.payloadName == base).map (·.2) =
      (of classifier (ps.filter fun p => p.decoder.payloadName == base)).rows := by
  have hzip (f : Pairing → DecoderRow) : ps.zip (ps.map f) = ps.map fun p => (p, f p) := by
    conv_lhs => rw [← List.map_id ps, List.map_map]
    exact List.zip_map'
  rw [rows_of, rows_of, hzip, List.filter_map, List.map_map]
  refine List.map_congr_left fun p hp => ?_
  have hbase : p.decoder.payloadName = base := by simpa using (List.mem_filter.1 hp).2
  subst hbase
  rw [Function.comp_apply, Pairing.rank, Pairing.rank, keysNamed_filter]

/-- **Constructors are numbered by rank.** Of the types whose decoders ask for one name,
each counted once and in the order of the pairings, the first has that name for its
constructor, the second the name with 2 behind it, and so on; and each pairing's row has
the constructor of its type. No number is higher than there are pairings. And what other
decoders ask for shifts no number: those that ask for one name have the rows that they
would have alone. -/
theorem constructors_numbered (classifier : Classifier) (ps : List Pairing) :
    let table := of classifier ps
    (∀ base, (keysNamed ps base).map table.constructor? =
      (List.range' 1 (keysNamed ps base).length).map fun n => some (Identifier.numbered base n)) ∧
    table.rows = ps.map (fun p => rowOf p (Identifier.numbered p.decoder.payloadName (p.rank ps))) ∧
    (∀ base, (keysNamed ps base).length ≤ ps.length) ∧
    ∀ base, ((ps.zip table.rows).filter fun x => x.1.decoder.payloadName == base).map (·.2) =
      (of classifier (ps.filter fun p => p.decoder.payloadName == base)).rows :=
  ⟨(isNumbered_of classifier ps).names, rows_of classifier ps, length_keysNamed_le ps, rows_of_filter classifier ps⟩

/-- A name that reads like a numbered one is another base, and takes no number away. -/
example :
    let pairings := ["D ( Int, String )", "D ( Int, String )Payload2", "D (Int, String)"].map fun type =>
      (⟨.nameless, ⟨"decode", type⟩, @Rendering.text .nameless⟩ : Pairing)
    (of (.lexical "D" "Html.Html") pairings).rows.map (·.constructor) =
      ["T_Int_String_Payload", "T_Int_String_Payload2Payload", "T_Int_String_Payload2"] := by
  decide +kernel

end DecoderTable
end DecoderBench
