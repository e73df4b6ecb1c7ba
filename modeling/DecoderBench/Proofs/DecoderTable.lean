/-
The table of cases and rows, pairing by pairing: `Tells` says what a table tells
of the pairings it was made from, `Tells.add` that one pairing more keeps this,
and `tells_of` that it holds of every table.
-/
import DecoderBench.Plan
import DecoderBench.Proofs.Identifier
import DecoderBench.Proofs.Lookup
import Mathlib.Data.List.Induction
import Mathlib.Data.List.Nodup

namespace DecoderBench

/-! ## Matched lists -/

section

variable {α β : Type} {R : α → β → Prop} {l : List α} {u : List β} (h : List.Forall₂ R l u)
include h

theorem map_eq_map_of_forall₂ {γ : Type} {f : α → γ} {g : β → γ} (hfg : ∀ a b, R a b → f a = g b) :
    l.map f = u.map g := by
  induction h with
  | nil => rfl
  | cons hab _ ih => rw [List.map_cons, List.map_cons, hfg _ _ hab, ih]

variable {P : α → Prop} {Q : β → Prop} (hPQ : ∀ a b, R a b → (P a ↔ Q b))
include hPQ

theorem forall_mem_iff_of_forall₂ : (∀ a ∈ l, P a) ↔ ∀ b ∈ u, Q b := by
  induction h with
  | nil => simp
  | cons hab _ ih => simp only [List.forall_mem_cons, hPQ _ _ hab, ih]

theorem exists_mem_iff_of_forall₂ : (∃ a ∈ l, P a) ↔ ∃ b ∈ u, Q b := by
  induction h with
  | nil => simp
  | cons hab _ ih => simp only [List.exists_mem_cons_iff, hPQ _ _ hab, ih]

end

/-! ## Keys and cases -/

/-- What pairings share a case by: the tokens of the decoder's type. -/
def Pairing.key (p : Pairing) : List (List Char) := Text.tokens p.decoder.type.toList

/-- `d` is the case made for `p`: it has the payload and the view of `p`, and is named
after the payload of `p`. -/
structure Pairing.MadeFor (classifier : Classifier) (p : Pairing) (d : DecodedCase) : Prop where
  name : ∃ taken, d.name = Identifier.fresh p.decoder.payloadName taken
  payload : d.payload = classifier.payload p.decoder
  view : d.view = p.rendering.reference

namespace DecoderTable

variable {classifier : Classifier}

/-! ## One pairing -/

theorem add_of_some {t : DecoderTable} {p : Pairing} {d : DecodedCase}
    (h : t.cases.lookup p.key = some d) :
    t.add classifier p = { t with rows := t.rows ++ [rowOf p d.name] } := by
  unfold Pairing.key at h
  simp only [add, h]

theorem add_of_none {t : DecoderTable} {p : Pairing} (h : t.cases.lookup p.key = none) :
    t.add classifier p =
      { cases := t.cases ++ [(p.key, newCase classifier t p)]
        rows := t.rows ++ [rowOf p (newCase classifier t p).name] } := by
  unfold Pairing.key at h ⊢
  simp only [add, h]

theorem taken_add_of_none {t : DecoderTable} {p : Pairing} (h : t.cases.lookup p.key = none) :
    (t.add classifier p).taken = t.taken ++ [(newCase classifier t p).name] := by
  rw [add_of_none h, taken, List.map_append, List.map_singleton, taken]

/-- A table that gets a case takes the fresh name for it and no other. -/
theorem taken_add (classifier : Classifier) (t : DecoderTable) (p : Pairing) :
    (t.add classifier p).taken =
      if (t.cases.lookup p.key).isSome then t.taken
      else t.taken ++ [Identifier.fresh p.decoder.payloadName t.taken] := by
  cases hp : t.cases.lookup p.key with
  | some d => rw [add_of_some hp]; rfl
  | none => rw [taken_add_of_none hp]; rfl

theorem madeFor_newCase (t : DecoderTable) (p : Pairing) :
    p.MadeFor classifier (newCase classifier t p) := ⟨⟨_, rfl⟩, rfl, rfl⟩

/-- A case once made stays the case of its type. -/
theorem lookup_add_of_some {t : DecoderTable} {p : Pairing} {k : List (List Char)} {d : DecodedCase}
    (h : t.cases.lookup k = some d) : (t.add classifier p).cases.lookup k = some d := by
  cases hp : t.cases.lookup p.key with
  | some e => rw [add_of_some hp, h]
  | none => rw [add_of_none hp, List.lookup_append, h, Option.some_or]

theorem lookup_add_self (classifier : Classifier) (t : DecoderTable) (p : Pairing) :
    ∃ d, (t.add classifier p).cases.lookup p.key = some d ∧
      (t.add classifier p).rows = t.rows ++ [rowOf p d.name] := by
  cases hp : t.cases.lookup p.key with
  | some d => exact ⟨d, by rw [lookup_add_of_some hp], by rw [add_of_some hp]⟩
  | none =>
    refine ⟨newCase classifier t p, ?_, by rw [add_of_none hp]⟩
    rw [add_of_none hp, List.lookup_append, hp, Option.none_or, List.lookup_cons_self]

theorem lookup_add_other {t : DecoderTable} {p : Pairing} {k : List (List Char)} (h : p.key ≠ k) :
    (t.add classifier p).cases.lookup k = t.cases.lookup k := by
  cases hp : t.cases.lookup p.key with
  | some d => rw [add_of_some hp]
  | none =>
    have hk : (k == p.key) = false := by simpa using Ne.symm h
    rw [add_of_none hp, List.lookup_append, List.lookup_cons, hk]
    simp

theorem nodup_keys_add {t : DecoderTable} (h : (t.cases.map (·.1)).Nodup) (p : Pairing) :
    ((t.add classifier p).cases.map (·.1)).Nodup := by
  cases hp : t.cases.lookup p.key with
  | some d => rwa [add_of_some hp]
  | none =>
    have hnew : p.key ∉ t.cases.map (·.1) := by
      intro hk
      obtain ⟨c, hc, hck⟩ := List.mem_map.1 hk
      exact absurd (List.lookup_eq_none_iff.1 hp c hc) (by simp [hck])
    rw [add_of_none hp, List.map_append, List.map_singleton, List.nodup_append_comm]
    exact h.cons hnew

theorem nodup_taken_add {t : DecoderTable} (h : t.taken.Nodup) (p : Pairing) :
    (t.add classifier p).taken.Nodup := by
  cases hp : t.cases.lookup p.key with
  | some d => rwa [add_of_some hp]
  | none =>
    rw [taken_add_of_none hp, List.nodup_append_comm]
    exact h.cons (Identifier.fresh_not_mem _ _)

/-- If the case of each type was made for the first decoder of the type, it still is. -/
theorem first_add {ps : List Pairing} {t : DecoderTable}
    (h : ∀ k, Option.Rel (·.MadeFor classifier ·) (ps.find? fun p => p.key == k) (t.cases.lookup k))
    (p : Pairing) (k : List (List Char)) :
    Option.Rel (·.MadeFor classifier ·) ((ps ++ [p]).find? fun p => p.key == k)
      ((t.add classifier p).cases.lookup k) := by
  have hk := h k
  rw [List.find?_append]
  by_cases hpk : p.key = k
  · subst hpk
    cases hd : t.cases.lookup p.key with
    | some d =>
      rw [lookup_add_of_some hd]
      rw [hd] at hk
      cases hq : ps.find? (fun q => q.key == p.key) with
      | some q => rwa [Option.some_or, ← hq]
      | none => rw [hq] at hk; cases hk
    | none =>
      rw [hd] at hk
      rw [add_of_none hd, List.lookup_append, hd, Option.none_or, List.lookup_cons_self]
      cases hq : ps.find? (fun q => q.key == p.key) with
      | some q => rw [hq] at hk; cases hk
      | none => simpa using Option.Rel.some (madeFor_newCase t p)
  · have hne : ([p].find? fun q => q.key == k) = none := by simpa using hpk
    rwa [lookup_add_other hpk, hne, Option.or_none]

/-! ## All pairings -/

/-- What a table tells of the pairings it was made from. -/
structure Tells (classifier : Classifier) (ps : List Pairing) (t : DecoderTable) : Prop where
  /-- The types with a case are those of the decoders, and the case of a type is made
  for the first decoder of that type. -/
  first : ∀ k, Option.Rel (·.MadeFor classifier ·) (ps.find? fun p => p.key == k) (t.cases.lookup k)
  /-- Each pairing has a row that names the case of its type. -/
  rows : List.Forall₂ (fun p r => ∃ d, t.cases.lookup p.key = some d ∧ r = rowOf p d.name) ps t.rows
  keys : (t.cases.map (·.1)).Nodup
  names : t.taken.Nodup

theorem Tells.add {ps : List Pairing} {t : DecoderTable} (h : Tells classifier ps t) (p : Pairing) :
    Tells classifier (ps ++ [p]) (t.add classifier p) where
  first := first_add h.first p
  rows := by
    obtain ⟨d, hd, hrows⟩ := lookup_add_self classifier t p
    rw [hrows]
    exact List.rel_append (h.rows.imp fun q r ⟨e, he, hr⟩ => ⟨e, lookup_add_of_some he, hr⟩)
      (.cons ⟨d, hd, rfl⟩ .nil)
  keys := nodup_keys_add h.keys p
  names := nodup_taken_add h.names p

theorem of_concat (ps : List Pairing) (p : Pairing) :
    of classifier (ps ++ [p]) = (of classifier ps).add classifier p := by
  simp [of]

theorem tells_of (classifier : Classifier) (ps : List Pairing) : Tells classifier ps (of classifier ps) := by
  induction ps using List.reverseRecOn with
  | nil => exact ⟨fun _ => .none, .nil, .nil, .nil⟩
  | append_singleton ps p ih =>
    rw [of_concat]
    exact ih.add p

namespace Tells

variable {ps : List Pairing} {t : DecoderTable}

/-- The types without a case are those of no decoder. -/
theorem lookup_eq_none_iff (h : Tells classifier ps t) {k : List (List Char)} :
    t.cases.lookup k = none ↔ k ∉ ps.map Pairing.key := by
  have hnone : ps.find? (fun p => p.key == k) = none ↔ k ∉ ps.map Pairing.key := by simp [List.find?_eq_none]
  have hk := h.first k
  rw [← hnone]
  cases hp : ps.find? (fun p => p.key == k) <;> cases hd : t.cases.lookup k <;> simp_all

theorem mem_map_key_of_lookup (h : Tells classifier ps t) {k : List (List Char)} {d : DecodedCase}
    (hd : t.cases.lookup k = some d) : k ∈ ps.map Pairing.key := by
  by_contra hnew
  rw [h.lookup_eq_none_iff.2 hnew] at hd
  cases hd

theorem lookup_of_mem (h : Tells classifier ps t) {k : List (List Char)} {d : DecodedCase}
    (hd : (k, d) ∈ t.cases) : t.cases.lookup k = some d := by
  cases he : t.cases.lookup k with
  | none => exact absurd (List.lookup_eq_none_iff.1 he _ hd) (by simp)
  | some e =>
    have := List.inj_on_of_nodup_map h.keys (mem_of_lookup he) hd rfl
    simp_all

/-- The pairing that a case was made for. -/
theorem exists_madeFor (h : Tells classifier ps t) {k : List (List Char)} {d : DecodedCase}
    (hd : t.cases.lookup k = some d) :
    ∃ p, ps.find? (fun p => p.key == k) = some p ∧ p.MadeFor classifier d := by
  have hk := h.first k
  rw [hd] at hk
  cases hp : ps.find? (fun p => p.key == k) with
  | none => rw [hp] at hk; cases hk
  | some p =>
    rw [hp] at hk
    cases hk with
    | some hmade => exact ⟨p, rfl, hmade⟩

/-- The cases of two types have two names. -/
theorem name_eq_iff (h : Tells classifier ps t) {k l : List (List Char)} {d e : DecodedCase}
    (hd : t.cases.lookup k = some d) (he : t.cases.lookup l = some e) : d.name = e.name ↔ k = l := by
  constructor
  · intro hname
    have hcase : (k, d) = (l, e) :=
      List.inj_on_of_nodup_map h.names (mem_of_lookup hd) (mem_of_lookup he) hname
    exact congrArg Prod.fst hcase
  · rintro rfl
    rw [hd, Option.some.injEq] at he
    rw [he]

/-- Rows name the constructors that were given out, and all of them. -/
theorem mem_constructors_iff (h : Tells classifier ps t) (n : String) :
    n ∈ t.rows.map (·.constructor) ↔ n ∈ t.taken := by
  have hrows : (∃ p ∈ ps, ∃ d, t.cases.lookup p.key = some d ∧ d.name = n) ↔ ∃ r ∈ t.rows, r.constructor = n := by
    refine exists_mem_iff_of_forall₂ h.rows ?_
    rintro p r ⟨d, hd, rfl⟩
    simp [hd, rowOf]
  rw [List.mem_map, ← hrows, taken, List.mem_map]
  constructor
  · rintro ⟨p, -, d, hd, rfl⟩
    exact ⟨_, mem_of_lookup hd, rfl⟩
  · rintro ⟨⟨k, d⟩, hmem, rfl⟩
    have hd := h.lookup_of_mem hmem
    obtain ⟨p, hp, -⟩ := h.exists_madeFor hd
    have hkey : p.key = k := by simpa using List.find?_some hp
    exact ⟨p, List.mem_of_find?_eq_some hp, d, by rw [hkey, hd], rfl⟩

end Tells

/-- What is read off the rows without their constructors is read off the pairings. -/
theorem map_rows_of {α : Type} {f : DecoderRow → α} {g : Pairing → α}
    (h : ∀ p constructor, f (rowOf p constructor) = g p) (classifier : Classifier) (ps : List Pairing) :
    (of classifier ps).rows.map f = ps.map g := by
  refine (map_eq_map_of_forall₂ (tells_of classifier ps).rows ?_).symm
  rintro p r ⟨d, -, rfl⟩
  exact (h p d.name).symm

end DecoderTable
end DecoderBench
