/-
Going up from a path: its parent has all of its steps but the last
(`components_parent?`), so whatever is above a path is the way to it, cut short
(`IsAbove`). The walk from a path upwards drops one step at a time until nothing is left
but the root directory, or nothing at all (`ancestors_drop_steps`).
-/
import DecoderBench.Proofs.Path
import DecoderBench.Proofs.Text.Tokens

namespace DecoderBench.Path

/-! ## The first parts of a text -/

theorem unparts_cons (p : List Char) {ps : List (List Char)} (h : ps ≠ []) :
    unparts (p :: ps) = p ++ '/' :: unparts ps := by
  rw [unparts, List.intercalate_cons_of_ne_nil h, List.append_assoc]
  rfl

theorem unparts_append {ps qs : List (List Char)} (hps : ps ≠ []) (hqs : qs ≠ []) :
    unparts (ps ++ qs) = unparts ps ++ '/' :: unparts qs := by
  induction ps with
  | nil => exact absurd rfl hps
  | cons p ps ih =>
    by_cases h : ps = []
    · subst h
      rw [List.singleton_append, unparts_cons p hqs, unparts, unparts, List.intercalate_singleton]
    · rw [List.cons_append, unparts_cons p (by simp [h]), ih h, unparts_cons p h, List.append_assoc,
        List.cons_append]

/-- A text that `t` starts with, up to a slash or to its end. -/
inductive Opens (t : List Char) : List Char → Prop
  | nothing : Opens t []
  | upTo {s u : List Char} : t = s ++ '/' :: u → Opens t s
  | whole : Opens t t

theorem opens_unparts {t : List Char} {ps : List (List Char)} (h : ps <+: parts t) : Opens t (unparts ps) := by
  obtain ⟨qs, hqs⟩ := h
  have ht : unparts (ps ++ qs) = t := by rw [hqs, unparts, parts, List.intercalate_splitOn]
  by_cases hps : ps = []
  · subst hps
    exact .nothing
  by_cases hqs : qs = []
  · subst hqs
    rw [List.append_nil] at ht
    exact ht ▸ .whole
  · rw [unparts_append hps hqs] at ht
    exact .upTo ht.symm

theorem steps_unparts {t : List Char} {ps : List (List Char)} (h : ps <+: parts t) :
    steps (unparts ps) = (ps.filter fun part => !isVoid part).map componentOf := by
  by_cases hps : ps = []
  · subst hps
    rfl
  · have hslash : ∀ p ∈ ps, '/' ∉ p := fun p hp => slash_not_mem_of_mem_parts (h.subset hp)
    rw [steps, parts, unparts, List.splitOn_intercalate '/' hslash hps]

theorem IsBare.opens {s t : List Char} (h : IsBare t) (hs : Opens t s) : IsBare s := by
  have hslash := h.slash
  have hdot := h.dot
  have hhere := h.here
  cases hs with
  | nothing => exact ⟨by simp, by simp, by simp⟩
  | whole => exact h
  | @upTo s u ht =>
    subst ht
    refine ⟨?_, ?_, ?_⟩
    · rintro r rfl
      exact hslash _ rfl
    · rintro rfl
      exact hhere _ rfl
    · rintro r rfl
      exact hhere _ rfl

/-- A path that is cut short behind its start keeps the start. -/
theorem split_opens {p : Path} {s : List Char} (hs : Opens p.split.2 s) :
    (⟨String.ofList (p.split.1.text ++ s)⟩ : Path).split = (p.split.1, s) := by
  rcases start_cases p.text.toList with ⟨r, hr⟩ | hr | ⟨r, hr⟩ | hbare
  · rw [split_eq_root hr]
    exact split_eq_root (by simp [Start.text])
  · rw [split_eq_dot hr] at hs ⊢
    obtain rfl : s = [] := by
      cases hs with
      | nothing | whole => rfl
      | upTo ht => simp at ht
    exact split_eq_dot (by simp [Start.text])
  · rw [split_eq_here hr] at hs ⊢
    cases hs with
    | nothing => exact split_eq_dot (by simp [Start.text])
    | whole => exact split_eq_here (by simp [Start.text])
    | upTo ht =>
      cases s with
      | nil => exact split_eq_dot (by simp [Start.text])
      | cons c s =>
        obtain ⟨rfl, -⟩ := List.cons.inj ht
        exact split_eq_here (by simp [Start.text])
  · rw [split_eq_bare hbare] at hs ⊢
    have hs' := hbare.opens hs
    rw [← String.toList_ofList (l := s)] at hs'
    simpa [Start.text] using split_eq_bare (p := ⟨String.ofList s⟩) hs'

/-! ## Parents -/

theorem componentOf_ne_root (part : List Char) : componentOf part ≠ .root := by
  rw [componentOf]
  split
  · decide
  · intro h
    cases h

theorem root_not_mem_steps (t : List Char) : Component.root ∉ steps t := by
  intro hroot
  obtain ⟨part, -, hpart⟩ := List.mem_map.1 hroot
  exact componentOf_ne_root part hpart

theorem filter_dropTrailing (ps : List (List Char)) :
    (Text.dropTrailing isVoid ps).filter (fun part => !isVoid part) = ps.filter fun part => !isVoid part := by
  induction ps using List.reverseRecOn with
  | nil => rfl
  | append_singleton ps p ih =>
    rw [Text.dropTrailing_eq_rdropWhile] at ih ⊢
    cases hp : isVoid p with
    | true => rw [List.rdropWhile_concat_pos _ _ _ hp, ih, List.filter_append, List.filter_singleton, hp]; simp
    | false => rw [List.rdropWhile_concat_neg _ _ _ (by simp [hp])]

/-- The last part that is left when void ones are dropped from the end is not void. -/
theorem dropTrailing_eq_append {ps : List (List Char)} (h : Text.dropTrailing isVoid ps ≠ []) :
    ∃ part, isVoid part = false ∧
      Text.dropTrailing isVoid ps = (Text.dropTrailing isVoid ps).dropLast ++ [part] := by
  refine ⟨(Text.dropTrailing isVoid ps).getLast h, ?_, (List.dropLast_append_getLast h).symm⟩
  simp only [Text.dropTrailing_eq_rdropWhile] at h ⊢
  simpa using List.rdropWhile_last_not isVoid ps h

/-- The parent of a path has its steps but for the last. -/
theorem components_parent? {p q : Path} (h : p.parent? = some q) :
    ∃ c, c ≠ .root ∧ p.components = q.components ++ [c] := by
  rw [parent?] at h
  rw [components_eq, steps, ← filter_dropTrailing]
  split at h
  · rename_i hvoid
    split at h
    · rename_i hhere
      cases h
      rw [hvoid, beq_iff_eq.1 hhere]
      exact ⟨.here, by decide, rfl⟩
    · cases h
  · rename_i hne
    cases h
    obtain ⟨part, hpart, hlast⟩ := dropTrailing_eq_append hne
    have hcut : Text.dropTrailing isVoid (Text.dropTrailing isVoid (parts p.split.2)).dropLast <+:
        parts p.split.2 := by
      rw [Text.dropTrailing_eq_rdropWhile]
      refine (List.rdropWhile_prefix _ _).trans ((List.dropLast_prefix _).trans ?_)
      rw [Text.dropTrailing_eq_rdropWhile]
      exact List.rdropWhile_prefix _ _
    refine ⟨componentOf part, componentOf_ne_root part, ?_⟩
    rw [components_eq, split_opens (opens_unparts hcut), steps_unparts hcut,
      filter_dropTrailing (Text.dropTrailing isVoid (parts p.split.2)).dropLast, hlast]
    simp [hpart]

/-! ## Ancestors -/

/-- The steps of `q` are the first steps of `p`, but not all. -/
def IsAbove (q p : Path) : Prop := ∃ c cs, p.components = q.components ++ c :: cs

theorem isAbove_of_parent? {p q : Path} (h : p.parent? = some q) : q.IsAbove p := by
  obtain ⟨c, -, hc⟩ := components_parent? h
  exact ⟨c, [], hc⟩

theorem IsAbove.trans {p q r : Path} (hqp : q.IsAbove p) (hrq : r.IsAbove q) : r.IsAbove p := by
  obtain ⟨c, cs, hq⟩ := hqp
  obtain ⟨d, ds, hr⟩ := hrq
  exact ⟨d, ds ++ c :: cs, by rw [hq, hr, List.append_assoc, List.cons_append]⟩

/-- The steps of an ancestor are the first ones of its path, and the last ones, fewer than
`n`, are dropped. -/
theorem components_of_mem_ancestors {n : Nat} {p q : Path} (h : q ∈ p.ancestors n) :
    ∃ cs, p.components = q.components ++ cs ∧ .root ∉ cs ∧ cs.length < n := by
  induction n generalizing p with
  | zero => cases h
  | succ n ih =>
    rcases List.mem_cons.1 h with rfl | h
    · exact ⟨[], by simp⟩
    · cases hparent : p.parent? with
      | none =>
        rw [hparent] at h
        cases h
      | some r =>
        rw [hparent] at h
        obtain ⟨c, hc, hp⟩ := components_parent? hparent
        obtain ⟨cs, hr, hroot, hlength⟩ := ih h
        exact ⟨cs ++ [c], by rw [hp, hr, List.append_assoc], by simp [hroot, hc.symm], by simp [hlength]⟩

theorem isAbove_of_mem_ancestors {n : Nat} {p q : Path} (h : q ∈ (ancestors n p).drop 1) : q.IsAbove p := by
  cases n with
  | zero => exact absurd h (by simp [ancestors])
  | succ n =>
    rw [ancestors, List.drop_one, List.tail_cons] at h
    cases hparent : p.parent? with
    | none =>
      rw [hparent] at h
      cases h
    | some r =>
      rw [hparent] at h
      obtain ⟨c, -, hp⟩ := components_parent? hparent
      obtain ⟨cs, hr, -⟩ := components_of_mem_ancestors h
      rw [hr, List.append_assoc] at hp
      obtain ⟨d, ds, hds⟩ := List.exists_cons_of_ne_nil (List.concat_ne_nil c cs)
      exact ⟨d, ds, by rw [hp, ← hds]⟩

/-! ## How many ancestors there are -/

/-- How many steps a path has. The root directory is where one starts, not a step. -/
def depth (p : Path) : Nat := p.components.countP (· ≠ .root)

theorem depth_parent? {p q : Path} (h : p.parent? = some q) : p.depth = q.depth + 1 := by
  obtain ⟨c, hc, hcomponents⟩ := components_parent? h
  rw [depth, hcomponents, List.countP_append, List.countP_singleton, if_pos (by simpa using hc), depth]

/-- There is nothing above the root directory, and nothing above the empty path. -/
theorem depth_eq_zero_of_parent?_eq_none {p : Path} (h : p.parent? = none) : p.depth = 0 := by
  rw [parent?] at h
  split at h
  · rename_i hvoid
    split at h
    · cases h
    · rename_i hstart
      have hsteps : steps p.split.2 = [] := by rw [steps, ← filter_dropTrailing, hvoid]; rfl
      rw [depth, components_eq, hsteps, List.append_nil]
      cases hsplit : p.split.1 with
      | root | bare => rfl
      | here => exact absurd (by rw [hsplit]; rfl) hstart
  · cases h

/-- Each ancestor has one step less than the one before it. -/
theorem map_components_ancestors (n : Nat) (p : Path) :
    (ancestors n p).map components = (List.range (min n (1 + p.depth))).map p.components.rdrop := by
  induction n generalizing p with
  | zero => rw [Nat.zero_min]; rfl
  | succ n ih =>
    rw [ancestors, List.map_cons]
    cases hparent : p.parent? with
    | none =>
      have hlast : min (n + 1) (1 + p.depth) = 1 := by rw [depth_eq_zero_of_parent?_eq_none hparent]; omega
      rw [hlast]
      simp
    | some q =>
      obtain ⟨c, -, hcomponents⟩ := components_parent? hparent
      have hmore : min (n + 1) (1 + p.depth) = min n (1 + q.depth) + 1 := by rw [depth_parent? hparent]; omega
      simp only
      rw [ih q, hmore, List.range_succ_eq_map, List.map_cons, List.map_map, List.rdrop_zero]
      refine congrArg _ (List.map_congr_left fun k _ => ?_)
      rw [Function.comp_apply, hcomponents, List.rdrop_concat_succ]

/-- Whatever first steps a path has, some ancestor has just these, if it is not too far
up. -/
theorem exists_mem_ancestors {n : Nat} {p : Path} {before after : List Component}
    (h : p.components = before ++ after) (hroot : .root ∉ after) (hlength : after.length < n) :
    ∃ q ∈ p.ancestors n, q.components = before := by
  have hdepth : after.length ≤ p.depth := by
    have hafter : after.countP (· ≠ .root) = after.length :=
      List.countP_eq_length.2 fun c hc => by simpa using ne_of_mem_of_not_mem hc hroot
    rw [depth, h, List.countP_append, hafter]
    exact Nat.le_add_left _ _
  have hbefore : before = p.components.rdrop after.length := by rw [h, List.rdrop_append_length]
  have hmem : before ∈ (p.ancestors n).map components := by
    rw [map_components_ancestors, hbefore]
    exact List.mem_map_of_mem (List.mem_range.2 (by omega))
  exact List.mem_map.1 hmem

/-- **The walk upwards drops one step at a time, and ends.** It goes through as many paths
as it may, but no more than the path has steps besides the root directory, and one. It
begins with the path as it is written, and `k` paths later it has come to the steps of
that path but for the last `k`. -/
theorem ancestors_drop_steps (p : Path) (n : Nat) :
    let count := min n (1 + (p.components.filter fun c => c ≠ .root).length)
    (p.ancestors n).length = count ∧
    (p.ancestors n).head? = (if n = 0 then none else some p) ∧
    (p.ancestors n).map components =
      (List.range count).map fun k => p.components.take (p.components.length - k) := by
  intro count
  have hcount : count = min n (1 + p.depth) := by rw [depth, List.countP_eq_length_filter]
  have hmap : (p.ancestors n).map components = (List.range count).map p.components.rdrop := by
    rw [hcount, map_components_ancestors]
  refine ⟨?_, ?_, hmap⟩
  · simpa using congrArg List.length hmap
  · cases n <;> rfl

example : (ancestors 10 ⟨"./a//b/.//"⟩).map text = ["./a//b/.//", "./a", ".", ""] := by decide

end DecoderBench.Path
