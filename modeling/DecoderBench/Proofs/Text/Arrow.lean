/-
Arrows and tokens: an arrow lies inside one token, so the tokens of a text
decide the tokens of each of the text's pieces (`map_tokens_arrowPieces`).
-/
import DecoderBench.Proofs.Text.Tokens

namespace DecoderBench.Text

theorem arrowPieces_cons {c : Char} {t : List Char} (h : c = '-' → t.head? ≠ some '>') :
    arrowPieces (c :: t) = (arrowPieces t).modifyHead (c :: ·) := by
  rw [arrowPieces]
  rintro r rfl rfl
  exact h rfl rfl

theorem arrowPieces_ne_nil (t : List Char) : arrowPieces t ≠ [] := by
  fun_induction arrowPieces t with
  | case1 => simp
  | case2 r => simp
  | case3 c r h ih => simpa [List.modifyHead_eq_nil_iff] using ih

/-! ## Texts put end to end -/

/-- The pieces of two texts put end to end: the last piece of the first goes on in
the first piece of the second. -/
def joinPieces {α : Type} : List (List α) → List (List α) → List (List α)
  | [], ys => ys
  | [x], ys => ys.modifyHead (x ++ ·)
  | x :: xs, ys => x :: joinPieces xs ys

theorem joinPieces_cons {α : Type} {x : List α} {xs ys : List (List α)} (h : xs ≠ []) :
    joinPieces (x :: xs) ys = x :: joinPieces xs ys := by
  cases xs with
  | nil => exact absurd rfl h
  | cons y xs => rfl

theorem joinPieces_modifyHead {α : Type} {a : α} {xs ys : List (List α)} (h : xs ≠ []) :
    joinPieces (xs.modifyHead (a :: ·)) ys = (joinPieces xs ys).modifyHead (a :: ·) := by
  match xs with
  | [] => exact absurd rfl h
  | [x] => cases ys <;> rfl
  | x :: y :: xs => rfl

theorem arrowPieces_append {s t : List Char} (h : t.head? ≠ some '>') :
    arrowPieces (s ++ t) = joinPieces (arrowPieces s) (arrowPieces t) := by
  fun_induction arrowPieces s with
  | case1 => cases ht : arrowPieces t <;> simp [joinPieces, ht]
  | case2 r ih => rw [List.cons_append, List.cons_append, arrowPieces, ih, joinPieces_cons (arrowPieces_ne_nil r)]
  | case3 c r hr ih =>
    -- The cut may stand right behind `c`, which starts no arrow then.
    have hc : c = '-' → (r ++ t).head? ≠ some '>' := by
      rintro rfl he
      cases r with
      | nil => exact h he
      | cons d r =>
        simp only [List.cons_append, List.head?_cons, Option.some.injEq] at he
        exact hr r rfl (by rw [he])
    rw [List.cons_append, arrowPieces_cons hc, ih, joinPieces_modifyHead (arrowPieces_ne_nil r)]

theorem length_joinPieces {α : Type} {xs ys : List (List α)} (hx : xs ≠ []) (hy : ys ≠ []) :
    (joinPieces xs ys).length + 1 = xs.length + ys.length := by
  fun_induction joinPieces xs ys with
  | case1 ys => exact absurd rfl hx
  | case2 x ys => rw [List.length_modifyHead, List.length_singleton, Nat.add_comm]
  | case3 x xs ys hxs ih =>
    have := ih hxs hy
    simp only [List.length_cons]
    omega

theorem joinPieces_nil_cons {α : Type} {xs ys : List (List α)} (h : xs ≠ []) :
    joinPieces xs ([] :: ys) = xs ++ ys := by
  induction xs with
  | nil => exact absurd rfl h
  | cons x xs ih =>
    by_cases hxs : xs = []
    · simp [hxs, joinPieces]
    · rw [joinPieces_cons hxs, ih hxs, List.cons_append]

/-- The pieces on both sides of an arrow. -/
theorem arrowPieces_arrow (s t : List Char) :
    arrowPieces (s ++ '-' :: '>' :: t) = arrowPieces s ++ arrowPieces t := by
  rw [arrowPieces_append (by simp), arrowPieces, joinPieces_nil_cons (arrowPieces_ne_nil s)]

/-- With an arrow between each two, the pieces are the text again. -/
theorem intercalate_arrowPieces (t : List Char) : ['-', '>'].intercalate (arrowPieces t) = t := by
  fun_induction arrowPieces t with
  | case1 => rfl
  | case2 r ih => rw [List.intercalate_cons_of_ne_nil (arrowPieces_ne_nil r), ih]; rfl
  | case3 c r _ ih =>
    obtain ⟨p, ps, hp⟩ := List.exists_cons_of_ne_nil (arrowPieces_ne_nil r)
    rw [hp] at ih ⊢
    cases ps with
    | nil => simpa using ih
    | cons q ps =>
      rw [List.intercalate_cons_of_ne_nil (by simp)] at ih
      rw [List.modifyHead_cons, List.intercalate_cons_of_ne_nil (by simp), List.cons_append, List.cons_append, ih]

theorem startsApart_arrowPieces {t : List Char} (h : StartsApart t) :
    ∀ p ∈ (arrowPieces t).head?, StartsApart p := by
  fun_cases arrowPieces t with
  | case1 => simp [StartsApart]
  | case2 r => simp [StartsApart]
  | case3 c r hr =>
    intro p hp
    obtain ⟨q, qs, hq⟩ := List.exists_cons_of_ne_nil (arrowPieces_ne_nil r)
    rw [hq] at hp
    simp only [List.modifyHead_cons, List.head?_cons, Option.mem_def, Option.some.injEq] at hp
    subst hp
    exact .cons (h c (by simp))

/-! ## Texts with arrows -/

theorem hasArrow_eq_false_iff {t : List Char} : hasArrow t = false ↔ arrowPieces t = [t] := by
  constructor
  · intro h
    have hlength : (arrowPieces t).length ≤ 1 := by simpa [hasArrow] using h
    have ht := intercalate_arrowPieces t
    obtain ⟨p, ps, hp⟩ := List.exists_cons_of_ne_nil (arrowPieces_ne_nil t)
    rw [hp] at hlength ht ⊢
    obtain rfl : ps = [] := List.length_eq_zero_iff.1 (by simpa using hlength)
    rw [← ht, List.intercalate_singleton]
  · intro h
    rw [hasArrow, h]
    rfl

/-- There is an arrow exactly if `->` stands somewhere. -/
theorem hasArrow_iff_infix {t : List Char} : hasArrow t = true ↔ ['-', '>'] <:+: t := by
  constructor
  · intro h
    obtain ⟨p, ps, hp⟩ := List.exists_cons_of_ne_nil (arrowPieces_ne_nil t)
    have hps : ps ≠ [] := by
      rintro rfl
      simp [hasArrow, hp] at h
    refine ⟨p, ['-', '>'].intercalate ps, ?_⟩
    rw [← List.intercalate_cons_of_ne_nil hps, ← hp, intercalate_arrowPieces]
  · rintro ⟨s, r, rfl⟩
    have hs := List.length_pos_iff.2 (arrowPieces_ne_nil s)
    have hr := List.length_pos_iff.2 (arrowPieces_ne_nil r)
    rw [hasArrow, List.append_assoc, List.cons_append, List.cons_append, List.nil_append, arrowPieces_arrow,
      List.length_append, decide_eq_true_eq]
    omega

/-- Where a text has two pieces, there is one arrow between them and none in them. -/
theorem exists_of_arrowPieces_eq_pair {t p q : List Char} (h : arrowPieces t = [p, q]) :
    t = p ++ '-' :: '>' :: q ∧ hasArrow p = false ∧ hasArrow q = false := by
  have ht : t = p ++ '-' :: '>' :: q := by
    rw [← intercalate_arrowPieces t, h, List.intercalate_cons_of_ne_nil (by simp), List.intercalate_singleton,
      List.append_assoc]
    rfl
  -- The pieces are those of `p` and those of `q`, and there is at least one of either.
  have hlength := congrArg List.length h
  rw [ht, arrowPieces_arrow, List.length_append] at hlength
  have hp := List.length_pos_iff.2 (arrowPieces_ne_nil p)
  have hq := List.length_pos_iff.2 (arrowPieces_ne_nil q)
  simp only [List.length_cons, List.length_nil] at hlength
  refine ⟨ht, ?_, ?_⟩ <;> rw [hasArrow, decide_eq_false_iff_not] <;> omega

/-! ## Arrows in tokens -/

theorem head?_ne_of_startsApart {t : List Char} (h : StartsApart t) : t.head? ≠ some '>' := by
  intro he
  have := h '>' he
  simp [isBlank] at this

theorem hasArrow_cons_blank {c : Char} {t : List Char} (h : isBlank c = true) : hasArrow (c :: t) = hasArrow t := by
  have hd : c ≠ '-' := by rintro rfl; simp [isBlank] at h
  rw [hasArrow, arrowPieces_cons fun he => absurd he hd, List.length_modifyHead, hasArrow]

theorem hasArrow_append {s t : List Char} (h : StartsApart t) : hasArrow (s ++ t) = (hasArrow s || hasArrow t) := by
  have hs := List.length_pos_iff.2 (arrowPieces_ne_nil s)
  have ht := List.length_pos_iff.2 (arrowPieces_ne_nil t)
  have hlength := length_joinPieces (arrowPieces_ne_nil s) (arrowPieces_ne_nil t)
  rw [hasArrow, arrowPieces_append (head?_ne_of_startsApart h), hasArrow, hasArrow, ← Bool.decide_or,
    decide_eq_decide]
  omega

/-- **An arrow lies inside one token.** -/
theorem hasArrow_eq_any (t : List Char) : hasArrow t = (tokens t).any hasArrow := by
  induction t using tokens_induction with
  | nil => rfl
  | blank c t hc ih => rw [hasArrow_cons_blank hc, tokens_cons hc, ih]
  | token w t hw ht ih => rw [hasArrow_append ht, tokens_token_append hw ht, List.any_cons, ih]

/-! ## Tokens of the pieces -/

theorem map_tokens_modifyHead_cons {c : Char} {ps : List (List Char)} (h : isBlank c = true) :
    (ps.modifyHead (c :: ·)).map tokens = ps.map tokens := by
  cases ps with
  | nil => rfl
  | cons p ps => simp [tokens_cons h]

theorem map_tokens_joinPieces {xs ys : List (List Char)} (h : ∀ y ∈ ys.head?, StartsApart y) :
    (joinPieces xs ys).map tokens = joinPieces (xs.map tokens) (ys.map tokens) := by
  fun_induction joinPieces xs ys with
  | case1 ys => rfl
  | case2 x ys =>
    cases ys with
    | nil => rfl
    | cons y ys => simp [joinPieces, tokens_append (h y (by simp))]
  | case3 x xs ys hxs ih =>
    have hne : xs.map tokens ≠ [] := by simpa using hxs
    rw [List.map_cons, List.map_cons, joinPieces_cons hne, ih h]

/-- The tokens of each piece of a text that has the tokens `ws`. -/
def tokenPieces (ws : List (List Char)) : List (List (List Char)) :=
  ws.foldr (fun w ps => joinPieces ((arrowPieces w).map tokens) ps) [[]]

/-- **The tokens of a text decide the tokens of its pieces.** -/
theorem map_tokens_arrowPieces (t : List Char) : (arrowPieces t).map tokens = tokenPieces (tokens t) := by
  induction t using tokens_induction with
  | nil => rfl
  | blank c t hc ih =>
    have hd : c ≠ '-' := by rintro rfl; simp [isBlank] at hc
    rw [arrowPieces_cons fun h => absurd h hd, map_tokens_modifyHead_cons hc, tokens_cons hc, ih]
  | token w t hw ht ih =>
    rw [arrowPieces_append (head?_ne_of_startsApart ht), map_tokens_joinPieces (startsApart_arrowPieces ht), ih,
      tokens_token_append hw ht]
    rfl

end DecoderBench.Text
