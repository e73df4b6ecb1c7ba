/-
Constructor names: they are identifiers that start with a capital
(`isConstructor_tagName`, `isConstructor_fresh`), a number makes a name new
(`fresh_not_mem`), and names of different kinds never meet because they end
differently (`ending`).
-/
import DecoderBench.Identifier
import Mathlib.Data.List.Basic

namespace DecoderBench.Identifier

/-! ## Numbers -/

theorem toList_toString (n : Nat) : (toString n).toList = Nat.toDigits 10 n := Nat.toList_repr

theorem isDigit_of_mem_toString {n : Nat} {c : Char} (h : c ∈ (toString n).toList) : c.isDigit = true := by
  rw [toList_toString] at h
  exact Nat.isDigit_of_mem_toDigits (by decide) (by decide) h

theorem append_toString_inj {base : String} {m n : Nat} (h : base ++ toString m = base ++ toString n) :
    m = n := by
  have hl := congrArg String.toList h
  simp only [String.toList_append, List.append_cancel_left_eq, toList_toString] at hl
  rw [← Nat.ofDigitChars_ten_toDigits (n := m), hl, Nat.ofDigitChars_ten_toDigits]

theorem le_freeNumber (base : String) (taken : List String) (k : Nat) : k ≤ freeNumber base taken k := by
  fun_induction freeNumber base taken k with
  | case1 taken k h ih => exact Nat.le_of_succ_le ih
  | case2 taken k h => exact Nat.le_refl k

theorem freeNumber_not_mem (base : String) (taken : List String) (k : Nat) :
    base ++ toString (freeNumber base taken k) ∉ taken := by
  fun_induction freeNumber base taken k with
  | case1 taken k h ih =>
    -- The number found is past `k`, so erasing the name with `k` did not hide its own.
    have hlt : k < freeNumber base (taken.erase (base ++ toString k)) (k + 1) := le_freeNumber _ _ _
    have hne : base ++ toString (freeNumber base (taken.erase (base ++ toString k)) (k + 1)) ≠
        base ++ toString k := fun he => Nat.ne_of_gt hlt (append_toString_inj he)
    exact fun hmem => ih ((List.mem_erase_of_ne hne).2 hmem)
  | case2 taken k h => exact h

/-- Smaller numbers were tried before, and their names were taken. -/
theorem mem_of_lt_freeNumber {base : String} {taken : List String} {k j : Nat} (hk : k ≤ j)
    (h : j < freeNumber base taken k) : base ++ toString j ∈ taken := by
  fun_induction freeNumber base taken k with
  | case1 taken k hmem ih =>
    rcases Nat.eq_or_lt_of_le hk with rfl | hlt
    · exact hmem
    · exact List.mem_of_mem_erase (ih hlt h)
  | case2 taken k hnew => exact absurd h (Nat.not_lt.2 hk)

/-- The number found is the only one that is free with none free below it. -/
theorem freeNumber_eq {base : String} {taken : List String} {k n : Nat} (hk : k ≤ n)
    (hfree : base ++ toString n ∉ taken) (htaken : ∀ j, k ≤ j → j < n → base ++ toString j ∈ taken) :
    freeNumber base taken k = n := by
  refine Nat.le_antisymm (Nat.not_lt.1 fun h => ?_) (Nat.not_lt.1 fun h => ?_)
  · exact hfree (mem_of_lt_freeNumber hk h)
  · exact freeNumber_not_mem base taken k (htaken _ (le_freeNumber base taken k) h)

theorem fresh_not_mem (base : String) (taken : List String) : fresh base taken ∉ taken := by
  unfold fresh
  split
  · exact freeNumber_not_mem base taken 2
  · assumption

/-- A new name is the name that was asked for, with a number behind it or without. -/
theorem fresh_cases (base : String) (taken : List String) :
    fresh base taken = base ∨ ∃ n : Nat, fresh base taken = base ++ toString n := by
  unfold fresh
  split
  · exact .inr ⟨_, rfl⟩
  · exact .inl rfl

/-! ## Characters -/

/-- Whether `name` is an ASCII capital with ASCII letters, digits and `_` behind it. -/
def isConstructor (name : String) : Bool :=
  match name.toList with
  | [] => false
  | c :: r => c.isUpper && r.all isWord

theorem isAlphanum_of_isUpper {c : Char} (h : c.isUpper = true) : c.isAlphanum = true := by
  change ((c.isUpper || c.isLower) || c.isDigit) = true
  rw [h]
  rfl

theorem isWord_of_isUpper {c : Char} (h : c.isUpper = true) : isWord c = true := by
  rw [isWord, isAlphanum_of_isUpper h]
  rfl

theorem isWord_of_isDigit {c : Char} (h : c.isDigit = true) : isWord c = true := by
  simp [isWord, Char.isAlphanum, h]

/-- From `0` to `z`, where no blank stands. -/
theorem toNat_of_isWord {c : Char} (h : isWord c = true) : 48 ≤ c.toNat ∧ c.toNat ≤ 122 := by
  change (((c.isUpper || c.isLower) || c.isDigit) || c == '_') = true at h
  rw [Bool.or_eq_true, Bool.or_eq_true, Bool.or_eq_true, beq_iff_eq] at h
  rcases h with ((hupper | hlower) | hdigit) | rfl
  · have hbounds : 65 ≤ c.toNat ∧ c.toNat ≤ 90 := of_decide_eq_true hupper
    omega
  · have hbounds : 97 ≤ c.toNat ∧ c.toNat ≤ 122 := by
      obtain ⟨hlow, hhigh⟩ := (Bool.and_eq_true _ _).mp hlower
      exact ⟨of_decide_eq_true hlow, of_decide_eq_true hhigh⟩
    omega
  · have hbounds : 48 ≤ c.toNat ∧ c.toNat ≤ 57 := Char.isDigit_iff_toNat.1 hdigit
    omega
  · decide

theorem isBlank_of_isWord {c : Char} (h : isWord c = true) : Text.isBlank c = false := by
  obtain ⟨hlow, hhigh⟩ := toNat_of_isWord h
  rw [Bool.eq_false_iff]
  intro hblank
  simp only [Text.isBlank, Bool.or_eq_true, Bool.and_eq_true, decide_eq_true_eq, beq_iff_eq] at hblank
  omega

theorem isConstructor_append {s t : String} (hs : isConstructor s = true)
    (ht : ∀ c ∈ t.toList, isWord c = true) : isConstructor (s ++ t) = true := by
  unfold isConstructor at hs ⊢
  rw [String.toList_append]
  cases h : s.toList with
  | nil => simp [h] at hs
  | cons c r =>
    simp only [h, Bool.and_eq_true] at hs
    simp only [List.cons_append, List.all_append, Bool.and_eq_true]
    exact ⟨hs.1, hs.2, List.all_eq_true.2 ht⟩

theorem isWord_of_isConstructor {name : String} (h : isConstructor name = true) :
    ∀ c ∈ name.toList, isWord c = true := by
  unfold isConstructor at h
  cases hn : name.toList with
  | nil => simp
  | cons c r =>
    simp only [hn, Bool.and_eq_true] at h
    intro d hd
    rcases List.mem_cons.1 hd with rfl | hd
    · exact isWord_of_isUpper h.1
    · exact List.all_eq_true.1 h.2 d hd

theorem isWord_of_mem_spell {t : List Char} {c : Char} (h : c ∈ spell t) : isWord c = true := by
  fun_induction spell t with
  | case1 => simp at h
  | case2 r ih =>
    simp only [List.mem_cons] at h
    rcases h with rfl | rfl | rfl | rfl | h
    · rfl
    · rfl
    · rfl
    · rfl
    · exact ih h
  | case3 d r _ ih =>
    rcases List.mem_cons.1 h with rfl | h
    · split
      · assumption
      · rfl
    · exact ih h

theorem isConstructor_ofType (type : String) : isConstructor (ofType type) = true := by
  unfold isConstructor ofType
  rw [String.toList_ofList]
  have hword : ∀ c ∈ spell (Text.squeeze type.toList), isWord c = true := fun _ h => isWord_of_mem_spell h
  cases hs : spell (Text.squeeze type.toList) with
  | nil => rfl
  | cons c r =>
    rw [hs] at hword
    simp only [List.mem_cons, forall_eq_or_imp] at hword
    unfold capitalize
    by_cases hc : c.isUpper = true
    · simp only [hc, if_true, Bool.true_and, List.all_eq_true]
      exact hword.2
    · simp only [hc, Bool.false_eq_true, if_false, List.all_cons, hword.1, Bool.true_and, List.all_eq_true,
        Bool.and_eq_true]
      exact ⟨rfl, hword.2⟩

/-- Blanks do not count. -/
theorem ofType_congr_of_squeeze {s t : String} (h : Text.squeeze s.toList = Text.squeeze t.toList) :
    ofType s = ofType t := by
  rw [ofType, ofType, h]

theorem tagName_congr_of_squeeze {s t : Signature} (h : Text.squeeze s.type.toList = Text.squeeze t.type.toList) :
    s.tagName = t.tagName := by
  rw [Signature.tagName, Signature.tagName, ofType_congr_of_squeeze h]

theorem isConstructor_tagName (s : Signature) : isConstructor s.tagName = true :=
  isConstructor_append (isConstructor_ofType s.type) (List.all_eq_true.1 rfl)

theorem isConstructor_payloadName (s : Signature) : isConstructor s.payloadName = true :=
  isConstructor_append (isConstructor_ofType _) (List.all_eq_true.1 rfl)

theorem isConstructor_fresh {base : String} (taken : List String) (h : isConstructor base = true) :
    isConstructor (fresh base taken) = true := by
  rcases fresh_cases base taken with he | ⟨n, he⟩
  · rwa [he]
  · rw [he]
    exact isConstructor_append h fun c hc => isWord_of_isDigit (isDigit_of_mem_toString hc)

/-! ## Endings -/

/-- The last three characters before the digits at the end of a name, from the end. -/
def ending (name : String) : List Char := (name.toList.reverse.dropWhile Char.isDigit).take 3

theorem ending_append_toString (base : String) (n : Nat) : ending (base ++ toString n) = ending base := by
  unfold ending
  rw [String.toList_append, List.reverse_append, List.dropWhile_append_of_pos]
  intro c hc
  exact isDigit_of_mem_toString (List.mem_reverse.1 hc)

theorem ending_fresh (base : String) (taken : List String) : ending (fresh base taken) = ending base := by
  rcases fresh_cases base taken with he | ⟨n, he⟩
  · rw [he]
  · rw [he, ending_append_toString]

theorem ending_payloadName (s : Signature) : ending s.payloadName = ['d', 'a', 'o'] := by
  simp [ending, Signature.payloadName]

theorem ending_tagName (s : Signature) : ending s.tagName = ['g', 'a', 'T'] := by
  simp [ending, Signature.tagName]

/-- A name that ends differently is none of those with one ending. -/
theorem not_mem_map_of_ending {α : Type} {l : List α} {name : α → String} {e : List Char} {n : String}
    (h : ∀ a ∈ l, ending (name a) = e) (hn : ending n ≠ e) : n ∉ l.map name := by
  intro hmem
  obtain ⟨a, ha, rfl⟩ := List.mem_map.1 hmem
  exact hn (h a ha)

end DecoderBench.Identifier
