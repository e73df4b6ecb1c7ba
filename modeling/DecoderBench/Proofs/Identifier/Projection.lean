/-
The identifier of a type is found by a projection. Identifiers that start with a capital are
what it gives and what it leaves as it is (`ofType_eq_self_iff`), so a second time it changes
nothing. Where blanks stand in a type makes no difference, be it inside a token or inside an
arrow (`ofType_projects`).
-/
import DecoderBench.Proofs.Identifier
import DecoderBench.Proofs.Padding

namespace DecoderBench.Identifier

open Text

/-! ## Identifiers are left as they are -/

theorem squeeze_of_isWord {t : List Char} (h : ∀ c ∈ t, isWord c = true) : squeeze t = t := by
  rw [squeeze, List.filter_eq_self]
  intro c hc
  rw [isBlank_of_isWord (h c hc), Bool.not_false]

theorem spell_of_isWord {t : List Char} (h : ∀ c ∈ t, isWord c = true) : spell t = t := by
  fun_induction spell t with
  | case1 => rfl
  | case2 r ih => exact absurd (h '-' (by simp)) (by decide)
  | case3 c r hr ih =>
    rw [if_pos (h c (by simp)), ih fun d hd => h d (by simp [hd])]

theorem ofType_of_isConstructor {name : String} (h : isConstructor name = true) : ofType name = name := by
  have hword := isWord_of_isConstructor h
  rw [ofType, squeeze_of_isWord hword, spell_of_isWord hword]
  unfold isConstructor at h
  cases hname : name.toList with
  | nil => simp [hname] at h
  | cons c r =>
    simp only [hname, Bool.and_eq_true] at h
    rw [capitalize, if_pos h.1, ← hname, String.ofList_toList]

/-- The identifiers that start with a capital are the texts that are their own. -/
theorem ofType_eq_self_iff {name : String} : ofType name = name ↔ isConstructor name = true :=
  ⟨fun h => h ▸ isConstructor_ofType name, ofType_of_isConstructor⟩

/-! ## Blanks leave no trace -/

theorem squeeze_eq_of_padded {s t : List Char} (h : Padded Eq (fun c => isBlank c = true) s t) :
    squeeze s = squeeze t :=
  h.filter_eq fun c hc => by rw [hc, Bool.not_true]

/-- **Identifiers of types are a projection.** Whatever text a type has, its identifier is an
ASCII capital with ASCII letters, digits and `_` behind it; the texts of that form are their own
identifiers, and so are identifiers of types; and wherever blanks are put into a type or taken
out of it, its identifier and its constructor stay the same. -/
theorem ofType_projects :
    (∀ type, isConstructor (ofType type) = true) ∧
    (∀ name, ofType name = name ↔ isConstructor name = true) ∧
    (∀ type, ofType (ofType type) = ofType type) ∧
    ∀ s t : Signature, Padded Eq (fun c => isBlank c = true) s.type.toList t.type.toList →
      ofType s.type = ofType t.type ∧ s.tagName = t.tagName := by
  refine ⟨isConstructor_ofType, fun name => ofType_eq_self_iff, fun type => ?_, fun s t h => ?_⟩
  · exact ofType_of_isConstructor (isConstructor_ofType type)
  · have hsqueeze := squeeze_eq_of_padded h
    exact ⟨ofType_congr_of_squeeze hsqueeze, tagName_congr_of_squeeze hsqueeze⟩

/-- Blanks inside an arrow and inside a token, one of them not ASCII. -/
theorem ofType_projects_splitArrow :
    let tight : Signature := ⟨"tight", "a->Int"⟩
    let loose : Signature := ⟨"loose", "a- >\u2003I nt"⟩
    Padded Eq (fun c => isBlank c = true) tight.type.toList loose.type.toList ∧
      ofType loose.type = "Ta_to_Int" ∧ loose.tagName = tight.tagName := by
  intro tight loose
  have hpadded : Padded Eq (fun c => isBlank c = true) tight.type.toList loose.type.toList := by
    have htight : tight.type.toList = ['a', '-', '>', 'I', 'n', 't'] := by decide
    have hloose : loose.type.toList = ['a', '-', ' ', '>', '\u2003', 'I', ' ', 'n', 't'] := by decide
    rw [htight, hloose]
    refine .keep rfl (.keep rfl (.insert (by decide) ?_))
    refine .keep rfl (.insert (by decide) ?_)
    exact .keep rfl (.insert (by decide) (.keep rfl (.keep rfl .nil)))
  obtain ⟨htype, htag⟩ := ofType_projects.2.2.2 tight loose hpadded
  refine ⟨hpadded, ?_, htag.symm⟩
  rw [← htype]
  decide

end DecoderBench.Identifier
