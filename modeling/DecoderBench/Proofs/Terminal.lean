/-
Texts with style sequences, and what is left of them. Every sequence of a text is taken
out, so a text that has none, and no other, is left as it is (`strip_eq_self_iff`). A text
in a style leaves what it leaves without the style (`strip_paint`).
-/
import DecoderBench.Terminal
import Mathlib.Data.List.Basic

namespace DecoderBench.Terminal

/-- A character that may stand before the end of a style sequence. -/
def isParameter (c : Char) : Bool := c.isDigit || c == ';'

/-- A text holds a style sequence: an escape, a bracket, some digits and semicolons, and an `m`. -/
def HasSequence (t : List Char) : Prop :=
  ∃ parameters, (∀ c ∈ parameters, isParameter c = true) ∧ sequence parameters <:+: t

/-- Whether a sequence that was begun before `t` cannot go on into it. -/
def breaks (t : List Char) : Bool :=
  match t with
  | [] => true
  | c :: _ => !(c == '[' || c == 'm' || isParameter c)

/-! ## Parameters -/

theorem afterParameters?_append_end {ps : List Char} (h : ∀ c ∈ ps, isParameter c = true) (r : List Char) :
    afterParameters? (ps ++ 'm' :: r) = some r := by
  induction ps with
  | nil => rfl
  | cons c ps ih =>
    have hc : isParameter c = true := h c List.mem_cons_self
    have hend : (c == 'm') = false := by
      rw [beq_eq_false_iff_ne]
      rintro rfl
      cases hc
    rw [List.cons_append, afterParameters?, hend, if_neg Bool.false_ne_true]
    exact (if_pos hc).trans (ih fun d hd => h d (List.mem_cons_of_mem c hd))

theorem eq_of_afterParameters? {t r : List Char} (h : afterParameters? t = some r) :
    ∃ ps, (∀ c ∈ ps, isParameter c = true) ∧ t = ps ++ 'm' :: r := by
  fun_induction afterParameters? t with
  | case1 => cases h
  | case2 c r' hc =>
    cases h
    exact ⟨[], List.forall_mem_nil _, by rw [beq_iff_eq.1 hc]; rfl⟩
  | case3 c r' _ hc ih =>
    obtain ⟨ps, hps, rfl⟩ := ih h
    exact ⟨c :: ps, List.forall_mem_cons.2 ⟨hc, hps⟩, rfl⟩
  | case4 => cases h

theorem afterParameters?_append (t : List Char) {u : List Char} (hu : breaks u = true) :
    afterParameters? (t ++ u) = (afterParameters? t).map (· ++ u) := by
  fun_induction afterParameters? t with
  | case1 =>
    cases u with
    | nil => rfl
    | cons c u => simp_all [breaks, isParameter, afterParameters?]
  | case2 c r hc => simp [afterParameters?, hc]
  | case3 c r hend hc ih => simp [afterParameters?, hend, hc, ih]
  | case4 c r hend hc => simp [afterParameters?, hend, hc]

/-! ## What is left of a text -/

theorem strip_of_some {r rest : List Char} (h : afterParameters? r = some rest) :
    strip (escape :: '[' :: r) = strip rest := by
  rw [escape, strip]
  split
  · rename_i h'
    rw [h, Option.some.injEq] at h'
    rw [h']
  · rename_i h'
    rw [h] at h'
    cases h'

theorem strip_of_none {r : List Char} (h : afterParameters? r = none) :
    strip (escape :: '[' :: r) = escape :: '[' :: strip r := by
  rw [escape, strip]
  split
  · rename_i h'
    rw [h] at h'
    cases h'
  · rfl

/-- A character that begins no sequence is left as it is. -/
theorem strip_cons {c : Char} {r : List Char} (h : c = escape → ∀ r', r ≠ '[' :: r') :
    strip (c :: r) = c :: strip r := by
  rw [strip]
  rintro r' hc hr
  exact h hc r' hr

theorem strip_sequence {ps : List Char} (h : ∀ c ∈ ps, isParameter c = true) (t : List Char) :
    strip (sequence ps ++ t) = strip t := by
  have hafter : afterParameters? (ps ++ 'm' :: t) = some t := afterParameters?_append_end h t
  rw [sequence, List.cons_append, List.cons_append, List.append_assoc]
  exact strip_of_some hafter

/-- Where no sequence can go on into `u`, the text before it is stripped on its own. -/
theorem strip_append (t : List Char) {u : List Char} (hu : breaks u = true) : strip (t ++ u) = strip t ++ strip u := by
  fun_induction strip t with
  | case1 => rfl
  | case2 r rest hrest ih =>
    have hafter : afterParameters? (r ++ u) = some (rest ++ u) := by rw [afterParameters?_append r hu, hrest]; rfl
    exact (strip_of_some hafter).trans ih
  | case3 r hrest ih =>
    have hafter : afterParameters? (r ++ u) = none := by rw [afterParameters?_append r hu, hrest]; rfl
    rw [List.cons_append, List.cons_append, ← escape, strip_of_none hafter, ih]
    rfl
  | case4 c r hother ih =>
    rw [List.cons_append, strip_cons, ih, List.cons_append]
    rintro rfl r' hr
    cases r with
    | nil =>
      rw [List.nil_append] at hr
      rw [hr] at hu
      cases hu
    | cons d r =>
      obtain ⟨rfl, -⟩ := List.cons.inj hr
      exact hother r rfl rfl

/-- A text without escapes in front of another is left as it is. -/
theorem strip_append_of_not_mem {f : List Char} (hf : escape ∉ f) (t : List Char) :
    strip (f ++ t) = f ++ strip t := by
  induction f with
  | nil => rfl
  | cons c f ih =>
    obtain ⟨hc, hf⟩ := not_or.1 (mt List.mem_cons.2 hf)
    rw [List.cons_append, strip_cons fun he => absurd he.symm hc, ih hf, List.cons_append]

theorem length_strip_le (t : List Char) : (strip t).length ≤ t.length := by
  fun_induction strip t with
  | case1 => exact Nat.le_refl _
  | case2 r rest hrest ih =>
    have hlength := afterParameters?_length hrest
    simp only [List.length_cons]
    omega
  | case3 | case4 => simpa using ‹_ ≤ _›

theorem length_strip_lt {t : List Char} (h : HasSequence t) : (strip t).length < t.length := by
  obtain ⟨ps, hps, a, b, rfl⟩ := h
  have hstrip : strip (a ++ sequence ps ++ b) = strip a ++ strip b := by
    rw [List.append_assoc, strip_append a rfl, strip_sequence hps]
  have ha := length_strip_le a
  have hb := length_strip_le b
  rw [hstrip]
  simp only [sequence, List.length_append, List.length_cons]
  omega

/-- **Only sequences are taken out**: a text without any is left as it is, and no other. -/
theorem strip_eq_self_iff {t : List Char} : strip t = t ↔ ¬ HasSequence t := by
  constructor
  · intro heq hsequence
    have hlength := length_strip_lt hsequence
    rw [heq] at hlength
    exact absurd hlength (Nat.lt_irrefl _)
  · intro hnone
    fun_induction strip t with
    | case1 => rfl
    | case2 r rest hrest =>
      obtain ⟨ps, hps, rfl⟩ := eq_of_afterParameters? hrest
      exact absurd ⟨ps, hps, [], rest, by simp [sequence, escape]⟩ hnone
    | case3 r _ ih =>
      have hrest : ¬ HasSequence r := fun ⟨ps, hps, hin⟩ =>
        hnone ⟨ps, hps, hin.trans (List.suffix_append [escape, '['] r).isInfix⟩
      rw [ih hrest]
      rfl
    | case4 c r _ ih =>
      have hrest : ¬ HasSequence r := fun ⟨ps, hps, hin⟩ => hnone ⟨ps, hps, hin.trans (List.suffix_cons c r).isInfix⟩
      rw [ih hrest]

/-- Where no sequence can go on into `u`, a text is left as it is exactly if both its parts
are. -/
theorem strip_append_eq_self_iff {t u : List Char} (hu : breaks u = true) :
    strip (t ++ u) = t ++ u ↔ strip t = t ∧ strip u = u := by
  rw [strip_append t hu]
  constructor
  · intro h
    have ht := length_strip_le t
    have hu := length_strip_le u
    have hlength := congrArg List.length h
    rw [List.length_append, List.length_append] at hlength
    exact List.append_inj h (by omega)
  · rintro ⟨ht, hu⟩
    rw [ht, hu]

theorem strip_append_of_not_mem_eq_self_iff {f t : List Char} (hf : escape ∉ f) :
    strip (f ++ t) = f ++ t ↔ strip t = t := by
  rw [strip_append_of_not_mem hf, List.append_cancel_left_eq]

theorem strip_eq_self_of_not_mem {t : List Char} (h : escape ∉ t) : strip t = t := by
  have hstrip := strip_append_of_not_mem h []
  rwa [strip, List.append_nil] at hstrip

/-! ## Lines -/

theorem strip_intercalate (ls : List (List Char)) :
    strip (['\n'].intercalate ls) = ['\n'].intercalate (ls.map strip) := by
  induction ls with
  | nil => rw [List.intercalate_nil, strip]; rfl
  | cons l ls ih =>
    by_cases hls : ls = []
    · subst hls
      rw [List.intercalate_singleton, List.map_singleton, List.intercalate_singleton]
    · rw [List.intercalate_cons_of_ne_nil hls, List.map_cons, List.intercalate_cons_of_ne_nil (by simpa using hls),
        List.append_assoc, strip_append l rfl, strip_append_of_not_mem (by decide), ih, List.append_assoc]

theorem strip_intercalate_eq_self_iff (ls : List (List Char)) :
    strip (['\n'].intercalate ls) = ['\n'].intercalate ls ↔ ∀ l ∈ ls, strip l = l := by
  induction ls with
  | nil => simp [strip]
  | cons l ls ih =>
    by_cases hls : ls = []
    · subst hls
      simp
    · rw [List.intercalate_cons_of_ne_nil hls, List.append_assoc, strip_append_eq_self_iff rfl,
        strip_append_of_not_mem_eq_self_iff (by decide), ih, List.forall_mem_cons]

/-! ## Texts in a style -/

theorem isParameter_parameters (style : Style) : ∀ c ∈ style.parameters, isParameter c = true := by
  cases style <;> simp [Style.parameters, isParameter]

section

variable (start : List Char)

theorem restart_reset (r : List Char) : restart start (reset ++ r) = reset ++ (start ++ restart start r) := by
  rw [← List.append_assoc]
  rfl

theorem restart_cons {c : Char} {r : List Char} (h : c = escape → ∀ r', r ≠ '[' :: '0' :: 'm' :: r') :
    restart start (c :: r) = c :: restart start r := by
  rw [restart]
  rintro r' hc hr
  exact h hc r' hr

theorem restart_cons_of_ne {c : Char} {r : List Char} (h : c ≠ escape) :
    restart start (c :: r) = c :: restart start r := restart_cons start fun hc => absurd hc h

/-- A text begins as it did. -/
theorem exists_restart_cons (c : Char) (r : List Char) : ∃ u, restart start (c :: r) = c :: u := by
  by_cases h : c = escape ∧ ∃ r', r = '[' :: '0' :: 'm' :: r'
  · obtain ⟨rfl, r', rfl⟩ := h
    exact ⟨_, restart_reset start r'⟩
  · exact ⟨_, restart_cons start fun hc r' hr => h ⟨hc, r', hr⟩⟩

/-- The parameters of a sequence stay as they are, since none is an escape. -/
theorem afterParameters?_restart (t : List Char) :
    afterParameters? (restart start t) = (afterParameters? t).map (restart start) := by
  fun_induction afterParameters? t with
  | case1 => rfl
  | case2 c r hc =>
    obtain rfl := beq_iff_eq.1 hc
    rw [restart_cons_of_ne start (by decide)]
    rfl
  | case3 c r hend hc ih =>
    have hne : c ≠ escape := by
      rintro rfl
      cases hc
    rw [restart_cons_of_ne start hne, afterParameters?, if_neg hend, if_pos hc, ih]
  | case4 c r hend hc =>
    obtain ⟨u, hu⟩ := exists_restart_cons start c r
    rw [hu, afterParameters?, if_neg hend, if_neg hc]
    rfl

end

theorem strip_reset_append (t : List Char) : strip (reset ++ t) = strip t :=
  strip_sequence (by simp [isParameter]) t

theorem strip_start_append (style : Style) (t : List Char) : strip (style.start ++ t) = strip t :=
  strip_sequence (isParameter_parameters style) t

/-- Starts of a style that are put into a text leave nothing. -/
theorem strip_restart (style : Style) (t : List Char) : strip (restart style.start t) = strip t := by
  fun_induction strip t with
  | case1 => rw [restart, strip]
  | case2 r rest hrest ih =>
    by_cases hreset : ∃ r', r = '0' :: 'm' :: r'
    · obtain ⟨r', rfl⟩ := hreset
      obtain rfl : r' = rest := Option.some.inj hrest
      rw [← ih]
      exact (congrArg strip (restart_reset style.start r')).trans
        ((strip_reset_append _).trans (strip_start_append style _))
    · have hafter : afterParameters? (restart style.start r) = some (restart style.start rest) := by
        rw [afterParameters?_restart, hrest]
        rfl
      rw [restart_cons _ (fun _ => by simpa using hreset), restart_cons_of_ne _ (by decide)]
      exact (strip_of_some hafter).trans ih
  | case3 r hrest ih =>
    have hafter : afterParameters? (restart style.start r) = none := by
      rw [afterParameters?_restart, hrest]
      rfl
    have hreset : ∀ r', r ≠ '0' :: 'm' :: r' := by
      rintro r' rfl
      cases hrest
    rw [restart_cons _ (fun _ => by simpa using hreset), restart_cons_of_ne _ (by decide), ← ih]
    exact strip_of_none hafter
  | case4 c r hother ih =>
    rw [restart_cons, strip_cons, ih]
    · -- what follows begins as before, so no sequence begins here that did not
      rintro rfl r' hr
      cases r with
      | nil => cases hr
      | cons d r =>
        obtain ⟨u, hu⟩ := exists_restart_cons style.start d r
        rw [hu] at hr
        obtain ⟨rfl, -⟩ := List.cons.inj hr
        exact hother r rfl rfl
    · rintro rfl r' rfl
      exact hother _ rfl rfl

/-- **A style adds nothing but sequences**: what is left of a text is the same with it. -/
theorem strip_paint (style : Style) (s : String) : strip (style.paint s).toList = strip s.toList := by
  have hreset : strip reset = [] := by rw [← List.append_nil reset, strip_reset_append, strip]
  rw [Style.paint, String.toList_ofList, List.append_assoc, strip_start_append, strip_append _ rfl, strip_restart,
    hreset, List.append_nil]

end DecoderBench.Terminal
