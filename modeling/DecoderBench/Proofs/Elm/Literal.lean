/-
String literals read back. A literal is read up to its own closing quote, whatever text
stands in it and whatever follows it, and it stays on its line (`literal_is_closed`). So
no two texts have one literal, and no literal is the start of another one
(`literal_append_inj`).
-/
import DecoderBench.Elm.Literal
import Mathlib.Logic.Function.Basic

namespace DecoderBench.Elm

/-! ## Characters -/

/-- An escaped character is read as the character that it was, and nothing behind it is
touched. -/
theorem scanBody_escape (c : Char) (r : List Char) :
    scanBody (escape c ++ r) = (scanBody r).map fun s => (c :: s.1, s.2) := by
  unfold escape
  split
  case h_6 hquote hbackslash hnewline hreturn _ =>
    have hplain : (c == '\n' || c == '\r') = false :=
      Bool.or_eq_false_iff.2 ⟨beq_false_of_ne hnewline, beq_false_of_ne hreturn⟩
    rw [List.singleton_append, scanBody, hplain]
    · rfl
    · exact hquote
    · exact fun _ _ hc => absurd hc hbackslash
  all_goals
    cases h : scanBody r <;> simp [scanBody, unescape?, h]

/-- No escaped character breaks a line or holds a tab. -/
theorem not_mem_escape (c : Char) : '\n' ∉ escape c ∧ '\r' ∉ escape c ∧ '\t' ∉ escape c := by
  unfold escape
  split
  case h_6 _ _ hnewline hreturn htab =>
    simp only [List.mem_singleton]
    exact ⟨Ne.symm hnewline, Ne.symm hreturn, Ne.symm htab⟩
  all_goals decide

/-! ## Texts -/

theorem scanBody_flatMap (t r : List Char) : scanBody (t.flatMap escape ++ '"' :: r) = some (t, r) := by
  induction t with
  | nil => rw [List.flatMap_nil, List.nil_append, scanBody]
  | cons c t ih => rw [List.flatMap_cons, List.append_assoc, scanBody_escape, ih, Option.map_some]

theorem scanLiteral_literal (s : String) (r : List Char) :
    scanLiteral ((literal s).toList ++ r) = some (s.toList, r) := by
  rw [literal, String.toList_ofList, List.cons_append, scanLiteral, List.append_assoc, List.singleton_append,
    scanBody_flatMap]

theorem not_mem_literal {c : Char} (hquote : c ≠ '"') (h : ∀ d, c ∉ escape d) (s : String) :
    c ∉ (literal s).toList := by
  rw [literal, String.toList_ofList]
  simpa [hquote] using fun d _ => h d

/-- Where literals stand in front, they and what follows them can be told apart. -/
theorem literal_append_inj {s t : String} {r u : List Char}
    (h : (literal s).toList ++ r = (literal t).toList ++ u) : s = t ∧ r = u := by
  have hread := scanLiteral_literal s r
  rw [h, scanLiteral_literal] at hread
  simp only [Option.some.injEq, Prod.mk.injEq, String.toList_inj] at hread
  exact ⟨hread.1.symm, hread.2.symm⟩

theorem literal_injective : Function.Injective literal := by
  intro s t h
  have hfront : (literal s).toList ++ [] = (literal t).toList ++ [] := by rw [h]
  exact (literal_append_inj hfront).1

/-- **Nothing breaks out of a literal.** Read in front of any text, a literal is taken
whole, gives back the text that it was made for, and leaves the other text as it is. It
holds no line break and no tab, whatever the text holds. And no two texts have one
literal. -/
theorem literal_is_closed :
    (∀ s r : String, scanLiteral (literal s ++ r).toList = some (s.toList, r.toList)) ∧
    (∀ s : String, '\n' ∉ (literal s).toList ∧ '\r' ∉ (literal s).toList ∧ '\t' ∉ (literal s).toList) ∧
    Function.Injective literal := by
  refine ⟨fun s r => ?_, fun s => ⟨?_, ?_, ?_⟩, literal_injective⟩
  · rw [String.toList_append, scanLiteral_literal]
  · exact not_mem_literal (by decide) (fun d => (not_mem_escape d).1) s
  · exact not_mem_literal (by decide) (fun d => (not_mem_escape d).2.1) s
  · exact not_mem_literal (by decide) (fun d => (not_mem_escape d).2.2) s

/-- Quotes, a backslash and a line break in a text, as they stand in its literal. -/
example : literal "a \"b\"\\\n" = "\"a \\\"b\\\"\\\\\\n\"" := by decide

end DecoderBench.Elm
