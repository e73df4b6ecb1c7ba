/-
What the tokens of a type decide: whether it is a decoder or a view (`isDecoder_eq`,
`isView_eq`), and the tokens of its payload and of its input (`tokens_payload`,
`tokens_input?`), so that types which differ in blanks only are sorted alike and have
payloads which differ in blanks only. A type is a view of one view type at most
(`eq_of_isView`), and a decoder is a view of no type but its own
(`eq_of_isDecoder_of_isView`).
-/
import DecoderBench.Lexical
import DecoderBench.Proofs.Text.Arrow

namespace DecoderBench.Lexical

open Text

/-! ## Payloads -/

/-- What follows the first token of a type, or the type as it stands where nothing does. -/
def rest (type : String) : String :=
  let r := (trim type.toList).dropWhile fun c => !isBlank c
  if r = [] then type else String.ofList (trim r)

theorem payload_cases (type : String) :
    (∃ p, arrowPieces type.toList = [p] ∧ payload type = rest type) ∨
      ∃ argument p ps, arrowPieces type.toList = argument :: p :: ps ∧
        payload type = String.ofList (trim argument) := by
  unfold payload rest
  rcases h : arrowPieces type.toList with _ | ⟨argument, _ | ⟨p, ps⟩⟩
  · exact absurd h (arrowPieces_ne_nil _)
  · refine .inl ⟨argument, rfl, ?_⟩
    cases (trim type.toList).dropWhile fun c => !isBlank c <;> rfl
  · exact .inr ⟨argument, p, ps, rfl, rfl⟩

/-! ## Their tokens -/

/-- The tokens behind the first, or all of them where there are no others. -/
def behindFirst : List (List Char) → List (List Char)
  | _ :: w :: ws => w :: ws
  | ws => ws

/-- The tokens of the payload of a type that has the tokens `ws`. -/
def payloadTokens (ws : List (List Char)) : List (List Char) :=
  match tokenPieces ws with
  | argument :: _ :: _ => argument
  | _ => behindFirst ws

/-- A trimmed text is one token at most, or it is one token and what else it holds. -/
theorem tokens_behind_first {t : List Char} (h : IsTrimmed t) :
    (t.dropWhile (fun c => !isBlank c) = [] → (tokens t).length ≤ 1) ∧
      (t.dropWhile (fun c => !isBlank c) ≠ [] →
        ∃ w, tokens t = w :: tokens (t.dropWhile fun c => !isBlank c)) := by
  cases t with
  | nil => simp
  | cons c t =>
    have hc : isBlank c = false := h.first c (by simp)
    have ht := tokens_token_append (isToken_takeWhile (t := t) hc) (startsApart_dropWhile (c :: t))
    rw [List.takeWhile_append_dropWhile] at ht
    exact ⟨fun he => by simp [ht, he], fun _ => ⟨_, ht⟩⟩

/-- The tokens behind the first are what is left, and none are left only if nothing is. -/
theorem tokens_rest (type : String) : tokens (rest type).toList = behindFirst (tokens type.toList) := by
  have hsplit := tokens_behind_first (isTrimmed_trim type.toList)
  rw [tokens_trim] at hsplit
  simp only [rest]
  by_cases hr : ((trim type.toList).dropWhile fun c => !isBlank c) = []
  · have hlen := hsplit.1 hr
    rw [if_pos hr]
    rcases hws : tokens type.toList with _ | ⟨w, _ | ⟨v, ws⟩⟩
    · rfl
    · rfl
    · simp [hws] at hlen
  · have hne := (isTrimmed_trim type.toList).tokens_suffix_ne_nil (List.dropWhile_suffix _) hr
    obtain ⟨w, hw⟩ := hsplit.2 hr
    obtain ⟨v, ws, hv⟩ := List.exists_cons_of_ne_nil hne
    rw [if_neg hr, String.toList_ofList, tokens_trim, hw, hv, behindFirst]

/-- **The tokens of a type decide the tokens of its payload.** -/
theorem tokens_payload (type : String) :
    tokens (payload type).toList = payloadTokens (tokens type.toList) := by
  rw [payloadTokens, ← map_tokens_arrowPieces]
  rcases payload_cases type with ⟨p, hp, h⟩ | ⟨argument, p, ps, hp, h⟩
  · rw [h, hp, tokens_rest]
    rfl
  · rw [h, hp, String.toList_ofList, tokens_trim]
    rfl

/-- Types that have the same tokens have payloads that have the same tokens. -/
theorem tokens_payload_congr {s t : String} (h : tokens s.toList = tokens t.toList) :
    tokens (payload s).toList = tokens (payload t).toList := by
  rw [tokens_payload, tokens_payload, h]

/-! ## Decoders, views and inputs -/

/-- A decoder is told by its tokens: none of them holds an arrow, and the first is the
decoder type. -/
theorem isDecoder_eq (head type : String) :
    isDecoder head type =
      (!(tokens type.toList).any hasArrow && (tokens type.toList).head? == some head.toList) := by
  rw [isDecoder, hasArrow_eq_any]

/-- Whether tokens are `head` and more behind it. -/
def areApplied (head : String) : List (List Char) → Bool
  | first :: _ :: _ => first == head.toList
  | _ => false

theorem isApplied_eq (head : String) (result : List Char) :
    isApplied head result = areApplied head (tokens result) := rfl

/-- Whether a type that has the tokens `ws` is a view. -/
def areView (head : String) (ws : List (List Char)) : Bool :=
  match tokenPieces ws with
  | [result] => areApplied head result
  | [_, result] => areApplied head result
  | _ => false

theorem isView_eq (head type : String) : isView head type = areView head (tokens type.toList) := by
  rw [isView, areView, ← map_tokens_arrowPieces]
  rcases arrowPieces type.toList with _ | ⟨p, _ | ⟨q, _ | ⟨r, ps⟩⟩⟩
  · rfl
  · exact isApplied_eq head p
  · exact isApplied_eq head q
  · rfl

/-- The tokens of the input of a type that has the tokens `ws`. -/
def inputTokens? (ws : List (List Char)) : Option (List (List Char)) :=
  match tokenPieces ws with
  | [argument, _] => some argument
  | _ => none

/-- **The tokens of a type decide the tokens of its input.** -/
theorem tokens_input? (type : String) :
    (input? type).map (fun i => tokens i.toList) = inputTokens? (tokens type.toList) := by
  rw [input?, inputTokens?, ← map_tokens_arrowPieces]
  rcases arrowPieces type.toList with _ | ⟨p, _ | ⟨q, _ | ⟨r, ps⟩⟩⟩
  · rfl
  · rfl
  · simp [String.toList_ofList]
  · rfl

/-! ## View types -/

variable {head head' type : String}

theorem eq_of_isApplied {result : List Char} (h : isApplied head result = true) (h' : isApplied head' result = true) :
    head = head' := by
  unfold isApplied at h h'
  split at h
  · rename_i first second rest hresult
    simp only [hresult, beq_iff_eq] at h'
    exact String.toList_injective ((beq_iff_eq.1 h).symm.trans h')
  · cases h

/-- A view's result is one type applied to something, so it is a view of no other type. -/
theorem eq_of_isView (h : isView head type = true) (h' : isView head' type = true) : head = head' := by
  unfold isView at h h'
  split at h
  · rename_i result hpieces
    rw [hpieces] at h'
    exact eq_of_isApplied h h'
  · rename_i argument result hpieces
    rw [hpieces] at h'
    exact eq_of_isApplied h h'
  · cases h

/-! ## Decoders that are views -/

theorem isView_of_hasArrow_eq_false (h : hasArrow type.toList = false) :
    isView head type = areApplied head (tokens type.toList) := by
  rw [isView, hasArrow_eq_false_iff.1 h]
  exact isApplied_eq head type.toList

theorem exists_of_isDecoder (h : isDecoder head type = true) :
    hasArrow type.toList = false ∧ ∃ ws, tokens type.toList = head.toList :: ws := by
  rw [isDecoder, Bool.and_eq_true, Bool.not_eq_true', beq_iff_eq, List.head?_eq_some_iff] at h
  exact h

/-- A decoder is a view of no type but its own, -/
theorem eq_of_isDecoder_of_isView (h : isDecoder head type = true) (h' : isView head' type = true) : head = head' := by
  obtain ⟨harrow, ws, htokens⟩ := exists_of_isDecoder h
  rw [isView_of_hasArrow_eq_false harrow, htokens] at h'
  cases ws with
  | nil => cases h'
  | cons w ws => exact String.toList_injective (beq_iff_eq.1 h')

/-- and of that type if anything stands behind it. -/
theorem isView_iff_of_isDecoder (h : isDecoder head type = true) :
    isView head type = true ↔ 2 ≤ (tokens type.toList).length := by
  obtain ⟨harrow, ws, htokens⟩ := exists_of_isDecoder h
  rw [isView_of_hasArrow_eq_false harrow, htokens]
  cases ws <;> simp [areApplied]

end DecoderBench.Lexical
