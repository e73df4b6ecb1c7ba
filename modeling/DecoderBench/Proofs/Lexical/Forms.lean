/-
The forms of decoders and of views: a decoder is the decoder type, alone or with its
payload behind it, and a view is the view type with something behind it, alone or
after one arrow. These are the only types that are read so, and their payloads and
inputs are read as they are written (`forms_read`).
-/
import DecoderBench.Proofs.Lexical

namespace DecoderBench.Lexical

open Text

/-- A text of blanks, or of nothing. -/
def Blank (s : String) : Prop := ∀ c ∈ s.toList, isBlank c = true

/-- A text in which no arrow stands. -/
def ArrowFree (s : String) : Prop := ¬['-', '>'] <:+: s.toList

/-- A type that can stand in front of others: a token without an arrow. -/
structure IsHead (head : String) : Prop where
  isToken : IsToken head.toList
  arrowFree : ArrowFree head

/-- The types of decoders of the type `head`, each with its payload. -/
inductive IsDecoderOf (head : String) : (payload type : String) → Prop
  /-- The decoder type alone. It is its own payload, with the blanks around it. -/
  | bare {type : String} : IsHead head → trim type.toList = head.toList → IsDecoderOf head type type
  /-- The decoder type, blanks and the payload, with blanks around or not. -/
  | applied {before between payload after : String} : IsHead head → Blank before → Blank between →
      between ≠ "" → payload ≠ "" → IsTrimmed payload.toList → ArrowFree payload → Blank after →
      IsDecoderOf head payload (before ++ head ++ between ++ payload ++ after)

/-- The results of views of the type `head`: it is applied to something. -/
inductive IsResult (head : String) : String → Prop
  | mk {before between arguments : String} : IsHead head → Blank before → Blank between → between ≠ "" →
      ArrowFree arguments → ¬Blank arguments → IsResult head (before ++ head ++ between ++ arguments)

/-- The types of views of the type `head`, each with its input. -/
inductive IsViewOf (head : String) : (input : Option String) → (type : String) → Prop
  /-- A view that takes no argument. -/
  | value {result : String} : IsResult head result → IsViewOf head none result
  /-- A view of one argument, which is its input when it is trimmed. -/
  | function {argument result : String} : ArrowFree argument → IsResult head result →
      IsViewOf head (some (String.ofList (trim argument.toList))) (argument ++ "->" ++ result)

variable {head type : String}

theorem arrowFree_iff {s : String} : ArrowFree s ↔ hasArrow s.toList = false := by
  rw [ArrowFree, ← hasArrow_iff_infix, Bool.not_eq_true]

theorem blank_ofList {t : List Char} : Blank (String.ofList t) ↔ ∀ c ∈ t, isBlank c = true := by
  rw [Blank, String.toList_ofList]

/-! ## Decoders -/

theorem payload_eq_rest (h : hasArrow type.toList = false) : payload type = rest type := by
  rcases payload_cases type with ⟨p, -, hp⟩ | ⟨p, q, ps, hpieces, -⟩
  · exact hp
  · simp [hasArrow, hpieces] at h

theorem dropWhile_token_append {w t : List Char} (hw : IsToken w) (ht : StartsApart t) :
    (w ++ t).dropWhile (fun c => !isBlank c) = t := by
  rw [List.dropWhile_append_of_pos fun c hc => by rw [hw.solid c hc, Bool.not_false]]
  cases t with
  | nil => rfl
  | cons c t => rw [List.dropWhile_cons_of_neg (by simp [ht c (by simp)])]

theorem rest_of_bare (hhead : IsHead head) (h : trim type.toList = head.toList) : rest type = type := by
  have hdrop := dropWhile_token_append hhead.isToken (t := []) (by simp [StartsApart])
  rw [List.append_nil] at hdrop
  simp only [rest, h, hdrop, if_pos]

theorem rest_of_applied {a b p c : List Char} (hhead : IsHead head) (ha : ∀ x ∈ a, isBlank x = true)
    (hb : ∀ x ∈ b, isBlank x = true) (hbne : b ≠ []) (hpne : p ≠ []) (hp : IsTrimmed p)
    (hc : ∀ x ∈ c, isBlank x = true) (h : type.toList = a ++ head.toList ++ b ++ p ++ c) :
    rest type = String.ofList p := by
  have hwhole : IsTrimmed (head.toList ++ b ++ p) :=
    hhead.isToken.isTrimmed.append hp hhead.isToken.ne_nil hpne b
  have htrim : trim type.toList = head.toList ++ (b ++ p) := by
    rw [h, ← List.append_assoc, ← hwhole.trim_eq ha hc]
    simp only [List.append_assoc]
  have hdrop := dropWhile_token_append hhead.isToken (startsApart_append hb hbne p)
  have hpayload : trim (b ++ p) = p := by simpa using hp.trim_eq hb (b := []) (by simp)
  simp only [rest, htrim, hdrop, hpayload]
  rw [if_neg (by simp [hbne])]

theorem hasArrow_of_tokens {t : List Char} {ws : List (List Char)} (hhead : IsHead head)
    (h : tokens t = head.toList :: ws) : hasArrow t = ws.any hasArrow := by
  rw [hasArrow_eq_any, h, List.any_cons, arrowFree_iff.1 hhead.arrowFree, Bool.false_or]

/-- Each form of a decoder is read as one, with its payload. -/
theorem IsDecoderOf.read {p : String} (h : IsDecoderOf head p type) :
    isDecoder head type = true ∧ payload type = p := by
  cases h with
  | bare hhead htrim =>
    have htokens : tokens type.toList = [head.toList] := by rw [← tokens_trim, htrim, hhead.isToken.tokens_eq]
    have harrow : hasArrow type.toList = false := hasArrow_of_tokens hhead htokens
    refine ⟨?_, (payload_eq_rest harrow).trans (rest_of_bare hhead htrim)⟩
    rw [isDecoder, harrow, htokens]
    simp
  | @applied before between _ after hhead hbefore hbetween hne hpne hp hfree hafter =>
    generalize htype : before ++ head ++ between ++ p ++ after = type
    have htoList : type.toList = before.toList ++ head.toList ++ between.toList ++ p.toList ++ after.toList := by
      simp only [← htype, String.toList_append]
    have htokens : tokens type.toList = head.toList :: tokens p.toList := by
      rw [htoList, tokens_append_blank _ hafter,
        tokens_cons_of_blank hbefore hhead.isToken hbetween (mt String.toList_eq_nil_iff.1 hne)]
    have harrow : hasArrow type.toList = false := by
      rw [hasArrow_of_tokens hhead htokens, ← hasArrow_eq_any, arrowFree_iff.1 hfree]
    constructor
    · rw [isDecoder, harrow, htokens]
      simp
    · rw [payload_eq_rest harrow,
        rest_of_applied hhead hbefore hbetween (mt String.toList_eq_nil_iff.1 hne)
          (mt String.toList_eq_nil_iff.1 hpne) hp hafter htoList,
        String.ofList_toList]

/-- What is read as a decoder has one of the forms. -/
theorem exists_isDecoderOf (h : isDecoder head type = true) : ∃ p, IsDecoderOf head p type := by
  rw [isDecoder_eq, Bool.and_eq_true, Bool.not_eq_true', beq_iff_eq, List.head?_eq_some_iff] at h
  obtain ⟨harrow, ws, htokens⟩ := h
  obtain ⟨harrowHead, harrowRest⟩ := by simpa only [htokens, List.any_cons, Bool.or_eq_false_iff] using harrow
  cases ws with
  | nil =>
    obtain ⟨a, r, ha, hhead, -, htype, hr⟩ := exists_of_tokens_eq_cons htokens
    refine ⟨type, .bare ⟨hhead, arrowFree_iff.2 harrowHead⟩ ?_⟩
    rw [htype, hhead.isTrimmed.trim_eq ha (tokens_eq_nil_iff.1 hr)]
  | cons v ws =>
    obtain ⟨a, b, r, ha, hhead, hb, hbne, htype, hr⟩ := exists_of_tokens_eq_cons_cons htokens
    obtain ⟨b', c, hb', hc, hrest⟩ := exists_eq_append_trim r
    have hpne : trim r ≠ [] := by
      intro hnil
      rw [← tokens_trim, hnil] at hr
      cases hr
    have hfree : ArrowFree (String.ofList (trim r)) := by
      rw [arrowFree_iff, String.toList_ofList, hasArrow_eq_any, tokens_trim, hr, harrowRest]
    have hbetween : ∀ x ∈ b ++ b', isBlank x = true := fun x hx => (List.mem_append.1 hx).elim (hb x) (hb' x)
    have heq : type =
        String.ofList a ++ head ++ String.ofList (b ++ b') ++ String.ofList (trim r) ++ String.ofList c := by
      apply String.toList_injective
      simp only [String.toList_append, String.toList_ofList]
      rw [htype, hrest]
      simp only [List.append_assoc, ← hrest]
    rw [heq]
    exact ⟨_, .applied ⟨hhead, arrowFree_iff.2 harrowHead⟩ (blank_ofList.2 ha) (blank_ofList.2 hbetween)
      (by simp [hbne]) (by simpa using hpne) (by simpa using isTrimmed_trim r) hfree (blank_ofList.2 hc)⟩

/-! ## Views -/

theorem IsResult.read {result : String} (h : IsResult head result) :
    isApplied head result.toList = true ∧ hasArrow result.toList = false := by
  obtain @⟨before, between, arguments, hhead, hbefore, hbetween, hne, hfree, hmore⟩ := h
  have htokens : tokens (before ++ head ++ between ++ arguments).toList = head.toList :: tokens arguments.toList := by
    simp only [String.toList_append]
    exact tokens_cons_of_blank hbefore hhead.isToken hbetween (mt String.toList_eq_nil_iff.1 hne)
  constructor
  · obtain ⟨w, ws, hws⟩ := List.exists_cons_of_ne_nil (mt tokens_eq_nil_iff.1 hmore)
    rw [isApplied_eq, htokens, hws]
    simp [areApplied]
  · rw [hasArrow_of_tokens hhead htokens, ← hasArrow_eq_any, arrowFree_iff.1 hfree]

theorem isResult_of_isApplied {result : String} (h : isApplied head result.toList = true)
    (harrow : hasArrow result.toList = false) : IsResult head result := by
  rw [isApplied_eq] at h
  obtain ⟨v, ws, htokens⟩ : ∃ v ws, tokens result.toList = head.toList :: v :: ws := by
    unfold areApplied at h
    split at h
    · rename_i first v ws htokens
      exact ⟨v, ws, by rw [htokens, beq_iff_eq.1 h]⟩
    · cases h
  obtain ⟨a, b, r, ha, hhead, hb, hbne, hresult, hr⟩ := exists_of_tokens_eq_cons_cons htokens
  rw [hasArrow_eq_any, htokens, List.any_cons, Bool.or_eq_false_iff, ← hr, ← hasArrow_eq_any] at harrow
  have hmore : ¬Blank (String.ofList r) := by
    rw [blank_ofList, ← tokens_eq_nil_iff, hr]
    simp
  have heq : result = String.ofList a ++ head ++ String.ofList b ++ String.ofList r := by
    apply String.toList_injective
    simp only [String.toList_append, String.toList_ofList, hresult]
  rw [heq]
  exact .mk ⟨hhead, arrowFree_iff.2 harrow.1⟩ (blank_ofList.2 ha) (blank_ofList.2 hb) (by simpa using hbne)
    (by rw [arrowFree_iff, String.toList_ofList, harrow.2]) hmore

/-- Each form of a view is read as one, with its input. -/
theorem IsViewOf.read {i : Option String} (h : IsViewOf head i type) : isView head type = true ∧ input? type = i := by
  cases h with
  | value hresult =>
    obtain ⟨happlied, harrow⟩ := hresult.read
    have hpieces := hasArrow_eq_false_iff.1 harrow
    exact ⟨by rw [isView, hpieces]; exact happlied, by rw [input?, hpieces]⟩
  | @function argument result hargument hresult =>
    obtain ⟨happlied, harrow⟩ := hresult.read
    have hpieces : arrowPieces (argument ++ "->" ++ result).toList = [argument.toList, result.toList] := by
      rw [String.toList_append, String.toList_append, List.append_assoc]
      change arrowPieces (argument.toList ++ '-' :: '>' :: result.toList) = _
      rw [arrowPieces_arrow, hasArrow_eq_false_iff.1 harrow, hasArrow_eq_false_iff.1 (arrowFree_iff.1 hargument)]
      rfl
    exact ⟨by rw [isView, hpieces]; exact happlied, by rw [input?, hpieces]⟩

/-- What is read as a view has one of the forms. -/
theorem exists_isViewOf (h : isView head type = true) : ∃ i, IsViewOf head i type := by
  unfold isView at h
  split at h
  · rename_i result hpieces
    have harrow : hasArrow type.toList = false := by simp [hasArrow, hpieces]
    obtain rfl : type.toList = result := by simpa using (hasArrow_eq_false_iff.1 harrow).symm.trans hpieces
    exact ⟨none, .value (isResult_of_isApplied h harrow)⟩
  · rename_i argument result hpieces
    obtain ⟨htype, hargument, hresult⟩ := exists_of_arrowPieces_eq_pair hpieces
    have heq : type = String.ofList argument ++ "->" ++ String.ofList result := by
      apply String.toList_injective
      rw [htype]
      simp
    rw [heq]
    exact ⟨_, .function (by rw [arrowFree_iff, String.toList_ofList, hargument])
      (isResult_of_isApplied (by rwa [String.toList_ofList]) (by rwa [String.toList_ofList]))⟩
  · cases h

/-! ## Both -/

/-- **The forms that are read.** A type is a decoder of the type `head` with a payload
exactly if it has one of the forms of such decoders: `head` alone, and then the payload is
the type as it stands, or `head`, blanks and the payload, with blanks around. It is a view
of the type `head` with an input exactly if it has one of the forms of such views: `head`
applied to something, alone or behind an argument and an arrow, and then the input is the
argument without the blanks around it. The views without an input are those without an
arrow. -/
theorem forms_read (head type : String) :
    (∀ p, isDecoder head type = true ∧ payload type = p ↔ IsDecoderOf head p type) ∧
      (∀ i, isView head type = true ∧ input? type = i ↔ IsViewOf head i type) ∧
      (isView head type = true ∧ ArrowFree type ↔ IsViewOf head none type) := by
  refine ⟨fun p => ⟨?_, IsDecoderOf.read⟩, fun i => ⟨?_, IsViewOf.read⟩, ?_, ?_⟩
  · rintro ⟨hdecoder, rfl⟩
    obtain ⟨p, hp⟩ := exists_isDecoderOf hdecoder
    rwa [hp.read.2]
  · rintro ⟨hview, rfl⟩
    obtain ⟨i, hi⟩ := exists_isViewOf hview
    rwa [hi.read.2]
  · rintro ⟨hview, harrow⟩
    obtain ⟨i, hi⟩ := exists_isViewOf hview
    cases hi with
    | value hresult => exact .value hresult
    | @function argument result => exact absurd ⟨argument.toList, result.toList, by simp⟩ harrow
  · intro hi
    refine ⟨hi.read.1, ?_⟩
    cases hi with
    | value hresult => exact arrowFree_iff.2 hresult.read.2

/-- Arrows are found from the left, so one dash more belongs to the argument. -/
example : isView "Html.Html" "a-->Html.Html msg" = true ∧ input? "a-->Html.Html msg" = some "a-" := by
  decide

end DecoderBench.Lexical
