/-
The case expressions and the tables of the generated program against the constructors
that it declares, all of them read back from the rendered text. Every case expression has
one branch for each declared constructor, in the order of the declaration, and the tables
use what is declared, all of it, unless there is nothing to use: then a sentinel is declared
that no row uses (`branches_exhaustive`). A payload, a view or a decoder whose text does
not close its brackets breaks this (`unbalanced_texts_break_out`).
-/
import DecoderBench.Proofs.Constructors
import DecoderBench.Proofs.Elm.Reading
import DecoderBench.Settings

namespace DecoderBench

theorem Identifier.isToken_of_isConstructor {name : String} (h : isConstructor name = true) :
    Text.IsToken name.toList where
  ne_nil := by
    intro hnil
    rw [isConstructor, hnil] at h
    cases h
  solid := fun c hc => isBlank_of_isWord (isWord_of_isConstructor h c hc)

namespace Elm

open Identifier (isConstructor isToken_of_isConstructor isWord_of_isConstructor)

variable {name : String} (h : isConstructor name = true)
include h

theorem word_of_isConstructor {rest : List Char} (hrest : Text.StartsApart rest) :
    word (name.toList ++ rest) = name := by
  rw [word, Text.tokens_token_append (isToken_of_isConstructor h) hrest, List.head?_cons, Option.getD_some,
    String.ofList_toList]

theorem isWord_of_mem_name {c : Char} (hc : c ∈ name.toList) : Identifier.isWord c = true :=
  isWord_of_isConstructor h c hc

variable {isMark : Char → Bool} (hmark : ∀ c, Identifier.isWord c = true → isMark c = false)
include hmark

/-- A constructor leaves one where one was. -/
theorem through_constructor (r : List Char) : through isMark {} (name.toList ++ r) = through isMark {} r :=
  through_of_append (through_of_plain (fun _ hc => roleOf_of_isWord (isWord_of_mem_name h hc))
    fun _ _ hc => hmark _ (isWord_of_mem_name h hc)) r

theorem isClosed_constructor (hblank : isMark ' ' = false) : isClosed isMark name = true := by
  rw [isClosed, through_constructor h hmark, through_plain (by decide) hblank]
  rfl

end Elm

namespace Program

/-! ## A type and its sentinel -/

/-- What a type declares that has constructors of the given names, and a sentinel if it
would have none. -/
def declared (sentinel : String) (names : List String) : List String := if names = [] then [sentinel] else names

variable {sentinel : String} {names used : List String}

theorem sentinel_mem_declared_iff (hnew : sentinel ∉ names) : sentinel ∈ declared sentinel names ↔ names = [] := by
  unfold declared
  split
  · simpa
  · simpa [hnew]

/-- Where rows use all names, they use what is declared, except for the sentinel. -/
theorem mem_used_iff (hnew : sentinel ∉ names) (hused : ∀ n, n ∈ used ↔ n ∈ names) (n : String) :
    n ∈ used ↔ n ∈ declared sentinel names ∧ n ≠ sentinel := by
  rw [hused]
  unfold declared
  split
  · rename_i hnone
    simp [hnone]
  · exact ⟨fun hn => ⟨hn, ne_of_mem_of_not_mem hn hnew⟩, And.left⟩

theorem nodup_declared (h : names.Nodup) : (declared sentinel names).Nodup := by
  unfold declared
  split
  · exact List.nodup_singleton sentinel
  · exact h

/-! ## Declarations -/

theorem not_isSeparator_of_isWord (c : Char) (h : Identifier.isWord c = true) : Elm.isSeparator c = false := by
  rw [Elm.isSeparator, Bool.or_eq_false_iff, beq_eq_false_iff_ne, beq_eq_false_iff_ne]
  constructor <;> rintro rfl <;> exact absurd h (by decide)

theorem not_isLineBreak_of_isWord (c : Char) (h : Identifier.isWord c = true) : Elm.isLineBreak c = false := by
  rw [Elm.isLineBreak, beq_eq_false_iff_ne]
  rintro rfl
  exact absurd h (by decide)

theorem isRead_branch {name argument body : String} (hname : Identifier.isConstructor name = true)
    (hargument : argument.toList.all (fun c => Elm.roleOf c == .plain && !Elm.isLineBreak c) = true)
    (hbody : Elm.isClosed Elm.isLineBreak body = true) : (⟨name ++ argument, body⟩ : Elm.Branch).IsRead where
  start := by
    obtain ⟨c, r, hr⟩ := List.exists_cons_of_ne_nil (Identifier.isToken_of_isConstructor hname).ne_nil
    refine ⟨c, by simp [hr], (Identifier.isToken_of_isConstructor hname).solid c (by simp [hr])⟩
  plain := by
    intro c hc
    rw [String.toList_append, List.mem_append] at hc
    rcases hc with hc | hc
    · have hword := Elm.isWord_of_mem_name hname hc
      exact ⟨Elm.roleOf_of_isWord hword, not_isLineBreak_of_isWord c hword⟩
    · simpa using List.all_eq_true.1 hargument c hc
  body := hbody

variable {plan : Plan}

theorem constructors?_viewType (hcon : ∀ v ∈ plan.viewCases, Identifier.isConstructor v.name = true) :
    Elm.constructors? (viewType plan) = some (declared noViews (plan.viewCases.map (·.name))) := by
  unfold viewType viewConstructors declared
  split
  · rename_i hnone
    rw [hnone, Elm.constructors?_union (by decide) (by decide)]
    decide
  · rename_i hne
    have hclosed : ∀ c ∈ plan.viewCases.map (·.name), Elm.isClosed Elm.isSeparator c = true := by
      intro c hc
      obtain ⟨v, hv, rfl⟩ := List.mem_map.1 hc
      exact Elm.isClosed_constructor (hcon v hv) not_isSeparator_of_isWord (by decide)
    rw [if_neg (by simpa using hne), Elm.constructors?_union (by decide) hclosed, List.map_map]
    refine congrArg some (List.map_congr_left fun v hv => ?_)
    have hword : Elm.word (v.name.toList ++ []) = v.name :=
      Elm.word_of_isConstructor (hcon v hv) (by simp [Text.StartsApart])
    rwa [List.append_nil] at hword

variable (hcon : ∀ d ∈ plan.decodedCases, Identifier.isConstructor d.name = true)
include hcon

/-- The type declares a constructor for each case, if its payloads are closed. -/
theorem constructors?_decodedType
    (hclosed : ∀ d ∈ plan.decodedCases, Elm.isClosed Elm.isSeparator (Elm.argument d.payload) = true) :
    Elm.constructors? (decodedType plan) = some (declared noDecoders (plan.decodedCases.map (·.name))) := by
  unfold decodedType decodedConstructors declared
  split
  · rename_i hnone
    rw [hnone, Elm.constructors?_union (by decide) (by decide)]
    decide
  · rename_i hne
    have htext (d : DecodedCase) : (d.name ++ " " ++ Elm.argument d.payload).toList =
        d.name.toList ++ ' ' :: (Elm.argument d.payload).toList := by
      simp
    have hcases : ∀ c ∈ plan.decodedCases.map (fun d => d.name ++ " " ++ Elm.argument d.payload),
        Elm.isClosed Elm.isSeparator c = true := by
      intro c hc
      obtain ⟨d, hd, rfl⟩ := List.mem_map.1 hc
      rw [Elm.isClosed, htext, List.append_assoc, List.cons_append,
        Elm.through_constructor (hcon d hd) not_isSeparator_of_isWord, Elm.through_plain (by decide) (by decide)]
      exact hclosed d hd
    rw [if_neg (by simpa using hne), Elm.constructors?_union (by decide) hcases, List.map_map]
    refine congrArg some (List.map_congr_left fun d hd => ?_)
    rw [Function.comp_apply, htext, Elm.word_of_isConstructor (hcon d hd) (.cons (by decide))]

/-! ## Branches -/

/-- A case expression over decoded values has a branch for each constructor, whatever
its branches come to. -/
theorem branches?_decodedBranches {signature heading sentinelBody : String} {body : DecodedCase → String}
    (hfront : ∀ l ∈ [signature, heading, Elm.indent 1 ++ "case " ++ "decoded" ++ " of"],
      Elm.isClosed Elm.isLineBreak l = true ∧ Elm.branch? l.toList = none)
    (hsentinel : Elm.isClosed Elm.isLineBreak sentinelBody = true)
    (hbody : ∀ d ∈ plan.decodedCases, Elm.isClosed Elm.isLineBreak (body d) = true) :
    Elm.branches? (Elm.lines [signature, heading, Elm.caseOf "decoded" (decodedBranches plan sentinelBody body)]) =
      some (declared noDecoders (plan.decodedCases.map (·.name))) := by
  unfold decodedBranches declared
  split
  · rename_i hnone
    have hread : (⟨noDecoders ++ "", sentinelBody⟩ : Elm.Branch).IsRead :=
      isRead_branch (by decide) (by decide) hsentinel
    rw [String.append_empty] at hread
    rw [hnone, Elm.branches?_caseOf hfront (by simp) (by simpa using hread)]
    change some [Elm.word noDecoders.toList] = some [noDecoders]
    decide
  · rename_i hne
    have hread : ∀ b ∈ plan.decodedCases.map (fun d => (⟨d.name ++ " value", body d⟩ : Elm.Branch)), b.IsRead := by
      intro b hb
      obtain ⟨d, hd, rfl⟩ := List.mem_map.1 hb
      exact isRead_branch (hcon d hd) (by decide) (hbody d hd)
    rw [if_neg (by simpa using hne), Elm.branches?_caseOf hfront (by simpa using hne) hread, List.map_map]
    refine congrArg some (List.map_congr_left fun d hd => ?_)
    have hword : (d.name ++ " value").toList = d.name.toList ++ ' ' :: "value".toList := by simp
    rw [Function.comp_apply, hword, Elm.word_of_isConstructor (hcon d hd) (.cons (by decide))]

theorem branches?_summarizeDecoded :
    Elm.branches? (summarizeDecoded plan) = some (declared noDecoders (plan.decodedCases.map (·.name))) := by
  have hfront : ∀ l ∈ ["summarizeDecoded : DecodedValue -> String", "summarizeDecoded decoded =",
      Elm.indent 1 ++ "case " ++ "decoded" ++ " of"],
      Elm.isClosed Elm.isLineBreak l = true ∧ Elm.branch? l.toList = none := by
    decide
  have hend : Elm.through Elm.isLineBreak {} ("++ toString value".toList ++ [' ']) = some {} := by decide
  have htext (s : String) : (Elm.literal s ++ " ++ toString value").toList ++ [' '] =
      (Elm.literal s).toList ++ ' ' :: ("++ toString value".toList ++ [' ']) := by
    simp
  rw [summarizeDecoded, summaryBranches]
  refine branches?_decodedBranches hcon hfront (by decide) fun d _ => ?_
  rw [Elm.isClosed, htext, Elm.through_literal (fun _ => by decide) (by decide) (fun _ => by decide), hend,
    beq_self_eq_true]

/-- Views are applied between brackets, which they must not close. -/
theorem branches?_viewDecoded (hviews : ∀ d ∈ plan.decodedCases, Elm.isBalanced d.view = true) :
    Elm.branches? (viewDecoded plan) = some (declared noDecoders (plan.decodedCases.map (·.name))) := by
  have hfront : ∀ l ∈ ["viewDecoded : DecodedValue -> Html.Html Msg", "viewDecoded decoded =",
      Elm.indent 1 ++ "case " ++ "decoded" ++ " of"],
      Elm.isClosed Elm.isLineBreak l = true ∧ Elm.branch? l.toList = none := by
    decide
  have hopen : Elm.through Elm.isLineBreak {} "Html.map (always IgnoreViewMsg) (".toList = some ⟨.code, [')']⟩ := by
    decide
  have hclose : Elm.through Elm.isLineBreak ⟨.code, [')']⟩ ("value)".toList ++ [' ']) = some {} := by decide
  have htext (view : String) : ("Html.map (always IgnoreViewMsg) (" ++ view ++ " value)").toList ++ [' '] =
      "Html.map (always IgnoreViewMsg) (".toList ++ (view.toList ++ ' ' :: ("value)".toList ++ [' '])) := by
    simp
  rw [viewDecoded, dispatchBranches]
  refine branches?_decodedBranches hcon hfront (by decide) fun d hd => ?_
  rw [Elm.isClosed, htext, Elm.through_of_append hopen, Elm.through_balanced (hviews d hd) (by simp), hclose,
    beq_self_eq_true]

omit hcon

/-! ## Tables -/

/-- The constructor that an expression wraps decoded values in. -/
def wrapper? (expression : String) : Option String :=
  match Text.tokens expression.toList with
  | function :: constructor :: _ =>
    if function == "Json.Decode.map".toList then some (String.ofList constructor) else none
  | _ => none

theorem toList_wrapped (r : DecoderRow) :
    (wrapped r).toList = "Json.Decode.map ".toList ++ (r.constructor.toList ++ ' ' :: r.reference.toList) := by
  have hblank : " ".toList = [' '] := by decide
  unfold wrapped
  rw [String.toList_append, String.toList_append, String.toList_append, hblank, List.append_assoc,
    List.append_assoc, List.singleton_append]

theorem wrapper?_wrapped {r : DecoderRow} (h : Identifier.isConstructor r.constructor = true) :
    wrapper? (wrapped r) = some r.constructor := by
  have hmap : "Json.Decode.map ".toList = "Json.Decode.map".toList ++ [' '] := by decide
  have htoken : Text.IsToken "Json.Decode.map".toList := .of_all (by decide) (by decide)
  rw [wrapper?, toList_wrapped, hmap, List.append_assoc, List.singleton_append,
    Text.tokens_token_append htoken (.cons (by decide)), Text.tokens_cons (by decide),
    Text.tokens_token_append (Identifier.isToken_of_isConstructor h) (.cons (by decide))]
  simp

theorem isBalanced_wrapped {r : DecoderRow} (hcon : Identifier.isConstructor r.constructor = true)
    (h : Elm.isBalanced r.reference = true) : Elm.isBalanced (wrapped r) = true := by
  have hmap : Elm.through (fun _ => false) {} "Json.Decode.map ".toList = some {} := by decide
  rw [Elm.isBalanced, Elm.isClosed, toList_wrapped, List.append_assoc, List.append_assoc, List.cons_append,
    Elm.through_of_append hmap, Elm.through_constructor hcon (fun _ _ => rfl), Elm.through_plain (by decide) rfl]
  exact h

theorem rows?_decoderTable (h : ∀ r ∈ plan.decoderRows,
    Identifier.isConstructor r.constructor = true ∧ Elm.isBalanced r.reference = true) :
    Elm.rows? (decoderTable plan) = some (plan.decoderRows.map fun r => (r.reference, wrapped r)) := by
  have hrows : ∀ row ∈ plan.decoderRows.map (fun r => (r.reference, wrapped r)), Elm.isBalanced row.2 = true := by
    intro row hrow
    obtain ⟨r, hr, rfl⟩ := List.mem_map.1 hrow
    exact isBalanced_wrapped (h r hr).1 (h r hr).2
  rw [← Elm.rows?_lines ["decodersByName : Dict.Dict String (Json.Decode.Decoder DecodedValue)",
    "decodersByName =", Elm.indent 1 ++ "Dict.fromList"] (by simp) (by decide) 2 hrows, List.map_map]
  rfl

theorem rows?_pairedViews (plan : Plan) :
    Elm.rows? (pairedViews plan) = some (plan.decoderRows.map fun r => (r.reference, Elm.literal r.view)) := by
  have hrows : ∀ row ∈ plan.decoderRows.map (fun r => (r.reference, Elm.literal r.view)),
      Elm.isBalanced row.2 = true := by
    intro row hrow
    obtain ⟨r, -, rfl⟩ := List.mem_map.1 hrow
    rw [Elm.isBalanced, Elm.isClosed, Elm.through_literal (fun _ => rfl) (by decide) (fun _ => rfl)]
    rfl
  rw [← Elm.rows?_lines ["pairedViews : Dict.Dict String String", "pairedViews =", Elm.indent 1 ++ "Dict.fromList"]
    (by simp) (by decide) 2 hrows, List.map_map]
  rfl

theorem rows?_knownViews (h : ∀ v ∈ plan.knownViews, Identifier.isConstructor v.2 = true) :
    Elm.rows? (knownViews plan) = some plan.knownViews := by
  have hrows : ∀ row ∈ plan.knownViews, Elm.isBalanced row.2 = true :=
    fun row hrow => Elm.isClosed_constructor (h row hrow) (fun _ _ => rfl) rfl
  exact Elm.rows?_lines ["knownViews : List ( String, KnownView )", "knownViews ="] (by simp) (by decide) 1 hrows

end Program

/-! ## A program's constructors -/

theorem eq_nil_iff_of_mem_iff {α : Type} {l u : List α} (h : ∀ a, a ∈ l ↔ a ∈ u) : l = [] ↔ u = [] := by
  simp only [List.eq_nil_iff_forall_not_mem, h]

theorem Plan.names_viewCasesOf (classifier : Classifier) (modules : List Module) :
    (viewCasesOf classifier modules).map (·.name) = ((knownViewsOf classifier modules).map (·.2)).eraseDups := by
  rw [viewCasesOf, List.map_map, knownViewsOf, List.map_flatMap]
  refine (map_firstsBy Signature.tagName _).trans (congrArg List.eraseDups ?_)
  rw [List.map_flatMap]
  simp only [List.map_map]
  rfl

namespace PairedProgram

variable (classifier : Classifier) (modules : List Module)

theorem mem_constructors_rows_plan (n : String) :
    n ∈ ((of classifier modules).plan classifier).decoderRows.map (·.constructor) ↔
      n ∈ ((of classifier modules).plan classifier).decodedCases.map (·.name) := by
  rw [decoderRows_plan, decodedCases_plan, List.map_map]
  exact (DecoderTable.tells_of classifier (pair classifier modules)).mem_constructors_iff n

theorem mem_constructors_knownViews_plan (n : String) :
    n ∈ ((of classifier modules).plan classifier).knownViews.map (·.2) ↔
      n ∈ ((of classifier modules).plan classifier).viewCases.map (·.name) := by
  change _ ↔ n ∈ (Plan.viewCasesOf classifier (classify classifier modules)).map (·.name)
  rw [Plan.names_viewCasesOf, List.mem_eraseDups]
  rfl

theorem references_rows_plan :
    ((of classifier modules).plan classifier).decoderRows.map (·.reference) =
      ((ownedSignatures modules).filter fun s => classifier.isDecoder s.2).map fun s => s.1.reference s.2.name := by
  rw [map_rows_plan classifier modules (g := Pairing.reference) fun _ _ => rfl, pair_eq_map_filter, List.map_map]
  rfl

theorem noDecoders_not_mem_names_plan :
    Program.noDecoders ∉ ((of classifier modules).plan classifier).decodedCases.map (·.name) :=
  Identifier.not_mem_map_of_ending (fun _ hd => ending_of_mem_decodedCases hd) (by decide)

theorem noViews_not_mem_names_plan :
    Program.noViews ∉ ((of classifier modules).plan classifier).viewCases.map (·.name) :=
  Identifier.not_mem_map_of_ending (fun _ hv => ending_of_mem_viewCases hv) (by decide)

/-- Each section is a part of the generated source. -/
theorem infix_generate {t name : String}
    (h : t ∈ Program.sections ((of classifier modules).plan classifier) name) :
    t.toList <:+: ((of classifier modules).generate classifier name).source.toList := by
  have hinfix := (Elm.infix_intercalate "\n\n\n" h).trans (List.prefix_append _ "\n".toList).isInfix
  rwa [← String.toList_append] at hinfix

section

variable {classifier modules}

theorem isConstructor_of_mem_rows {r : DecoderRow}
    (hr : r ∈ ((of classifier modules).plan classifier).decoderRows) :
    Identifier.isConstructor r.constructor = true := by
  obtain ⟨d, hd, hname⟩ :=
    List.mem_map.1 ((mem_constructors_rows_plan classifier modules r.constructor).1 (List.mem_map_of_mem hr))
  rw [← hname]
  exact isConstructor_of_mem_decodedCases hd

/-- Rows have constructors for names, and what decoders are referred to by. -/
theorem forall_mem_rows_plan {P : String → Prop}
    (h : ∀ s ∈ (ownedSignatures modules).filter fun s => classifier.isDecoder s.2, P (s.1.reference s.2.name)) :
    ∀ r ∈ ((of classifier modules).plan classifier).decoderRows,
      Identifier.isConstructor r.constructor = true ∧ P r.reference := by
  intro r hr
  have hmem := List.mem_map_of_mem (f := DecoderRow.reference) hr
  rw [references_rows_plan] at hmem
  obtain ⟨s, hs, hreference⟩ := List.mem_map.1 hmem
  rw [← hreference]
  exact ⟨isConstructor_of_mem_rows hr, h s hs⟩

theorem isConstructor_of_mem_knownViews {v : String × String}
    (hv : v ∈ ((of classifier modules).plan classifier).knownViews) : Identifier.isConstructor v.2 = true := by
  obtain ⟨c, hc, hname⟩ :=
    List.mem_map.1 ((mem_constructors_knownViews_plan classifier modules v.2).1 (List.mem_map_of_mem hv))
  rw [← hname]
  exact isConstructor_of_mem_viewCases hc

end

theorem noDecoders_mem_declared_iff :
    Program.noDecoders ∈ Program.declared Program.noDecoders
        (((of classifier modules).plan classifier).decodedCases.map (·.name)) ↔
      ((ownedSignatures modules).filter fun s => classifier.isDecoder s.2) = [] := by
  rw [Program.sentinel_mem_declared_iff (noDecoders_not_mem_names_plan classifier modules),
    ← eq_nil_iff_of_mem_iff (mem_constructors_rows_plan classifier modules), List.map_eq_nil_iff,
    ← List.map_eq_nil_iff (f := DecoderRow.reference), references_rows_plan, List.map_eq_nil_iff]

theorem noViews_mem_declared_iff :
    Program.noViews ∈ Program.declared Program.noViews
        (((of classifier modules).plan classifier).viewCases.map (·.name)) ↔
      ((ownedSignatures modules).filter fun s => classifier.isView s.2) = [] := by
  rw [Program.sentinel_mem_declared_iff (noViews_not_mem_names_plan classifier modules),
    ← eq_nil_iff_of_mem_iff (mem_constructors_knownViews_plan classifier modules), List.map_eq_nil_iff,
    knownViews_plan, List.map_eq_nil_iff]

/-- The table of decoders, read back: a row for each of them, which wraps its values in a
constructor of a case. -/
theorem exists_rows_decoderTable
    (h : ∀ s ∈ (ownedSignatures modules).filter fun s => classifier.isDecoder s.2,
      Elm.isBalanced (s.1.reference s.2.name) = true) :
    ∃ rows, Elm.rows? (Program.decoderTable ((of classifier modules).plan classifier)) = some rows ∧
      rows.map (·.1) =
        ((ownedSignatures modules).filter fun s => classifier.isDecoder s.2).map (fun s => s.1.reference s.2.name) ∧
      ∃ used : List String, rows.map (fun row => Program.wrapper? row.2) = used.map some ∧
        ∀ n, n ∈ used ↔ n ∈ ((of classifier modules).plan classifier).decodedCases.map (·.name) := by
  have hrows := forall_mem_rows_plan (P := fun reference => Elm.isBalanced reference = true) h
  refine ⟨_, Program.rows?_decoderTable hrows, ?_, _, ?_, mem_constructors_rows_plan classifier modules⟩
  · rw [List.map_map]
    exact references_rows_plan classifier modules
  · rw [List.map_map, List.map_map]
    exact List.map_congr_left fun r hr => Program.wrapper?_wrapped (hrows r hr).1

/-- **The case expressions are exhaustive and no branch is redundant.** As they are read back
from the generated source, the branches of the two case expressions over decoded values
are for the constructors of their type, in its order and without repetition. The table of
decoders has a row for each decoder and the list of views one for each simple view, in
their order, and the constructors in the rows are those of the two types, but for the
sentinels; a sentinel is declared if and only if there would be no row. What is written
into the source as it is must not break out of its place: a payload out of its
declaration, a view out of its branch, a decoder out of its row. -/
theorem branches_exhaustive (name : String) :
    let plan := (of classifier modules).plan classifier
    let source := ((of classifier modules).generate classifier name).source
    let decoders := (ownedSignatures modules).filter fun s => classifier.isDecoder s.2
    let views := (ownedSignatures modules).filter fun s => classifier.isView s.2
    (∀ t ∈ [Program.decodedType plan, Program.viewType plan, Program.decoderTable plan, Program.knownViews plan,
      Program.viewDecoded plan, Program.summarizeDecoded plan], t.toList <:+: source.toList) ∧
    (∃ names, names.Nodup ∧ (Program.noDecoders ∈ names ↔ decoders = []) ∧
      Elm.branches? (Program.summarizeDecoded plan) = some names ∧
      ((∀ d ∈ plan.decodedCases, Elm.isBalanced d.view = true) →
        Elm.branches? (Program.viewDecoded plan) = some names) ∧
      ((∀ d ∈ plan.decodedCases, Elm.isClosed Elm.isSeparator (Elm.argument d.payload) = true) →
        Elm.constructors? (Program.decodedType plan) = some names) ∧
      ((∀ s ∈ decoders, Elm.isBalanced (s.1.reference s.2.name) = true) →
        ∃ rows, Elm.rows? (Program.decoderTable plan) = some rows ∧
          rows.map (·.1) = decoders.map (fun s => s.1.reference s.2.name) ∧
          ∃ used : List String, rows.map (fun row => Program.wrapper? row.2) = used.map some ∧
            ∀ n, n ∈ used ↔ n ∈ names ∧ n ≠ Program.noDecoders)) ∧
    ∃ known, known.Nodup ∧ (Program.noViews ∈ known ↔ views = []) ∧
      Elm.constructors? (Program.viewType plan) = some known ∧
      ∃ rows, Elm.rows? (Program.knownViews plan) = some rows ∧
        rows.map (·.1) = views.map (fun s => s.1.reference s.2.name) ∧
        ∀ n, n ∈ rows.map (·.2) ↔ n ∈ known ∧ n ≠ Program.noViews := by
  intro plan source decoders views
  have hcon : ∀ d ∈ plan.decodedCases, Identifier.isConstructor d.name = true :=
    fun _ hd => isConstructor_of_mem_decodedCases hd
  have hnoDecoders := noDecoders_not_mem_names_plan classifier modules
  have hnoViews := noViews_not_mem_names_plan classifier modules
  have hsections : [Program.decodedType plan, Program.viewType plan, Program.decoderTable plan, Program.knownViews plan,
      Program.viewDecoded plan, Program.summarizeDecoded plan] ⊆ Program.sections plan name := by
    simp [Program.sections]
  refine ⟨fun t ht => infix_generate classifier modules (hsections ht),
    ⟨Program.declared Program.noDecoders (plan.decodedCases.map (·.name)), ?_⟩,
    Program.declared Program.noViews (plan.viewCases.map (·.name)), ?_⟩
  · refine ⟨Program.nodup_declared (nodup_names_plan classifier modules),
      noDecoders_mem_declared_iff classifier modules, Program.branches?_summarizeDecoded hcon, Program.branches?_viewDecoded hcon,
      Program.constructors?_decodedType hcon, fun hbalanced => ?_⟩
    obtain ⟨rows, hrows, hkeys, used, hused, hmem⟩ := exists_rows_decoderTable classifier modules hbalanced
    exact ⟨rows, hrows, hkeys, used, hused, Program.mem_used_iff hnoDecoders hmem⟩
  · refine ⟨Program.nodup_declared (nodup_viewCases_plan classifier modules),
      noViews_mem_declared_iff classifier modules, Program.constructors?_viewType fun _ hv => isConstructor_of_mem_viewCases hv, _,
      Program.rows?_knownViews fun _ hv => isConstructor_of_mem_knownViews hv, ?_,
      Program.mem_used_iff hnoViews (mem_constructors_knownViews_plan classifier modules)⟩
    rw [knownViews_plan, List.map_map]
    rfl

/-- Decoders of one type in two modules, one of a type of its own, and two views of one
signature. -/
def sharedModules : List Module :=
  [⟨"A", [⟨"first", "Json.Decode.Decoder Int"⟩, ⟨"pair", "Json.Decode.Decoder ( Int, List Bool )"⟩,
      ⟨"show", "Int -> Html.Html msg"⟩]⟩,
    ⟨"B", [⟨"second", "Json.Decode.Decoder Int"⟩, ⟨"other", "Int -> Html.Html msg"⟩]⟩]

theorem branches_exhaustive_sharedModules :
    let plan := (of Settings.none.classifier sharedModules).plan Settings.none.classifier
    (∀ d ∈ plan.decodedCases, Elm.isBalanced d.view = true) ∧
      (∀ d ∈ plan.decodedCases, Elm.isClosed Elm.isSeparator (Elm.argument d.payload) = true) ∧
      (∀ s ∈ (ownedSignatures sharedModules).filter fun s => Settings.none.classifier.isDecoder s.2,
        Elm.isBalanced (s.1.reference s.2.name) = true) ∧
      ∃ names, names.Nodup ∧ Program.noDecoders ∉ names ∧ Elm.constructors? (Program.decodedType plan) = some names ∧
        Elm.branches? (Program.viewDecoded plan) = some names ∧
        Elm.branches? (Program.summarizeDecoded plan) = some names ∧
        ∃ rows, Elm.rows? (Program.decoderTable plan) = some rows ∧
          rows.map (·.1) = ["A.first", "A.pair", "B.second"] := by
  intro plan
  have hviews : ∀ d ∈ plan.decodedCases, Elm.isBalanced d.view = true := by decide
  have hpayloads : ∀ d ∈ plan.decodedCases, Elm.isClosed Elm.isSeparator (Elm.argument d.payload) = true := by
    decide
  have hdecoders : ∀ s ∈ (ownedSignatures sharedModules).filter fun s => Settings.none.classifier.isDecoder s.2,
      Elm.isBalanced (s.1.reference s.2.name) = true := by
    decide
  obtain ⟨-, ⟨names, hnodup, hnone, hsummarize, hview, htype, htable⟩, -⟩ :=
    branches_exhaustive Settings.none.classifier sharedModules "Main"
  obtain ⟨rows, hrows, hkeys, -⟩ := htable hdecoders
  exact ⟨hviews, hpayloads, hdecoders, names, hnodup, fun h => absurd (hnone.1 h) (by decide), htype hpayloads,
    hview hviews, hsummarize, rows, hrows, hkeys.trans (by decide)⟩

/-- A payload that closes the bracket around it declares a constructor that no branch is for,
a view that does so brings a branch for a constructor that is not declared, and a decoder
that does so a second row. -/
theorem unbalanced_texts_break_out :
    let plan (signatures : List Signature) :=
      (of Settings.none.classifier [⟨"M", signatures⟩]).plan Settings.none.classifier
    let payload := plan [⟨"d", "Json.Decode.Decoder Int) | SaveChange (Int"⟩]
    let view := plan [⟨"d", "Json.Decode.Decoder Int"⟩,
      ⟨"show value)\n\n        Other value ->\n            (show", "Int -> Html.Html msg"⟩]
    let decoder := plan [⟨"d ), ( \"other\", d", "Json.Decode.Decoder Int"⟩]
    (Elm.constructors? (Program.decodedType payload) = some ["Int__SaveChange_IntPayload", "SaveChange"] ∧
        Elm.branches? (Program.viewDecoded payload) = some ["Int__SaveChange_IntPayload"]) ∧
      (Elm.constructors? (Program.decodedType view) = some ["IntPayload"] ∧
        Elm.branches? (Program.viewDecoded view) = some ["IntPayload", "Other"]) ∧
      decoder.decoderRows.length = 1 ∧
      (Elm.rows? (Program.decoderTable decoder)).map (·.map (·.1)) = some ["M.d ), ( \"other\", d", "other"] := by
  intro plan payload view decoder
  have hpayload : payload.decodedCases =
      [⟨"Int__SaveChange_IntPayload", "Int) | SaveChange (Int", "viewAsText"⟩] := by decide +kernel
  have hview : view.decodedCases =
      [⟨"IntPayload", "Int", "M.show value)\n\n        Other value ->\n            (show"⟩] := by decide +kernel
  have hdecoder : decoder.decoderRows = [⟨"M.d ), ( \"other\", d", "IntPayload", "viewAsText"⟩] := by decide +kernel
  refine ⟨⟨?_, ?_⟩, ⟨?_, ?_⟩, congrArg List.length hdecoder, ?_⟩
  · rw [Program.decodedType, Program.decodedConstructors, hpayload]
    decide +kernel
  · rw [Program.branches?_viewDecoded, hpayload]
    · decide
    · decide +kernel
    · decide +kernel
  · rw [Program.decodedType, Program.decodedConstructors, hview]
    decide +kernel
  · rw [Elm.branches?, Program.viewDecoded, Program.dispatchBranches, Program.decodedBranches, hview]
    simp only [Elm.lines, Elm.caseOf, Elm.Branch.text, List.map_cons, List.map_nil, String.intercalate_singleton,
      String.intercalate_cons_cons, String.toList_append]
    decide +kernel
  · rw [Elm.rows?, Program.decoderTable, hdecoder]
    simp only [Elm.lines, Elm.list, Elm.marked, Elm.tuple, List.map_cons, List.map_nil, List.cons_append,
      List.nil_append, String.intercalate_singleton, String.intercalate_cons_cons, String.toList_append]
    decide +kernel

end PairedProgram
end DecoderBench
