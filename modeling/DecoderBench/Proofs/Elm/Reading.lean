/-
Elm declarations read back from their text: the constructors of a union
(`constructors?_union`), the rows of a list of pairs (`rows?_list`), and what the branches
of a case expression start with (`branches?_caseOf`). What is written between is read as
it was meant if it is closed.
-/
import DecoderBench.Elm.Layout
import DecoderBench.Proofs.Elm.Literal
import DecoderBench.Proofs.Elm.Place
import DecoderBench.Proofs.Text.Tokens
import Mathlib.Data.List.Induction
import Mathlib.Data.List.Nodup

namespace DecoderBench.Elm

/-! ## Readers -/

/-- The first word of a text. -/
def word (t : List Char) : String := String.ofList ((Text.tokens t).head?.getD [])

/-- What stands in front of a constructor in the declaration of a union. -/
def isSeparator (c : Char) : Bool := c == '=' || c == '|'

/-- The constructors that a union declares. -/
def constructors? (declaration : String) : Option (List String) :=
  (cut isSeparator {} declaration.toList).map fun pieces => (pieces.drop 1).map word

/-- What stands behind an element of a list. -/
def isDelimiter (c : Char) : Bool := c == ',' || c == ']'

/-- A pair of a literal and an expression: the text that the literal denotes, and the
expression. -/
def row? (row : List Char) : Option (String × String) :=
  match row with
  | '(' :: ' ' :: r =>
    match scanLiteral r with
    | some (key, ',' :: ' ' :: value) => some (String.ofList key, String.ofList value.dropLast.dropLast)
    | _ => none
  | _ => none

/-- The rows of a definition whose first bracket opens a list of pairs. -/
def rows? (definition : String) : Option (List (String × String)) :=
  (cut isDelimiter {} ((definition.toList.dropWhile (· != '[')).drop 1)).bind fun pieces =>
    ((pieces.map Text.trim).filter fun row => !row.isEmpty).mapM row?

/-- What stands behind a line. -/
def isLineBreak (c : Char) : Bool := c == '\n'

/-- The first word of a line that is as far to the right as branches are. -/
def branch? (line : List Char) : Option String :=
  let n := (line.takeWhile (· == ' ')).length
  if n == 8 && n < line.length then some (word line) else none

/-- What the branches of a definition by a case expression are for. -/
def branches? (definition : String) : Option (List String) :=
  (cut isLineBreak {} definition.toList).map fun lines => lines.filterMap branch?

variable {c : Char}

/-! ## Lines and words -/

theorem toList_lines_cons (l : String) (ls : List String) :
    (lines (l :: ls)).toList = l.toList ++ ls.flatMap fun l => '\n' :: l.toList := by
  induction ls generalizing l with
  | nil => simp [lines]
  | cons l' ls ih =>
    have hcut : lines (l :: l' :: ls) = l ++ "\n" ++ lines (l' :: ls) := by
      rw [lines, String.intercalate_cons_of_ne_nil (List.cons_ne_nil _ _)]
      rfl
    rw [hcut, String.toList_append, String.toList_append, ih, List.flatMap_cons]
    simp

theorem infix_intercalate (separator : String) {t : String} {ts : List String} (h : t ∈ ts) :
    t.toList <:+: (separator.intercalate ts).toList := by
  induction ts with
  | nil => cases h
  | cons u us ih =>
    by_cases hne : us = []
    · rw [hne, List.mem_singleton] at h
      rw [hne, String.intercalate_singleton]
      exact h ▸ List.infix_rfl
    · rw [String.intercalate_cons_of_ne_nil hne, String.toList_append, String.toList_append, List.append_assoc]
      rcases List.mem_cons.1 h with rfl | h
      · exact (List.prefix_append _ _).isInfix
      · exact (ih h).trans (List.suffix_append_of_suffix (List.suffix_append _ _)).isInfix

theorem eq_blank_of_mem_indent {n : Nat} (h : c ∈ (indent n).toList) : c = ' ' := by
  induction n with
  | zero => cases h
  | succ n ih =>
    rw [indent, String.toList_append, List.mem_append] at h
    rcases h with h | h
    · simpa using h
    · exact ih h

theorem word_cons_blank (h : Text.isBlank c = true) (t : List Char) : word (c :: t) = word t := by
  rw [word, Text.tokens_cons h, word]

theorem word_append_blank (t : List Char) {b : List Char} (h : ∀ c ∈ b, Text.isBlank c = true) :
    word (t ++ b) = word t := by
  rw [word, Text.tokens_append_blank t h, word]

/-! ## Unions -/

/-- The constructors of a union behind the mark of the first one: each piece up to the next
mark starts with the name of one. -/
theorem cut_constructors {c : String} {cs : List String} (h : ∀ d ∈ c :: cs, isClosed isSeparator d = true) :
    ∃ pieces, cut isSeparator {} (' ' :: c.toList ++ cs.flatMap fun d => '\n' :: (indent 1 ++ "| " ++ d).toList) =
        some pieces ∧
      pieces.map word = (c :: cs).map fun d => word d.toList := by
  induction cs generalizing c with
  | nil =>
    obtain ⟨q, hq, -⟩ := exists_of_isClosed (h c (by simp))
    refine ⟨[' ' :: c.toList], ?_, by rw [List.map_singleton, word_cons_blank (by decide), List.map_singleton]⟩
    rw [List.flatMap_nil, List.append_nil]
    exact cut_through hq
  | cons d cs ih =>
    obtain ⟨pieces, hpieces, hwords⟩ := ih fun e he => h e (List.mem_cons_of_mem c he)
    have hfront : through isSeparator {} (' ' :: (c.toList ++ "\n    ".toList)) = some {} := by
      change through isSeparator {} (' ' :: (c.toList ++ '\n' :: "    ".toList)) = some {}
      rw [through_plain (by decide) (by decide), through_closed (h c (by simp)) (by decide) (by decide)]
      rfl
    have htext : ' ' :: c.toList ++ (d :: cs).flatMap (fun d => '\n' :: (indent 1 ++ "| " ++ d).toList) =
        (' ' :: (c.toList ++ "\n    ".toList)) ++
          '|' :: (' ' :: d.toList ++ cs.flatMap fun d => '\n' :: (indent 1 ++ "| " ++ d).toList) := by
      simp [indent]
    refine ⟨(' ' :: (c.toList ++ "\n    ".toList)) :: pieces, ?_, ?_⟩
    · rw [htext, cut_append_mark hfront rfl rfl, hpieces, Option.map_some]
    · have hbehind : ∀ c ∈ "\n    ".toList, Text.isBlank c = true := List.all_eq_true.1 (by decide)
      rw [List.map_cons, hwords, List.map_cons, word_cons_blank (by decide), word_append_blank _ hbehind]
      rfl

/-- A union declares what it is made of, if that is closed. -/
theorem constructors?_union {name : String} {cs : List String} (hname : isClosed isSeparator ("type " ++ name) = true)
    (h : ∀ c ∈ cs, isClosed isSeparator c = true) :
    constructors? (union name cs) = some (cs.map fun c => word c.toList) := by
  rw [constructors?, union]
  cases cs with
  | nil =>
    obtain ⟨q, hq, -⟩ := exists_of_isClosed hname
    have htext : lines (("type " ++ name) :: marked (indent 1 ++ "= ") (indent 1 ++ "| ") []) = "type " ++ name := by
      rw [marked, lines, String.intercalate_singleton]
    rw [htext, cut_through hq]
    rfl
  | cons c cs =>
    obtain ⟨pieces, hpieces, hwords⟩ := cut_constructors h
    have hfront : through isSeparator {} (("type " ++ name).toList ++ "\n    ".toList) = some {} := by
      change through isSeparator {} (("type " ++ name).toList ++ '\n' :: "    ".toList) = some {}
      rw [through_closed hname (by decide) (by decide)]
      rfl
    have htext : (lines (("type " ++ name) :: marked (indent 1 ++ "= ") (indent 1 ++ "| ") (c :: cs))).toList =
        (("type " ++ name).toList ++ "\n    ".toList) ++
          '=' :: (' ' :: c.toList ++ cs.flatMap fun d => '\n' :: (indent 1 ++ "| " ++ d).toList) := by
      rw [toList_lines_cons, marked]
      simp [indent, List.flatMap_map]
    rw [htext, cut_append_mark hfront rfl rfl, hpieces, Option.map_map, Option.map_some, Function.comp_apply,
      List.drop_one, List.tail_cons, hwords]

/-! ## Rows -/

/-- A row as it is written. -/
def entry (row : String × String) : String := tuple (literal row.1) row.2

theorem row?_entry (row : String × String) : row? (entry row).toList = some row := by
  have hrow : (entry row).toList =
      '(' :: ' ' :: ((literal row.1).toList ++ (',' :: ' ' :: (row.2.toList ++ [' ', ')']))) := by
    simp [entry, tuple]
  have hvalue : (row.2.toList ++ [' ', ')']).dropLast.dropLast = row.2.toList := by
    rw [List.dropLast_append_of_ne_nil (by simp)]
    exact List.dropLast_concat
  simp only [row?, hrow, scanLiteral_literal, hvalue, String.ofList_toList]

theorem mapM_row? (rows : List (String × String)) : (rows.map fun r => (entry r).toList).mapM row? = some rows := by
  induction rows with
  | nil => rfl
  | cons r rows ih =>
    rw [List.map_cons, List.mapM_cons, row?_entry, ih]
    rfl

theorem isTrimmed_entry (row : String × String) : Text.IsTrimmed (entry row).toList := by
  have hopen : Text.IsToken ['('] := .of_all (by simp) (by decide)
  have hclose : Text.IsToken [')'] := .of_all (by simp) (by decide)
  have htext : (entry row).toList =
      ['('] ++ (' ' :: ((literal row.1).toList ++ ", ".toList ++ row.2.toList ++ [' '])) ++ [')'] := by
    simp [entry, tuple]
  rw [htext]
  exact hopen.isTrimmed.append hclose.isTrimmed (by simp) (by simp) _

/-- A row with a balanced value leaves one where one was. -/
theorem through_entry {row : String × String} (h : isBalanced row.2 = true) (r : List Char) :
    through isDelimiter {} ((entry row).toList ++ r) = through isDelimiter {} r := by
  have hopen : through isDelimiter {} ['(', ' '] = some ⟨.code, [')']⟩ := by decide
  have hblank : through isDelimiter ⟨.code, [')']⟩ [' '] = some ⟨.code, [')']⟩ := by decide
  have hclose : through isDelimiter ⟨.code, [')']⟩ [')'] = some {} := by decide
  have htext : (entry row).toList ++ r =
      ['(', ' '] ++ ((literal row.1).toList ++ ',' :: ([' '] ++ (row.2.toList ++ ' ' :: ([')'] ++ r)))) := by
    simp [entry, tuple]
  rw [htext, through_of_append hopen, through_literal (by simp) (by decide) (by simp), through_of_append hblank,
    through_balanced h (by simp), through_of_append hclose]

/-- What stands in front of a delimiter: a row between blanks. -/
def rowPiece (level : Nat) (row : String × String) : List Char :=
  ' ' :: ((entry row).toList ++ '\n' :: (indent level).toList)

theorem trim_rowPiece (level : Nat) (row : String × String) : Text.trim (rowPiece level row) = (entry row).toList := by
  refine (isTrimmed_entry row).trim_eq (a := [' ']) (List.all_eq_true.1 (by decide)) fun c hc => ?_
  rcases List.mem_cons.1 hc with rfl | hc
  · decide
  · rw [eq_blank_of_mem_indent hc]
    decide

theorem through_rowPiece (level : Nat) {row : String × String} (h : isBalanced row.2 = true) :
    through isDelimiter {} (rowPiece level row) = some {} := by
  rw [rowPiece, through_plain (by decide) (by decide), through_entry h, through_plain (by decide) (by decide)]
  refine through_of_plain (fun c hc => ?_) fun _ c hc => ?_
  · rw [eq_blank_of_mem_indent hc]
    decide
  · rw [eq_blank_of_mem_indent hc]
    decide

/-- The rows behind the first one, up to the end of the list. -/
def furtherRows (level : Nat) (rows : List (String × String)) : List Char :=
  (rows.map entry).flatMap (fun e => '\n' :: (indent level ++ ", " ++ e).toList) ++ '\n' :: (indent level ++ "]").toList

/-- A list behind its first bracket: each piece up to the next delimiter is a row. -/
theorem cut_rows (level : Nat) {row : String × String} {rows : List (String × String)}
    (h : ∀ r ∈ row :: rows, isBalanced r.2 = true) :
    cut isDelimiter {} (' ' :: (entry row).toList ++ furtherRows level rows) =
      some ((row :: rows).map (rowPiece level) ++ [[]]) := by
  induction rows generalizing row with
  | nil =>
    have htext : ' ' :: (entry row).toList ++ furtherRows level [] = rowPiece level row ++ ']' :: [] := by
      simp [furtherRows, rowPiece]
    rw [htext, cut_append_mark (through_rowPiece level (h row (by simp))) rfl rfl]
    rfl
  | cons r rows ih =>
    have htext : ' ' :: (entry row).toList ++ furtherRows level (r :: rows) =
        rowPiece level row ++ ',' :: (' ' :: (entry r).toList ++ furtherRows level rows) := by
      simp [furtherRows, rowPiece]
    rw [htext, cut_append_mark (through_rowPiece level (h row (by simp))) rfl rfl,
      ih fun s hs => h s (List.mem_cons_of_mem row hs), Option.map_some]
    rfl

/-- A list of pairs is read back, if their values are balanced. -/
theorem rows?_list {front : String} (hfront : '[' ∉ front.toList) (level : Nat) {rows : List (String × String)}
    (h : ∀ r ∈ rows, isBalanced r.2 = true) : rows? (front ++ list level (rows.map entry)) = some rows := by
  have hbehind (r : List Char) :
      ((front.toList ++ ((indent level).toList ++ '[' :: r)).dropWhile (· != '[')).drop 1 = r := by
    have hblanks : ∀ c ∈ front.toList ++ (indent level).toList, (c != '[') = true := by
      intro c hc
      rw [bne_iff_ne]
      rintro rfl
      rcases List.mem_append.1 hc with hc | hc
      · exact hfront hc
      · exact absurd (eq_blank_of_mem_indent hc) (by decide)
    rw [← List.append_assoc, List.dropWhile_append_of_pos hblanks]
    rfl
  cases rows with
  | nil =>
    have htext : (front ++ list level ([].map entry)).toList =
        front.toList ++ ((indent level).toList ++ '[' :: [']']) := by
      simp [list]
    rw [rows?, htext, hbehind]
    rfl
  | cons row rows =>
    have htext : (front ++ list level ((row :: rows).map entry)).toList =
        front.toList ++ ((indent level).toList ++ '[' :: (' ' :: (entry row).toList ++ furtherRows level rows)) := by
      have hlist : list level ((row :: rows).map entry) =
          lines ((indent level ++ "[ " ++ entry row) ::
            ((rows.map entry).map (indent level ++ ", " ++ ·) ++ [indent level ++ "]"])) := rfl
      rw [hlist, String.toList_append, toList_lines_cons]
      simp [furtherRows, List.flatMap_map]
    have htrims : ((row :: rows).map (rowPiece level) ++ [[]]).map Text.trim =
        (row :: rows).map (fun r => (entry r).toList) ++ [[]] := by
      rw [List.map_append, List.map_map]
      refine congrArg₂ (· ++ ·) (List.map_congr_left fun r _ => ?_) (by decide)
      rw [Function.comp_apply, trim_rowPiece]
    have hkept : ((row :: rows).map (fun r => (entry r).toList) ++ [[]]).filter (fun row => !row.isEmpty) =
        (row :: rows).map fun r => (entry r).toList := by
      rw [List.filter_append, List.filter_eq_self.2]
      · exact List.append_nil _
      · rintro _ hr
        obtain ⟨r, -, rfl⟩ := List.mem_map.1 hr
        simp [entry, tuple]
    rw [rows?, htext, hbehind, cut_rows level h, Option.bind_some, htrims, hkept, mapM_row?]

theorem rows?_lines (front : List String) (hne : front ≠ []) (hfront : '[' ∉ (lines front).toList) (level : Nat)
    {rows : List (String × String)} (h : ∀ r ∈ rows, isBalanced r.2 = true) :
    rows? (lines (front ++ [list level (rows.map entry)])) = some rows := by
  have htext : lines (front ++ [list level (rows.map entry)]) = lines front ++ "\n" ++ list level (rows.map entry) := by
    rw [lines, String.intercalate_append_of_ne_nil hne (by simp), String.intercalate_singleton]
    rfl
  rw [htext]
  exact rows?_list (by simpa using hfront) level h

/-! ## Branches -/

theorem cut_line {l : String} (h : isClosed isLineBreak l = true) (t : List Char) :
    cut isLineBreak {} (l.toList ++ '\n' :: t) = (cut isLineBreak {} t).map (l.toList :: ·) := by
  obtain ⟨q, hq, htop, -⟩ := exists_of_isClosed h
  exact cut_append_mark hq htop rfl t

namespace Branch

/-- The first line of a branch. -/
def head (b : Branch) : String := indent 2 ++ b.pattern ++ " ->"

/-- The second line of a branch. -/
def rest (b : Branch) : String := indent 3 ++ b.body

/-- A branch on two lines, whose first one starts with a word. -/
structure IsRead (b : Branch) : Prop where
  start : ∃ c ∈ b.pattern.toList.head?, Text.isBlank c = false
  plain : ∀ c ∈ b.pattern.toList, roleOf c = .plain ∧ isLineBreak c = false
  body : isClosed isLineBreak b.body = true

variable {b : Branch}

theorem toList_text (b : Branch) : b.text.toList = b.head.toList ++ '\n' :: b.rest.toList := by
  simp [text, head, rest]

theorem IsRead.isClosed_head (h : b.IsRead) : isClosed isLineBreak b.head = true := by
  have htext : b.head.toList ++ [' '] = ((indent 2).toList ++ b.pattern.toList) ++ " -> ".toList := by
    simp [head]
  have hfront : through isLineBreak {} ((indent 2).toList ++ b.pattern.toList) = some {} := by
    refine through_of_plain (fun c hc => ?_) fun _ c hc => ?_
    · rcases List.mem_append.1 hc with hc | hc
      · rw [eq_blank_of_mem_indent hc]
        decide
      · exact (h.plain c hc).1
    · rcases List.mem_append.1 hc with hc | hc
      · rw [eq_blank_of_mem_indent hc]
        decide
      · exact (h.plain c hc).2
  rw [isClosed, htext, through_of_append hfront]
  decide

theorem IsRead.isClosed_rest (h : b.IsRead) : isClosed isLineBreak b.rest = true := by
  have htext : b.rest.toList ++ [' '] = (indent 3).toList ++ (b.body.toList ++ [' ']) := by
    simp [rest]
  have hblanks : through isLineBreak {} (indent 3).toList = some {} := by decide
  rw [isClosed, htext, through_of_append hblanks]
  exact h.body

theorem IsRead.word_head (h : b.IsRead) : word b.head.toList = word b.pattern.toList := by
  obtain ⟨c, hc, hblank⟩ := h.start
  have htokens : Text.tokens b.pattern.toList ≠ [] := by
    rw [Ne, Text.tokens_eq_nil_iff]
    intro hall
    rw [hall c (List.mem_of_mem_head? hc)] at hblank
    cases hblank
  have htext : b.head.toList = (indent 2).toList ++ (b.pattern.toList ++ ' ' :: "->".toList) := by
    simp [head]
  have hblanks : ∀ c ∈ (indent 2).toList, Text.isBlank c = true := List.all_eq_true.1 (by decide)
  rw [htext, word, Text.tokens_blank_append hblanks, Text.tokens_append_cons (by decide), word,
    List.head?_append_of_ne_nil _ htokens]

theorem IsRead.branch?_head (h : b.IsRead) : branch? b.head.toList = some (word b.pattern.toList) := by
  obtain ⟨c, hc, hblank⟩ := h.start
  obtain ⟨r, hr⟩ := List.head?_eq_some_iff.1 hc
  have hne : (c == ' ') = false := by
    rw [beq_eq_false_iff_ne]
    rintro rfl
    exact absurd hblank (by decide)
  have hindent : (b.head.toList.takeWhile (· == ' ')).length = 8 := by
    have htext : b.head.toList = (indent 2).toList ++ (c :: (r ++ " ->".toList)) := by
      simp [head, hr]
    have hblanks : ∀ d ∈ (indent 2).toList, (d == ' ') = true := List.all_eq_true.1 (by decide)
    rw [htext, List.takeWhile_append_of_pos hblanks, List.takeWhile_cons_of_neg (by simp [hne])]
    rfl
  have hlength : 8 < b.head.toList.length := by
    simp [head, indent]
  simp only [branch?, hindent, hlength, h.word_head, beq_self_eq_true, decide_true, Bool.and_self, if_true]

theorem branch?_rest (b : Branch) : branch? b.rest.toList = none := by
  have hblanks : ∀ d ∈ (indent 3).toList, (d == ' ') = true := List.all_eq_true.1 (by decide)
  have hindent : (b.rest.toList.takeWhile (· == ' ')).length = 12 + (b.body.toList.takeWhile (· == ' ')).length := by
    rw [rest, String.toList_append, List.takeWhile_append_of_pos hblanks, List.length_append]
    rfl
  have hne : (12 + (b.body.toList.takeWhile (· == ' ')).length == 8) = false := by
    rw [beq_eq_false_iff_ne]
    omega
  simp only [branch?, hindent, hne, Bool.false_and, Bool.false_eq_true, if_false]

end Branch

theorem branches?_intercalate {b : Branch} {bs : List Branch} (h : ∀ d ∈ b :: bs, d.IsRead) :
    (cut isLineBreak {} ("\n\n".intercalate ((b :: bs).map Branch.text)).toList).map (·.filterMap branch?) =
      some ((b :: bs).map fun d => word d.pattern.toList) := by
  have hb : b.IsRead := h b (by simp)
  induction bs generalizing b with
  | nil =>
    obtain ⟨q, hq, -⟩ := exists_of_isClosed hb.isClosed_rest
    rw [List.map_singleton, String.intercalate_singleton, Branch.toList_text, cut_line hb.isClosed_head, cut_through hq,
      Option.map_some, Option.map_some, List.filterMap_cons_some hb.branch?_head,
      List.filterMap_cons_none (Branch.branch?_rest b)]
    rfl
  | cons d bs ih =>
    have hrest := ih (fun e he => h e (List.mem_cons_of_mem b he)) (h d (by simp))
    have htext : ("\n\n".intercalate ((b :: d :: bs).map Branch.text)).toList =
        b.head.toList ++ '\n' :: (b.rest.toList ++ '\n' :: ("".toList ++ '\n' ::
          ("\n\n".intercalate ((d :: bs).map Branch.text)).toList)) := by
      rw [List.map_cons, String.intercalate_cons_of_ne_nil (by simp), String.toList_append, String.toList_append,
        Branch.toList_text]
      simp
    have hempty : branch? "".toList = none := by decide
    rw [htext, cut_line hb.isClosed_head, cut_line hb.isClosed_rest, cut_line (by decide), Option.map_map,
      Option.map_map, Option.map_map]
    obtain ⟨lines, hlines, hnames⟩ := Option.map_eq_some_iff.1 hrest
    rw [hlines, Option.map_some, List.map_cons, ← hnames]
    refine congrArg some ?_
    simp only [Function.comp_apply]
    rw [List.filterMap_cons_some hb.branch?_head, List.filterMap_cons_none (Branch.branch?_rest b),
      List.filterMap_cons_none hempty]

/-- The branches of a definition are read back, if none of its other lines looks like a
branch. -/
theorem branches?_caseOf {signature heading subject : String} {branches : List Branch}
    (hfront : ∀ l ∈ [signature, heading, indent 1 ++ "case " ++ subject ++ " of"],
      isClosed isLineBreak l = true ∧ branch? l.toList = none)
    (hne : branches ≠ []) (h : ∀ d ∈ branches, d.IsRead) :
    branches? (lines [signature, heading, caseOf subject branches]) =
      some (branches.map fun d => word d.pattern.toList) := by
  obtain ⟨b, bs, rfl⟩ := List.exists_cons_of_ne_nil hne
  have htext : (lines [signature, heading, caseOf subject (b :: bs)]).toList =
      signature.toList ++ '\n' :: (heading.toList ++ '\n' ::
        ((indent 1 ++ "case " ++ subject ++ " of").toList ++ '\n' ::
          ("\n\n".intercalate ((b :: bs).map Branch.text)).toList)) := by
    rw [toList_lines_cons]
    simp [caseOf]
  have hlines := branches?_intercalate h
  obtain ⟨ls, hls, hnames⟩ := Option.map_eq_some_iff.1 hlines
  rw [branches?, htext, cut_line (hfront signature (by simp)).1, cut_line (hfront heading (by simp)).1,
    cut_line (hfront _ (by simp)).1, hls]
  simp only [Option.map_some]
  rw [List.filterMap_cons_none (hfront signature (by simp)).2, List.filterMap_cons_none (hfront heading (by simp)).2,
    List.filterMap_cons_none (hfront _ (by simp)).2, hnames]

/-! ## Dictionaries -/

variable {α : Type}

/-- The dictionary with `value` under `key`, where before it had another value or none. -/
def insert (key : String) (value : α) : List (String × α) → List (String × α)
  | [] => [(key, value)]
  | e :: d => if e.1 = key then (key, value) :: d else e :: insert key value d

/-- The dictionary of a list of entries, put into it one after the other. -/
def dictionary (entries : List (String × α)) : List (String × α) :=
  entries.foldl (fun d e => insert e.1 e.2 d) []

theorem insert_of_not_mem {key : String} {value : α} {d : List (String × α)} (h : key ∉ d.map (·.1)) :
    insert key value d = d ++ [(key, value)] := by
  induction d with
  | nil => rfl
  | cons e d ih =>
    rw [List.map_cons, List.mem_cons, not_or] at h
    rw [insert, if_neg (Ne.symm h.1), ih h.2, List.cons_append]

/-- Entries with different keys are all kept. -/
theorem dictionary_of_nodup {entries : List (String × α)} (h : (entries.map (·.1)).Nodup) :
    dictionary entries = entries := by
  induction entries using List.reverseRecOn with
  | nil => rfl
  | append_singleton entries e ih =>
    rw [List.map_append, List.map_singleton, List.nodup_append_comm, List.singleton_append, List.nodup_cons] at h
    rw [dictionary, List.foldl_append, List.foldl_cons, List.foldl_nil, ← dictionary, ih h.2,
      insert_of_not_mem h.1]

end DecoderBench.Elm
