/-
Words of options, each with its value in itself. Read from the left, they add up what
they give (`readWords_words`).
-/
import DecoderBench.CommandLine
import DecoderBench.Proofs.Lookup
import Mathlib.Data.List.Pairwise

namespace DecoderBench.CommandLine

/-! ## Words of options -/

/-- What one word gives: a value, a flag, or one step of verbosity. -/
inductive Item
  | value (o : Valued) (text : String)
  | flag (f : Flag)
  | verbosity
  deriving DecidableEq

namespace Item

/-- The option of an item. -/
def choice : Item → Choice
  | value o _ => .valued o
  | flag f => .flag f
  | verbosity => .verbosity

/-- The value in the item's own word. -/
def attached : Item → Option (List Char)
  | value _ text => some text.toList
  | flag _ => none
  | verbosity => none

/-- The word of an item. -/
def word : Item → String
  | value o text => valueWord o text
  | flag f => choiceWord (.flag f)
  | verbosity => choiceWord .verbosity

/-- The word of an item, after its two dashes. -/
def body (i : Item) : List Char := i.choice.long.toList ++ (i.attached.map ('=' :: ·)).getD []

theorem toList_word (i : Item) : i.word.toList = '-' :: '-' :: i.body := by
  cases i <;> simp [word, body, valueWord, choiceWord, choice, attached]

end Item

/-- All options. -/
def Choice.all : List Choice :=
  [.valued .path, .valued .output, .valued .interface, .valued .config, .valued .format, .flag .stdout,
    .flag .plain, .flag .force, .verbosity, .help]

theorem Choice.mem_all (c : Choice) : c ∈ all := by
  rcases c with (_ | _ | _ | _ | _) | (_ | _ | _) | _ | _ <;> decide

theorem Choice.long_injective : Function.Injective long := by
  have hall : ∀ c ∈ all, ∀ d ∈ all, c.long = d.long → c = d := by decide
  exact fun c d => hall c c.mem_all d d.mem_all

theorem Choice.long_ne_nil (c : Choice) : c.long.toList ≠ [] := by
  have hall : ∀ c ∈ all, c.long.toList ≠ [] := by decide
  exact hall c c.mem_all

theorem Choice.equals_not_mem_long (c : Choice) : '=' ∉ c.long.toList := by
  have hall : ∀ c ∈ all, '=' ∉ c.long.toList := by decide
  exact hall c c.mem_all

theorem long?_long {v : Verb} {c : Choice} (h : c ∈ v.choices) : v.long? c.long.toList = some c := by
  have hall : ∀ c ∈ v.choices, v.long? c.long.toList = some c := by cases v <;> decide
  exact hall c h

theorem splitValue_body (i : Item) : splitValue i.body = (i.choice.long.toList, i.attached) := by
  have hlong : ∀ c ∈ i.choice.long.toList, (c != '=') = true := by
    intro c hc
    have hne : c ≠ '=' := by
      rintro rfl
      exact i.choice.equals_not_mem_long hc
    simpa using hne
  rw [splitValue, Item.body, List.dropWhile_append_of_pos hlong, List.takeWhile_append_of_pos hlong]
  cases i.attached with
  | none => simp
  | some value => simp

/-- An item can be told from its word. -/
theorem Item.word_injective : Function.Injective word := by
  intro i j h
  have hbody : i.body = j.body := by
    have htext : i.word.toList = j.word.toList := by rw [h]
    rw [i.toList_word, j.toList_word] at htext
    exact (List.cons.inj (List.cons.inj htext).2).2
  have hsplit : (i.choice.long.toList, i.attached) = (j.choice.long.toList, j.attached) := by
    rw [← splitValue_body, ← splitValue_body, hbody]
  obtain ⟨hlong, hattached⟩ := Prod.mk.inj hsplit
  have hchoice : i.choice = j.choice := Choice.long_injective (String.toList_inj.1 hlong)
  cases i <;> cases j <;> simp_all [choice, attached, String.toList_inj]

/-! ## Reading words -/

/-- Takes what an item gives. -/
def Progress.give (p : Progress) : Item → Except Problem Progress
  | .value o text => p.store o text
  | .flag f => p.choose (.flag f)
  | .verbosity => p.choose .verbosity

/-- A word of an option of the command is read as what it gives, unless an option before
it still waits for its value. -/
theorem readWords_word {v : Verb} {i : Item} (h : i.choice ∈ v.choices) {p : Progress} (hp : p.pending = none)
    (ws : List String) : readWords v p (i.word :: ws) = (p.give i).bind fun q => readWords v q ws := by
  have hsettle : p.settle = .ok p := by rw [Progress.settle, hp]
  have htake : p.take i.choice i.attached = p.give i := by
    cases i with
    | value o text =>
      simp only [Item.choice, Item.attached, Progress.take, hsettle, Progress.give, String.ofList_toList]
      rfl
    | flag f | verbosity =>
      simp only [Item.choice, Item.attached, Progress.take, hsettle, Progress.give]
      rfl
  obtain ⟨c, cs, hbody⟩ := List.exists_cons_of_ne_nil (l := i.body) (by simp [Item.body, i.choice.long_ne_nil])
  have hread : readLong v p i.body = p.give i := by
    rw [readLong, splitValue_body, long?_long h]
    exact htake
  rw [readWords, i.toList_word, hbody]
  rw [hbody] at hread
  simp only [hread]
  rfl

namespace Item

/-- The value that an item gives. -/
def value? : Item → Option (Valued × String)
  | value o text => some (o, text)
  | _ => none

/-- The flag that an item gives. -/
def flag? : Item → Option Flag
  | flag f => some f
  | _ => none

/-- Whether the value of an item is one that its option takes. -/
def isAccepted : Item → Bool
  | value o text => o.accepts text
  | _ => true

/-- Two items may stand on one command line: they are of different options, or both are
steps of verbosity. -/
def Compatible (i j : Item) : Prop := i.choice = j.choice → i.choice = .verbosity

instance : Std.Symm Compatible where
  symm i j h hchoice := by
    rw [hchoice]
    exact h hchoice.symm

/-- No option comes twice, but for the verbosity. -/
def Distinct (items : List Item) : Prop := items.Pairwise Compatible

theorem Distinct.perm {items items' : List Item} (h : Distinct items) (hperm : items.Perm items') : Distinct items' :=
  (hperm.pairwise_iff fun hij => Std.Symm.symm _ _ hij).1 h

theorem eq_verbosity {i : Item} (h : i.choice = .verbosity) : i = verbosity := by
  cases i with
  | value | flag => cases h
  | verbosity => rfl

/-- Two items of one option are one item. -/
theorem Distinct.eq_of_choice {items : List Item} (h : Distinct items) {i j : Item} (hi : i ∈ items) (hj : j ∈ items)
    (hchoice : i.choice = j.choice) : i = j := by
  by_contra hne
  have hverbosity : i.choice = .verbosity := List.Pairwise.forall h hi hj hne hchoice
  exact hne ((eq_verbosity hverbosity).trans (eq_verbosity (hchoice ▸ hverbosity)).symm)

theorem mem_value? {items : List Item} {o : Valued} {text : String} :
    (o, text) ∈ items.filterMap value? ↔ value o text ∈ items := by
  rw [List.mem_filterMap]
  constructor
  · rintro ⟨i, hi, hvalue⟩
    cases i with
    | value o' text' =>
      cases hvalue
      exact hi
    | flag | verbosity => cases hvalue
  · exact fun h => ⟨_, h, rfl⟩

theorem mem_flag? {items : List Item} {f : Flag} : f ∈ items.filterMap flag? ↔ flag f ∈ items := by
  rw [List.mem_filterMap]
  constructor
  · rintro ⟨i, hi, hflag⟩
    cases i with
    | flag f' =>
      cases hflag
      exact hi
    | value | verbosity => cases hflag
  · exact fun h => ⟨_, h, rfl⟩

end Item

open Item (Distinct)

/-- What has been read after the words of items. -/
def Progress.ofItems (items : List Item) : Progress where
  values := items.filterMap Item.value?
  flags := items.filterMap Item.flag?
  verbosity := min (items.count .verbosity) maxVerbosity

namespace Progress

variable {items : List Item}

theorem mem_of_lookup_ofItems {o : Valued} {text : String} (h : (ofItems items).values.lookup o = some text) :
    .value o text ∈ items := Item.mem_value?.1 (mem_of_lookup h)

theorem lookup_ofItems (h : Distinct items) {o : Valued} {text : String} :
    (ofItems items).values.lookup o = some text ↔ .value o text ∈ items := by
  refine ⟨mem_of_lookup_ofItems, fun hmem => ?_⟩
  cases hlookup : (ofItems items).values.lookup o with
  | none => exact absurd (List.lookup_eq_none_iff.1 hlookup _ (Item.mem_value?.2 hmem)) (by simp)
  | some text' =>
    have heq := h.eq_of_choice (mem_of_lookup_ofItems hlookup) hmem rfl
    rw [(Item.value.inj heq).2]

/-- One item more. -/
theorem give_ofItems {i : Item} (h : Distinct (items ++ [i])) (haccepted : i.isAccepted = true) :
    (ofItems items).give i = .ok (ofItems (items ++ [i])) := by
  have hnew : ∀ j ∈ items, j.choice = i.choice → j.choice = .verbosity :=
    fun j hj => (List.pairwise_append.1 h).2.2 j hj i List.mem_cons_self
  cases i with
  | value o text =>
    have hnone : (ofItems items).values.lookup o = none := by
      cases hlookup : (ofItems items).values.lookup o with
      | none => rfl
      | some text' => cases hnew _ (mem_of_lookup_ofItems hlookup) rfl
    have haccepts : o.accepts text = true := haccepted
    rw [give, store, hnone, haccepts]
    simp [ofItems, Item.value?, Item.flag?]
  | flag f =>
    have hnone : f ∉ (ofItems items).flags := fun hmem => by cases hnew _ (Item.mem_flag?.1 hmem) rfl
    rw [give, choose, if_neg hnone]
    simp [ofItems, Item.value?, Item.flag?]
  | verbosity =>
    have hcount : min (min (items.count .verbosity) 255 + 1) 255 = min (items.count .verbosity + 1) 255 := by omega
    rw [give, choose]
    simp [ofItems, Item.value?, Item.flag?, maxVerbosity, hcount]

/-- The words of items add up what they give. -/
theorem readWords_words {v : Verb} (before : List Item) (hchoices : ∀ i ∈ items, i.choice ∈ v.choices)
    (haccepted : ∀ i ∈ items, i.isAccepted = true) (h : Distinct (before ++ items)) :
    readWords v (ofItems before) (items.map Item.word) = .ok (ofItems (before ++ items)) := by
  induction items generalizing before with
  | nil => rw [List.map_nil, readWords, settle, List.append_nil]; rfl
  | cons i items ih =>
    have hfirst : Distinct (before ++ [i]) := h.sublist (by simp)
    rw [List.map_cons, readWords_word (hchoices i List.mem_cons_self) rfl,
      give_ofItems hfirst (haccepted i List.mem_cons_self)]
    have hothers := ih (before ++ [i]) (fun j hj => hchoices j (List.mem_cons_of_mem i hj))
      (fun j hj => haccepted j (List.mem_cons_of_mem i hj)) (by simpa using h)
    simpa [Except.bind] using hothers

end Progress

end DecoderBench.CommandLine
