/-
Command lines in which each option has a word of its own. The order of such words does not
matter: a command comes back from its options in any order, defaults left out or not
(`parse_optionWords`).
-/
import DecoderBench.Proofs.CommandLine.Items
import DecoderBench.Proofs.CommandLine.Spellable
import Mathlib.Data.List.Forall2
import Mathlib.Data.List.Perm.Basic

namespace DecoderBench.CommandLine

open Item (Distinct)

/-! ## The options of a command -/

/-- The item of an option, if it has a value. -/
def pathItems (o : Valued) (value : Option Path) : List Item := value.toList.map fun p => .value o p.text

/-- The item of a flag, if it is given. -/
def flagItems (f : Flag) (given : Bool) : List Item := if given then [.flag f] else []

/-- The items for the options of a source. -/
def sourceItems (s : Source) : List Item :=
  .value .path s.path.text :: (pathItems .interface s.interface ++ pathItems .config s.config)

/-- The items for the options of a command. -/
def itemsOf : Command → List Item
  | .generate job verbosity =>
    sourceItems job.source ++ pathItems .output job.output ++ flagItems .stdout job.stdout ++
      List.replicate verbosity .verbosity
  | .inspect job verbosity =>
    sourceItems job.source ++ [.value .format (formatName job.format)] ++ flagItems .plain job.plain ++
      List.replicate verbosity .verbosity
  | .init force => flagItems .force force

@[simp] theorem map_word_pathItems (o : Valued) (value : Option Path) :
    (pathItems o value).map Item.word = pathWords o value := by
  cases value <;> rfl

@[simp] theorem map_word_flagItems (f : Flag) (given : Bool) :
    (flagItems f given).map Item.word = flagWords f given := by
  cases given <;> rfl

theorem map_word_sourceItems (s : Source) : (sourceItems s).map Item.word = sourceWords s := by
  simp [sourceItems, sourceWords, Item.word]

theorem map_word_itemsOf (c : Command) : (itemsOf c).map Item.word = optionWords c := by
  cases c <;> simp [itemsOf, optionWords, map_word_sourceItems, Item.word, verbosityWords]

@[simp] theorem value_mem_pathItems {o o' : Valued} {text : String} {value : Option Path} :
    .value o text ∈ pathItems o' value ↔ o = o' ∧ value.map Path.text = some text := by
  cases value <;> simp [pathItems, eq_comm]

@[simp] theorem flag_not_mem_pathItems {f : Flag} {o : Valued} {value : Option Path} : .flag f ∉ pathItems o value := by
  simp [pathItems]

@[simp] theorem verbosity_not_mem_pathItems {o : Valued} {value : Option Path} : .verbosity ∉ pathItems o value := by
  simp [pathItems]

@[simp] theorem mem_flagItems {i : Item} {f : Flag} {given : Bool} :
    i ∈ flagItems f given ↔ i = .flag f ∧ given = true := by
  cases given <;> simp [flagItems]

theorem choice_pathItems (o : Valued) (value : Option Path) :
    ((pathItems o value).map Item.choice).Sublist [.valued o] := by
  cases value <;> simp [pathItems, Item.choice]

theorem choice_flagItems (f : Flag) (given : Bool) : ((flagItems f given).map Item.choice).Sublist [.flag f] := by
  cases given <;> simp [flagItems, Item.choice]

theorem choice_sourceItems (s : Source) :
    ((sourceItems s).map Item.choice).Sublist [.valued .path, .valued .interface, .valued .config] := by
  rw [sourceItems, List.map_cons, List.map_append]
  exact ((choice_pathItems .interface s.interface).append (choice_pathItems .config s.config)).cons_cons _

/-- The options of a command that come once. -/
def Verb.once : Verb → List Choice
  | .generate => [.valued .path, .valued .interface, .valued .config, .valued .output, .flag .stdout]
  | .inspect => [.valued .path, .valued .interface, .valued .config, .valued .format, .flag .plain]
  | .init => [.flag .force]

/-- The items of a command: one at most for each option that comes once, and the steps of
verbosity, which `init` has not. -/
theorem exists_itemsOf_eq (c : Command) :
    ∃ once n, itemsOf c = once ++ List.replicate n .verbosity ∧ (once.map Item.choice).Sublist (verbOf c).once ∧
      (n ≠ 0 → .verbosity ∈ (verbOf c).choices) := by
  cases c with
  | generate job verbosity =>
    refine ⟨_, verbosity, rfl, ?_, fun _ => by simp [verbOf, Verb.choices]⟩
    rw [List.map_append, List.map_append]
    exact ((choice_sourceItems job.source).append (choice_pathItems .output job.output)).append
      (choice_flagItems .stdout job.stdout)
  | inspect job verbosity =>
    refine ⟨_, verbosity, rfl, ?_, fun _ => by simp [verbOf, Verb.choices]⟩
    rw [List.map_append, List.map_append]
    exact ((choice_sourceItems job.source).append (List.Sublist.refl [.valued .format])).append
      (choice_flagItems .plain job.plain)
  | init force => exact ⟨_, 0, (List.append_nil _).symm, choice_flagItems .force force, fun h => absurd rfl h⟩

theorem distinct_itemsOf (c : Command) : Distinct (itemsOf c) := by
  obtain ⟨once, n, heq, hsub, -⟩ := exists_itemsOf_eq c
  have hnodup : (once.map Item.choice).Nodup := by
    have honce : (verbOf c).once.Nodup := by cases verbOf c <;> decide
    exact honce.sublist hsub
  rw [heq]
  refine List.pairwise_append.2 ⟨?_, List.pairwise_replicate.2 (.inr fun h => h), fun i _ j hj hchoice => ?_⟩
  · exact (List.pairwise_map.1 hnodup).imp fun hne hchoice => absurd hchoice hne
  · rw [hchoice, List.eq_of_mem_replicate hj]
    rfl

theorem choice_mem_choices {c : Command} {i : Item} (h : i ∈ itemsOf c) : i.choice ∈ (verbOf c).choices := by
  obtain ⟨once, n, heq, hsub, hverbosity⟩ := exists_itemsOf_eq c
  rw [heq, List.mem_append, List.mem_replicate] at h
  rcases h with h | ⟨hn, rfl⟩
  · have honce : ∀ o ∈ (verbOf c).once, o ∈ (verbOf c).choices := by cases verbOf c <;> decide
    exact honce _ (hsub.subset (List.mem_map_of_mem h))
  · exact hverbosity hn

theorem count_verbosity {once : List Item} {n : Nat} (h : Item.verbosity ∉ once) :
    (once ++ List.replicate n Item.verbosity).count .verbosity = n := by
  rw [List.count_append, List.count_eq_zero.2 h, List.count_replicate_self, Nat.zero_add]

theorem formatOf?_formatName (f : Report.Format) : formatOf? (formatName f) = some f := by
  cases f <;> rfl

theorem isAccepted_pathItems {o : Valued} (ho : o ≠ .format) {value : Option Path} (h : ∀ p ∈ value, p.text ≠ "") :
    ∀ i ∈ pathItems o value, i.isAccepted = true := by
  intro i hi
  obtain ⟨p, hp, rfl⟩ := List.mem_map.1 hi
  exact (accepts_path ho).2 (h p (Option.mem_toList.1 hp))

theorem isAccepted_flagItems {f : Flag} {given : Bool} : ∀ i ∈ flagItems f given, i.isAccepted = true := by
  intro i hi
  rw [(mem_flagItems.1 hi).1]
  rfl

theorem isAccepted_sourceItems {s : Source} (h : IsNamed s) : ∀ i ∈ sourceItems s, i.isAccepted = true := by
  rw [sourceItems, List.forall_mem_cons, List.forall_mem_append]
  exact ⟨(accepts_path (o := .path) (by decide)).2 h.path, isAccepted_pathItems (by decide) h.interface,
    isAccepted_pathItems (by decide) h.config⟩

theorem isAccepted_itemsOf {c : Command} (h : IsSpellable c) : ∀ i ∈ itemsOf c, i.isAccepted = true := by
  have hverbosity : ∀ n, ∀ i ∈ List.replicate n Item.verbosity, i.isAccepted = true := by
    intro n i hi
    rw [List.eq_of_mem_replicate hi]
    rfl
  cases c with
  | generate job verbosity =>
    obtain ⟨hsource, houtput, -, -⟩ := h
    rw [itemsOf, List.forall_mem_append, List.forall_mem_append, List.forall_mem_append]
    exact ⟨⟨⟨isAccepted_sourceItems hsource, isAccepted_pathItems (by decide) houtput⟩, isAccepted_flagItems⟩,
      hverbosity _⟩
  | inspect job verbosity =>
    have hformat : (Item.value .format (formatName job.format)).isAccepted = true := by
      simp [Item.isAccepted, Valued.accepts, formatOf?_formatName]
    rw [itemsOf, List.forall_mem_append, List.forall_mem_append, List.forall_mem_append]
    exact ⟨⟨⟨isAccepted_sourceItems h.1, List.forall_mem_singleton.2 hformat⟩, isAccepted_flagItems⟩, hverbosity _⟩
  | init force => exact isAccepted_flagItems

/-! ## Words in any order -/

/-- The items that say nothing: what they give is there without them. -/
def defaultItems : List Item := [.value .path ".", .value .format (formatName .terminal)]

section

variable {c : Command} {given omitted : List Item} (hperm : (given ++ omitted).Perm (itemsOf c))
include hperm

theorem distinct_given : Distinct given :=
  ((distinct_itemsOf c).perm hperm.symm).sublist (List.sublist_append_left given omitted)

theorem mem_itemsOf_iff {i : Item} : i ∈ itemsOf c ↔ i ∈ given ∨ i ∈ omitted := by
  rw [← hperm.mem_iff, List.mem_append]

variable (homitted : ∀ i ∈ omitted, i ∈ defaultItems)
include homitted

/-- What is no default is given. -/
theorem mem_given_iff {i : Item} (hi : i ∉ defaultItems) : i ∈ given ↔ i ∈ itemsOf c := by
  rw [mem_itemsOf_iff hperm]
  exact ⟨.inl, fun h => h.resolve_right fun hmem => hi (homitted i hmem)⟩

theorem lookup_given {o : Valued} (ho : o ≠ .path ∧ o ≠ .format) {text : String} :
    (Progress.ofItems given).values.lookup o = some text ↔ .value o text ∈ itemsOf c := by
  rw [Progress.lookup_ofItems (distinct_given hperm), mem_given_iff hperm homitted]
  simp [defaultItems, ho]

/-- A default is there, whether it was given or not. -/
theorem getD_given {o : Valued} {text default : String} (hdefault : .value o default ∈ defaultItems)
    (h : .value o text ∈ itemsOf c) : ((Progress.ofItems given).values.lookup o).getD default = text := by
  cases hlookup : (Progress.ofItems given).values.lookup o with
  | some text' =>
    have hmem : .value o text' ∈ itemsOf c :=
      (mem_itemsOf_iff hperm).2 (.inl (Progress.mem_of_lookup_ofItems hlookup))
    exact (Item.value.inj ((distinct_itemsOf c).eq_of_choice hmem h rfl)).2
  | none =>
    have hnot : .value o text ∉ given := fun hmem => by
      rw [(Progress.lookup_ofItems (distinct_given hperm)).2 hmem] at hlookup
      cases hlookup
    have hmem : .value o text ∈ defaultItems :=
      homitted _ (((mem_itemsOf_iff hperm).1 h).resolve_left hnot)
    have hdistinct : Distinct defaultItems := by simp [Distinct, defaultItems, Item.Compatible, Item.choice]
    exact (Item.value.inj (hdistinct.eq_of_choice hdefault hmem rfl)).2

theorem mem_flags_given {f : Flag} : f ∈ (Progress.ofItems given).flags ↔ .flag f ∈ itemsOf c := by
  rw [Progress.ofItems, Item.mem_flag?, mem_given_iff hperm homitted]
  simp [defaultItems]

theorem verbosity_given :
    (Progress.ofItems given).verbosity = min ((itemsOf c).count .verbosity) Progress.maxVerbosity := by
  have hnone : omitted.count .verbosity = 0 := by
    rw [List.count_eq_zero]
    exact fun hmem => absurd (homitted _ hmem) (by simp [defaultItems])
  rw [Progress.ofItems, ← hperm.count_eq, List.count_append, hnone, Nat.add_zero]

theorem path?_given {o : Valued} (ho : o ≠ .path ∧ o ≠ .format) {value : Option Path}
    (h : ∀ text, .value o text ∈ itemsOf c ↔ value.map Path.text = some text) :
    (Progress.ofItems given).path? o = value := by
  have hlookup : (Progress.ofItems given).values.lookup o = value.map Path.text := by
    ext text
    rw [lookup_given hperm homitted ho, h]
  rw [Progress.path?, hlookup]
  cases value <;> rfl

/-- What was read of a source's options is the source. -/
theorem source_given {s : Source}
    (h : ∀ o ∈ [Valued.path, .interface, .config], ∀ text, .value o text ∈ itemsOf c ↔ .value o text ∈ sourceItems s) :
    (Progress.ofItems given).source = s := by
  have hpath : ((Progress.ofItems given).path? .path).getD ⟨"."⟩ = s.path := by
    have hdefault : .value .path "." ∈ defaultItems := by decide
    have hlookup := getD_given hperm homitted hdefault ((h .path (by decide) s.path.text).2 List.mem_cons_self)
    rw [Progress.path?]
    cases hvalue : (Progress.ofItems given).values.lookup .path <;> simp_all
  have hinterface : (Progress.ofItems given).path? .interface = s.interface :=
    path?_given hperm homitted (by decide) fun text => by rw [h .interface (by decide)]; simp [sourceItems]
  have hconfig : (Progress.ofItems given).path? .config = s.config :=
    path?_given hperm homitted (by decide) fun text => by rw [h .config (by decide)]; simp [sourceItems]
  rw [Progress.source, hpath, hinterface, hconfig]

theorem format_given {f : Report.Format} (h : .value .format (formatName f) ∈ itemsOf c) :
    (((Progress.ofItems given).values.lookup .format).bind formatOf?).getD .terminal = f := by
  have hdefault : .value .format (formatName .terminal) ∈ defaultItems := by decide
  have hlookup := getD_given hperm homitted hdefault h
  cases hvalue : (Progress.ofItems given).values.lookup .format with
  | none =>
    rw [hvalue, Option.getD_none] at hlookup
    have hname : formatOf? (formatName .terminal) = formatOf? (formatName f) := by rw [hlookup]
    rw [formatOf?_formatName, formatOf?_formatName] at hname
    exact Option.some.inj hname
  | some text =>
    rw [hvalue, Option.getD_some] at hlookup
    rw [hlookup, Option.bind_some, formatOf?_formatName, Option.getD_some]

/-- **The options of a command make the command**, in whatever order they were given. -/
theorem command_given (hc : IsSpellable c) : command (verbOf c) (Progress.ofItems given) = .ok c := by
  have hverbosity := verbosity_given hperm homitted
  cases c with
  | generate job verbosity =>
    have hsource : (Progress.ofItems given).source = job.source := source_given hperm homitted (by simp [itemsOf])
    have houtput : (Progress.ofItems given).path? .output = job.output :=
      path?_given hperm homitted (by decide) fun text => by simp [itemsOf, sourceItems]
    have hstdout : Flag.stdout ∈ (Progress.ofItems given).flags ↔ job.stdout = true := by
      rw [mem_flags_given hperm homitted]
      simp [itemsOf, sourceItems]
    obtain ⟨-, -, hboth, hle⟩ := hc
    have hcount : (Progress.ofItems given).verbosity = verbosity := by
      rw [hverbosity, itemsOf, count_verbosity (by simp [sourceItems])]
      exact Nat.min_eq_left hle
    rw [verbOf, command, hsource, houtput, hcount]
    simp only [hstdout, Bool.decide_eq_true]
    rw [if_neg fun h => hboth h.symm]
  | inspect job verbosity =>
    have hsource : (Progress.ofItems given).source = job.source := source_given hperm homitted (by simp [itemsOf])
    have hformat : (((Progress.ofItems given).values.lookup .format).bind formatOf?).getD .terminal = job.format :=
      format_given hperm homitted (by simp [itemsOf])
    have hplain : Flag.plain ∈ (Progress.ofItems given).flags ↔ job.plain = true := by
      rw [mem_flags_given hperm homitted]
      simp [itemsOf, sourceItems]
    have hcount : (Progress.ofItems given).verbosity = verbosity := by
      rw [hverbosity, itemsOf, count_verbosity (by simp [sourceItems])]
      exact Nat.min_eq_left hc.2
    rw [verbOf, command, hsource, hcount]
    simp only [hformat, hplain, Bool.decide_eq_true]
  | init force =>
    have hforce : Flag.force ∈ (Progress.ofItems given).flags ↔ force = true := by
      rw [mem_flags_given hperm homitted]
      simp [itemsOf]
    rw [verbOf, command]
    simp only [hforce, Bool.decide_eq_true]

end

theorem parse_verb (v : Verb) (ws : List String) :
    parse (v.word :: ws) = (readWords v {} ws).bind fun p => command v p := by
  cases v <;> rfl

/-- Words that are those of some items, in another order, are the words of items in another
order. -/
theorem exists_items_of_perm {ws omitted : List String} {items : List Item}
    (h : (ws ++ omitted).Perm (items.map Item.word)) :
    ∃ given left : List Item, given.map Item.word = ws ∧ left.map Item.word = omitted ∧ (given ++ left).Perm items := by
  have hwords : List.Forall₂ (fun w i => w = Item.word i) (items.map Item.word) items := by
    rw [List.forall₂_map_left_iff, List.forall₂_same]
    exact fun _ _ => rfl
  obtain ⟨items', hitems', hperm⟩ := List.perm_comp_forall₂ h hwords
  have hmap : items'.map Item.word = ws ++ omitted := by
    rw [← List.forall₂_eq_eq_eq, List.forall₂_map_left_iff]
    exact hitems'.flip.imp fun _ _ heq => heq.symm
  obtain ⟨given, left, rfl, hgiven, hleft⟩ := List.map_eq_append_iff.1 hmap
  exact ⟨given, left, hgiven, hleft, hperm⟩

/-- **Command lines denote commands, whatever the order of their options.** The words for
the options of a command that can be spelled, in any order, with or without those that say
what is the default anyway, give the command back. No words give a command that cannot be
spelled: one with an empty path, or one whose module goes both to a file and to the output,
or with a verbosity beyond what is counted. -/
theorem parse_optionWords :
    (∀ (c : Command) (words omitted : List String), IsSpellable c → (words ++ omitted).Perm (optionWords c) →
      (∀ w ∈ omitted, w ∈ ["--path=.", "--format=terminal"]) → parse ((verbOf c).word :: words) = .ok c) ∧
    (∀ (words : List String) (c : Command), parse words = .ok c → IsSpellable c) := by
  refine ⟨fun c words omitted hc hperm homitted => ?_, fun words c => isSpellable_of_parse⟩
  rw [← map_word_itemsOf] at hperm
  obtain ⟨given, left, rfl, rfl, hitems⟩ := exists_items_of_perm hperm
  have hleft : ∀ i ∈ left, i ∈ defaultItems := by
    intro i hi
    have hword : i.word ∈ defaultItems.map Item.word := homitted _ (List.mem_map_of_mem hi)
    obtain ⟨j, hj, heq⟩ := List.mem_map.1 hword
    exact Item.word_injective heq ▸ hj
  have hgiven : ∀ i ∈ given, i ∈ itemsOf c := fun i hi => (mem_itemsOf_iff hitems).2 (.inl hi)
  have hread : readWords (verbOf c) {} (given.map Item.word) = .ok (Progress.ofItems given) :=
    Progress.readWords_words [] (fun i hi => choice_mem_choices (hgiven i hi))
      (fun i hi => isAccepted_itemsOf hc i (hgiven i hi)) (distinct_given hitems)
  rw [parse_verb, hread]
  exact command_given hitems hleft hc

/-- A command whose path starts with a dash and holds the sign that a value comes after. -/
def oddInspect : Command := .inspect ⟨⟨⟨"-x=y"⟩, none, some ⟨"c.toml"⟩⟩, .terminal, true⟩ 2

theorem parse_optionWords_oddInspect :
    IsSpellable oddInspect ∧
    (["--verbosity", "--config=c.toml", "--path=-x=y", "--verbosity", "--plain"] ++ ["--format=terminal"]).Perm
      (optionWords oddInspect) ∧
    parse ["inspect", "--verbosity", "--config=c.toml", "--path=-x=y", "--verbosity", "--plain"] = .ok oddInspect := by
  have hspellable : IsSpellable oddInspect := ⟨⟨by decide, nofun, by simp⟩, by decide⟩
  have hperm : (["--verbosity", "--config=c.toml", "--path=-x=y", "--verbosity", "--plain"] ++
      ["--format=terminal"]).Perm (optionWords oddInspect) := by decide
  exact ⟨hspellable, hperm, parse_optionWords.1 oddInspect _ _ hspellable hperm (by simp)⟩

/-- No option takes an empty value, so the words of a command with an empty path are
refused. -/
theorem words_of_empty_path_refused :
    let c := Command.inspect ⟨⟨⟨""⟩, none, none⟩, .json, false⟩ 0
    optionWords c = ["--path=", "--format=json"] ∧
      parse ((verbOf c).word :: ["--path=", "--format=json"]) = .error .invalidValue := by
  decide

end DecoderBench.CommandLine
