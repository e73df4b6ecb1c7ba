/-
The constructors that the generated program declares: those of decoded values, of
known views and of its messages. Each is an identifier, none is declared twice,
and decoders share one exactly if their types have the same tokens
(`constructors_distinct`).
-/
import DecoderBench.Proofs.Firsts
import DecoderBench.Proofs.PairedProgram
import Mathlib.Data.List.TakeWhile

namespace DecoderBench

/-! ## Declarations -/

/-- The name at the start of a constructor's declaration, before its argument. -/
def Elm.constructorName (declaration : String) : String :=
  String.ofList (declaration.toList.takeWhile fun c => c != ' ')

theorem Elm.ne_blank_of_isConstructor {name : String} (h : Identifier.isConstructor name = true) :
    ∀ c ∈ name.toList, (c != ' ') = true := by
  intro c hc
  have hword := Identifier.isWord_of_isConstructor h c hc
  rw [bne_iff_ne]
  rintro rfl
  exact absurd hword (by decide)

theorem Elm.constructorName_append {name : String} (h : Identifier.isConstructor name = true)
    (argument : String) : constructorName (name ++ " " ++ argument) = name := by
  rw [constructorName, String.toList_append, String.toList_append, List.append_assoc,
    List.takeWhile_append_of_pos (ne_blank_of_isConstructor h)]
  simp

theorem Elm.constructorName_self {name : String} (h : Identifier.isConstructor name = true) :
    constructorName name = name := by
  rw [constructorName, List.takeWhile_eq_self_iff.2 (ne_blank_of_isConstructor h), String.ofList_toList]

namespace Program

/-- The names of the constructors of decoded values. -/
def decodedNames (plan : Plan) : List String := (decodedConstructors plan).map Elm.constructorName

/-- The names of the constructors of known views. -/
def viewNames (plan : Plan) : List String := (viewConstructors plan).map Elm.constructorName

/-- The names of all constructors that the generated module declares. -/
def constructorNames (plan : Plan) : List String :=
  decodedNames plan ++ viewNames plan ++ messageConstructors.map Elm.constructorName

/-! ## The constructors of one type -/

/-- The names of a type's constructors: each once, each an identifier, and each with
the `ending` of the type unless it is the `sentinel` of an empty type. -/
structure AreNames (sentinel : String) (ending : List Char) (names : List String) : Prop where
  nodup : names.Nodup
  isConstructor : ∀ n ∈ names, Identifier.isConstructor n = true
  ending : ∀ n ∈ names, n = sentinel ∨ Identifier.ending n = ending

theorem AreNames.sentinel {sentinel : String} {ending : List Char}
    (h : Identifier.isConstructor sentinel = true) : AreNames sentinel ending [sentinel] where
  nodup := List.nodup_singleton sentinel
  isConstructor := by simpa using h
  ending := by simp

/-- The names of a list of cases, read off their declarations. -/
theorem AreNames.of_cases {α : Type} {sentinel : String} {ending : List Char} {l : List α}
    {name declaration : α → String} (hnodup : (l.map name).Nodup)
    (hcon : ∀ a ∈ l, Identifier.isConstructor (name a) = true)
    (hend : ∀ a ∈ l, Identifier.ending (name a) = ending)
    (hname : ∀ a ∈ l, Elm.constructorName (declaration a) = name a) :
    AreNames sentinel ending ((l.map declaration).map Elm.constructorName) := by
  have hnames : (l.map declaration).map Elm.constructorName = l.map name := by
    rw [List.map_map]
    exact List.map_congr_left hname
  rw [hnames]
  exact ⟨hnodup, List.forall_mem_map.2 hcon, List.forall_mem_map.2 fun a ha => .inr (hend a ha)⟩

variable {plan : Plan}

theorem areNames_decodedNames (hnodup : (plan.decodedCases.map (·.name)).Nodup)
    (hcon : ∀ d ∈ plan.decodedCases, Identifier.isConstructor d.name = true)
    (hend : ∀ d ∈ plan.decodedCases, Identifier.ending d.name = ['d', 'a', 'o']) :
    AreNames noDecoders ['d', 'a', 'o'] (decodedNames plan) := by
  unfold decodedNames decodedConstructors
  split
  · exact .sentinel (by decide)
  · exact .of_cases hnodup hcon hend fun d hd => Elm.constructorName_append (hcon d hd) _

theorem areNames_viewNames (hnodup : (plan.viewCases.map (·.name)).Nodup)
    (hcon : ∀ v ∈ plan.viewCases, Identifier.isConstructor v.name = true)
    (hend : ∀ v ∈ plan.viewCases, Identifier.ending v.name = ['g', 'a', 'T']) :
    AreNames noViews ['g', 'a', 'T'] (viewNames plan) := by
  unfold viewNames viewConstructors
  split
  · exact .sentinel (by decide)
  · exact .of_cases hnodup hcon hend fun v hv => Elm.constructorName_self (hcon v hv)

/-- Names of the three types never meet. -/
theorem nodup_constructorNames (hd : AreNames noDecoders ['d', 'a', 'o'] (decodedNames plan))
    (hv : AreNames noViews ['g', 'a', 'T'] (viewNames plan)) : (constructorNames plan).Nodup := by
  have hm : (messageConstructors.map Elm.constructorName).Nodup ∧
      ∀ n ∈ messageConstructors.map Elm.constructorName, n ≠ noDecoders ∧ n ≠ noViews ∧
        Identifier.ending n ≠ ['d', 'a', 'o'] ∧ Identifier.ending n ≠ ['g', 'a', 'T'] := by
    decide
  rw [constructorNames, List.nodup_append, List.nodup_append]
  refine ⟨⟨hd.nodup, hv.nodup, ?_⟩, hm.1, ?_⟩
  · rintro a ha b hb rfl
    rcases hd.ending a ha with rfl | he <;> rcases hv.ending _ hb with h | h
    · exact absurd h (by decide)
    · exact absurd h (by decide)
    · rw [h] at he
      exact absurd he (by decide)
    · rw [h] at he
      exact absurd he (by decide)
  · rintro a ha b hb rfl
    obtain ⟨h1, h2, h3, h4⟩ := hm.2 a hb
    rcases List.mem_append.1 ha with ha | ha
    · exact (hd.ending a ha).elim h1 h3
    · exact (hv.ending a ha).elim h2 h4

end Program

namespace PairedProgram

variable (classifier : Classifier) (modules : List Module)

section

variable {classifier modules}

theorem isConstructor_of_mem_decodedCases {d : DecodedCase}
    (hd : d ∈ ((of classifier modules).plan classifier).decodedCases) :
    Identifier.isConstructor d.name = true := by
  obtain ⟨p, -, ⟨taken, hname⟩, -, -⟩ := exists_madeFor_plan classifier modules hd
  rw [hname]
  exact Identifier.isConstructor_fresh taken (Identifier.isConstructor_payloadName p.decoder)

theorem ending_of_mem_decodedCases {d : DecodedCase}
    (hd : d ∈ ((of classifier modules).plan classifier).decodedCases) :
    Identifier.ending d.name = ['d', 'a', 'o'] := by
  obtain ⟨p, -, ⟨taken, hname⟩, -, -⟩ := exists_madeFor_plan classifier modules hd
  rw [hname, Identifier.ending_fresh, Identifier.ending_payloadName]

theorem exists_tagName_of_mem_viewCases {v : ViewCase}
    (hv : v ∈ ((of classifier modules).plan classifier).viewCases) : ∃ s : Signature, v.name = s.tagName := by
  obtain ⟨s, -, rfl⟩ := List.mem_map.1 hv
  exact ⟨s, rfl⟩

theorem isConstructor_of_mem_viewCases {v : ViewCase}
    (hv : v ∈ ((of classifier modules).plan classifier).viewCases) :
    Identifier.isConstructor v.name = true := by
  obtain ⟨s, hs⟩ := exists_tagName_of_mem_viewCases hv
  rw [hs]
  exact Identifier.isConstructor_tagName s

theorem ending_of_mem_viewCases {v : ViewCase}
    (hv : v ∈ ((of classifier modules).plan classifier).viewCases) :
    Identifier.ending v.name = ['g', 'a', 'T'] := by
  obtain ⟨s, hs⟩ := exists_tagName_of_mem_viewCases hv
  rw [hs]
  exact Identifier.ending_tagName s

end

theorem areNames_decodedNames_plan :
    Program.AreNames Program.noDecoders ['d', 'a', 'o']
      (Program.decodedNames ((of classifier modules).plan classifier)) :=
  Program.areNames_decodedNames (nodup_names_plan classifier modules)
    (fun _ hd => isConstructor_of_mem_decodedCases hd) fun _ hd => ending_of_mem_decodedCases hd

theorem nodup_viewCases_plan : (((of classifier modules).plan classifier).viewCases.map (·.name)).Nodup := by
  change ((Plan.viewCasesOf classifier _).map (·.name)).Nodup
  rw [Plan.viewCasesOf, List.map_map]
  exact nodup_map_firstsBy Signature.tagName _

theorem areNames_viewNames_plan :
    Program.AreNames Program.noViews ['g', 'a', 'T']
      (Program.viewNames ((of classifier modules).plan classifier)) :=
  Program.areNames_viewNames (nodup_viewCases_plan classifier modules)
    (fun _ hv => isConstructor_of_mem_viewCases hv) fun _ hv => ending_of_mem_viewCases hv

/-- The row of a decoder names the constructor of the case of its type. -/
theorem constructor_rows_plan :
    List.Forall₂
      (fun p r => r.reference = p.reference ∧
        ∃ d, (DecoderTable.of classifier (pair classifier modules)).cases.lookup p.key = some d ∧
          r.constructor = d.name)
      (pair classifier modules) ((of classifier modules).plan classifier).decoderRows := by
  rw [decoderRows_plan]
  refine (DecoderTable.tells_of classifier (pair classifier modules)).rows.imp fun p r ⟨d, hd, hr⟩ => ?_
  subst hr
  exact ⟨rfl, d, hd, rfl⟩

/-- **Constructors never clash.** Each decoder has its row; two rows name one
constructor if and only if the types of their decoders have the same tokens; no two
cases have one constructor; and no constructor is declared twice, those of decoded
values and known views being identifiers that start with a capital. -/
theorem constructors_distinct :
    let plan := (of classifier modules).plan classifier
    let pairings := pair classifier modules
    (plan.decoderRows.map (·.reference) = pairings.map (·.reference) ∧
      ∀ a ∈ pairings.zip plan.decoderRows, ∀ b ∈ pairings.zip plan.decoderRows,
        a.2.constructor = b.2.constructor ↔
          Text.tokens a.1.decoder.type.toList = Text.tokens b.1.decoder.type.toList) ∧
    (plan.decodedCases.map (·.name)).Nodup ∧
    (Program.constructorNames plan).Nodup ∧
    ∀ n ∈ Program.decodedNames plan ++ Program.viewNames plan, Identifier.isConstructor n = true := by
  intro plan pairings
  have hd := areNames_decodedNames_plan classifier modules
  have hv := areNames_viewNames_plan classifier modules
  have hrows := constructor_rows_plan classifier modules
  have ht := DecoderTable.tells_of classifier (pair classifier modules)
  refine ⟨⟨?_, fun a ha b hb => ?_⟩, nodup_names_plan classifier modules,
    Program.nodup_constructorNames hd hv, ?_⟩
  · rw [← List.forall₂_eq_eq_eq, List.forall₂_map_left_iff, List.forall₂_map_right_iff]
    exact hrows.flip.imp fun r p h => h.1
  · obtain ⟨-, d, hda, hra⟩ := (List.forall₂_iff_zip.1 hrows).2 ha
    obtain ⟨-, e, heb, hrb⟩ := (List.forall₂_iff_zip.1 hrows).2 hb
    rw [hra, hrb]
    exact ht.name_eq_iff hda heb
  · intro n hn
    rcases List.mem_append.1 hn with hn | hn
    · exact hd.isConstructor n hn
    · exact hv.isConstructor n hn

/-- Types with other tokens get other constructors, also where their payloads ask for
one name. -/
theorem constructors_distinct_of_one_name :
    let classifier := Classifier.lexical "Decoder" "Html.Html"
    let m : Module := ⟨"M", [⟨"spaced", "Decoder List Int"⟩, ⟨"joined", "Decoder ListInt"⟩]⟩
    let rows := (pair classifier [m]).zip ((of classifier [m]).plan classifier).decoderRows
    ∃ a ∈ rows, ∃ b ∈ rows,
      a.1.decoder.payloadName = b.1.decoder.payloadName ∧ a.2.constructor ≠ b.2.constructor := by
  intro classifier m rows
  have ha : (⟨m, ⟨"spaced", "Decoder List Int"⟩, @Rendering.text .nameless⟩,
      ⟨"M.spaced", "ListIntPayload", "viewAsText"⟩) ∈ rows := by decide +kernel
  have hb : (⟨m, ⟨"joined", "Decoder ListInt"⟩, @Rendering.text .nameless⟩,
      ⟨"M.joined", "ListIntPayload2", "viewAsText"⟩) ∈ rows := by decide +kernel
  refine ⟨_, ha, _, hb, by decide +kernel, fun h => ?_⟩
  exact absurd (((constructors_distinct classifier [m]).1.2 _ ha _ hb).1 h) (by decide +kernel)

end PairedProgram
end DecoderBench
