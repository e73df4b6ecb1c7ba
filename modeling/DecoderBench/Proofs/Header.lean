/-
The header of the generated module, line by line. Names without blanks leave its
lines apart (`linesOf_header`), so its import lines name the base imports and then
the program's own modules that are referred to (`references_imported`).
-/
import DecoderBench.Proofs.Firsts
import DecoderBench.Proofs.PairedProgram
import DecoderBench.Proofs.Text.Tokens
import DecoderBench.Run

namespace DecoderBench

open Text (IsToken)

/-! ## Lines -/

namespace Elm

/-- The lines of a text. -/
def linesOf (text : String) : List String := (text.toList.splitOn '\n').map String.ofList

theorem linesOf_lines {ls : List String} (hne : ls ≠ []) (h : ∀ l ∈ ls, '\n' ∉ l.toList) :
    linesOf (lines ls) = ls := by
  have hsplit : (['\n'].intercalate (ls.map String.toList)).splitOn '\n' = ls.map String.toList :=
    List.splitOn_intercalate '\n' (List.forall_mem_map.2 h) (by simpa using hne)
  rw [linesOf, lines, String.toList_intercalate]
  change ((['\n'].intercalate (ls.map String.toList)).splitOn '\n').map String.ofList = ls
  rw [hsplit, List.map_map]
  simp [Function.comp_def]

/-- The module that a line imports, if it is an import line. -/
def importOf? (line : String) : Option String :=
  ("import ".toList.isPrefixOf? line.toList).map String.ofList

theorem importOf?_import (name : String) : importOf? ("import " ++ name) = some name := by
  simp [importOf?, List.isPrefixOf?]

theorem eq_of_importOf?_eq_some {line name : String} (h : importOf? line = some name) :
    line = "import " ++ name := by
  obtain ⟨rest, hrest, rfl⟩ := Option.map_eq_some_iff.1 h
  rw [← String.toList_inj, String.toList_append, ← List.append_eq_of_isPrefixOf?_eq_some hrest]
  simp

end Elm

namespace Program

/-- The modules that the lines of a header import, in their order. -/
def importedBy (header : String) : List String := (Elm.linesOf header).filterMap Elm.importOf?

theorem mem_importedBy {header name : String} :
    name ∈ importedBy header ↔ "import " ++ name ∈ Elm.linesOf header := by
  rw [importedBy, List.mem_filterMap]
  constructor
  · rintro ⟨line, hline, himport⟩
    rwa [← Elm.eq_of_importOf?_eq_some himport]
  · exact fun h => ⟨_, h, Elm.importOf?_import name⟩

theorem filterMap_importOf?_map (names : List String) :
    (names.map ("import " ++ ·)).filterMap Elm.importOf? = names := by
  simp [List.filterMap_map, Elm.importOf?_import]

variable {plan : Plan} {name : String}

/-- A header ends in an import line. -/
theorem exists_headerLines_eq (name : String) (h : ∀ m ∈ plan.imports, IsToken m.toList) :
    ∃ init m, init ≠ [] ∧ headerLines plan name = init ++ ["import " ++ m] ∧ IsToken m.toList := by
  rcases List.eq_nil_or_concat (projectImports plan name) with he | ⟨l, m, he⟩
  · refine ⟨["module " ++ name ++ " exposing (main)", ""] ++ baseImports.dropLast.map ("import " ++ ·),
      "Json.Decode", by simp, ?_, ⟨by decide, by simp [Text.isBlank]⟩⟩
    rw [headerLines, he]
    rfl
  · refine ⟨["module " ++ name ++ " exposing (main)", ""] ++ baseImports.map ("import " ++ ·) ++
      "" :: l.map ("import " ++ ·), m, by simp, by simp [headerLines, he], h m ?_⟩
    have hm : m ∈ projectImports plan name := by simp [he]
    exact List.mem_of_mem_filter hm

theorem header_eq_lines (h : ∀ m ∈ plan.imports, IsToken m.toList) :
    header plan name = Elm.lines (headerLines plan name) := by
  obtain ⟨init, m, hne, he, hm⟩ := exists_headerLines_eq name h
  have hlast : (Elm.lines (headerLines plan name)).toList =
      ((Elm.lines init).toList ++ "\n".toList ++ "import ".toList) ++ m.toList := by
    rw [he, Elm.lines, String.intercalate_append_of_ne_nil hne (by simp), String.intercalate_singleton]
    simp only [String.toList_append, List.append_assoc]
    rfl
  rw [header, hlast, Text.trimEnd_append_token _ hm, ← hlast, String.ofList_toList]

theorem newline_not_mem {t : List Char} (h : ∀ c ∈ t, Text.isBlank c = false) : '\n' ∉ t :=
  fun hmem => absurd (h _ hmem) (by decide)

theorem linesOf_header (hname : ∀ c ∈ name.toList, Text.isBlank c = false)
    (h : ∀ m ∈ plan.imports, IsToken m.toList) :
    Elm.linesOf (header plan name) = headerLines plan name := by
  have hmodule : '\n' ∉ ("module " ++ name ++ " exposing (main)").toList := by
    have := newline_not_mem hname
    simpa using this
  have himport : ∀ m : String, '\n' ∉ m.toList → '\n' ∉ ("import " ++ m).toList := fun m hm => by simpa using hm
  have hbase : ∀ m ∈ baseImports, '\n' ∉ m.toList := by decide
  rw [header_eq_lines h]
  refine Elm.linesOf_lines (by simp [headerLines]) fun l hl => ?_
  simp only [headerLines, List.mem_append, List.mem_cons, List.not_mem_nil, or_false, List.mem_map] at hl
  rcases hl with ((rfl | rfl) | ⟨m, hm, rfl⟩) | hl
  · exact hmodule
  · exact List.not_mem_nil
  · exact himport m (hbase m hm)
  · split at hl
    · exact absurd hl List.not_mem_nil
    · rcases List.mem_cons.1 hl with rfl | hl
      · exact List.not_mem_nil
      · obtain ⟨m, hm, rfl⟩ := List.mem_map.1 hl
        exact himport m (newline_not_mem (h m (List.mem_of_mem_filter hm)).solid)

theorem importedBy_header (hname : ∀ c ∈ name.toList, Text.isBlank c = false)
    (h : ∀ m ∈ plan.imports, IsToken m.toList) :
    importedBy (header plan name) = baseImports ++ projectImports plan name := by
  have hmodule : Elm.importOf? ("module " ++ name ++ " exposing (main)") = none := by
    simp [Elm.importOf?, List.isPrefixOf?]
  have hempty : Elm.importOf? "" = none := by decide
  rw [importedBy, linesOf_header hname h, headerLines, List.filterMap_append, List.filterMap_append,
    filterMap_importOf?_map, List.filterMap_cons_none hmodule, List.filterMap_cons_none hempty]
  cases hp : projectImports plan name with
  | nil => simp
  | cons m l =>
    rw [← hp, if_neg (by simp [hp]), List.filterMap_cons_none hempty, filterMap_importOf?_map]
    rfl

/-- The lines of a header make the names of `m` known: they import it, unless its names
are written without a module. -/
def Imports (header : String) (m : Module) : Prop :=
  m.isNameless = false → "import " ++ m.name ∈ Elm.linesOf header

end Program

/-! ## The imports of a program -/

/-- Whether `m` declares a decoder or a simple view. -/
def Module.declares (classifier : Classifier) (m : Module) : Bool :=
  m.signatures.any fun s => classifier.isDecoder s || classifier.isView s

theorem Module.isEmpty_restrict (classifier : Classifier) (m : Module) :
    (m.restrict classifier .decodersAndViews).isEmpty = !m.declares classifier := by
  rw [Bool.eq_iff_iff, isEmpty, List.isEmpty_iff, restrict, List.filter_eq_nil_iff]
  simp [declares, Selection.keeps]

namespace PairedProgram

variable {classifier : Classifier} {modules : List Module} {name : String}

theorem imports_plan (classifier : Classifier) (modules : List Module) :
    ((of classifier modules).plan classifier).imports =
      ((modules.filter fun m => !m.isNameless && m.declares classifier).map (·.name)).eraseDups := by
  change Plan.importsOf (classify classifier modules) = _
  rw [Plan.importsOf, ← List.map_id (firstsBy _ _), map_firstsBy, List.map_id, classify, List.filter_map,
    List.map_map]
  refine congrArg (fun p : Module → Bool => ((modules.filter p).map (·.name)).eraseDups) (funext fun m => ?_)
  rw [Function.comp_apply, Module.isEmpty_restrict, Bool.not_not, Bool.and_comm]
  rfl

theorem mem_imports_plan {n : String} :
    n ∈ ((of classifier modules).plan classifier).imports ↔
      ∃ m ∈ modules, m.isNameless = false ∧ m.declares classifier = true ∧ m.name = n := by
  rw [imports_plan, List.mem_eraseDups]
  simp only [List.mem_map, List.mem_filter, Bool.and_eq_true, Bool.not_eq_true', and_assoc]

section

variable (hmodules : ∀ m ∈ modules, ∀ c ∈ m.name.toList, Text.isBlank c = false)
  (hname : ∀ c ∈ name.toList, Text.isBlank c = false) (hfree : ensureNameIsFree modules name = .ok ())
include hmodules

theorem isToken_of_mem_imports_plan :
    ∀ n ∈ ((of classifier modules).plan classifier).imports, IsToken n.toList := by
  intro n hn
  obtain ⟨m, hm, hnamed, -, rfl⟩ := mem_imports_plan.1 hn
  refine ⟨fun hnil => ?_, hmodules m hm⟩
  rw [String.toList_eq_nil_iff] at hnil
  rw [Module.isNameless, hnil] at hnamed
  exact absurd hnamed (by decide)

include hname hfree

theorem importedBy_header_plan :
    Program.importedBy (Program.header ((of classifier modules).plan classifier) name) =
      Program.baseImports ++
        ((modules.filter fun m => !m.isNameless && m.declares classifier).map (·.name)).eraseDups.filter
          fun n => n ∉ Program.baseImports := by
  rw [Program.importedBy_header hname (isToken_of_mem_imports_plan hmodules), Program.projectImports, ← imports_plan]
  refine congrArg (Program.baseImports ++ ·) (List.filter_congr fun n hn => ?_)
  obtain ⟨m, hm, -, -, rfl⟩ := mem_imports_plan.1 hn
  have hne : m.name ≠ name := ensureNameIsFree_eq_ok_iff.1 hfree m hm
  simp [hne]

theorem imports_of_declares {m : Module} (hm : m ∈ modules) (hdeclares : m.declares classifier = true) :
    Program.Imports (Program.header ((of classifier modules).plan classifier) name) m := by
  intro hnamed
  rw [← Program.mem_importedBy, importedBy_header_plan hmodules hname hfree, List.mem_append]
  by_cases hbase : m.name ∈ Program.baseImports
  · exact .inl hbase
  · refine .inr (List.mem_filter.2 ⟨?_, by simpa using hbase⟩)
    rw [← imports_plan]
    exact mem_imports_plan.2 ⟨m, hm, hnamed, hdeclares, rfl⟩

theorem nodup_importedBy_header_plan :
    (Program.importedBy (Program.header ((of classifier modules).plan classifier) name)).Nodup := by
  rw [importedBy_header_plan hmodules hname hfree, List.nodup_append]
  refine ⟨by decide, ?_, ?_⟩
  · rw [← imports_plan]
    have hnodup := nodup_map_firstsBy id
      (((classify classifier modules).filter fun m => !m.isEmpty && !m.isNameless).map (·.name))
    rw [List.map_id] at hnodup
    exact hnodup.filter _
  · rintro n hn _ hmem rfl
    simp only [List.mem_filter, decide_eq_true_eq] at hmem
    exact hmem.2 hn

end

theorem declares_of_mem_pair {p : Pairing} (h : p ∈ pair classifier modules) :
    p.owner ∈ modules ∧ p.owner.declares classifier = true := by
  simp only [pair, List.mem_flatMap, List.mem_map, List.mem_filter] at h
  obtain ⟨m, hm, d, ⟨hd, hdecoder⟩, rfl⟩ := h
  exact ⟨hm, List.any_eq_true.2 ⟨d, hd, by simp [hdecoder]⟩⟩

theorem declares_of_isView {m : Module} {v : Signature} (hv : v ∈ m.signatures)
    (hview : classifier.isView v = true) : m.declares classifier = true :=
  List.any_eq_true.2 ⟨v, hv, by simp [hview]⟩

/-- **Every qualified reference is importable.** Where names have no blanks and the name
of the generated module is free, its header imports the module of every decoder in
the table, of every view that a case applies, and of every known view, unless that
module has no name. No line is there twice: behind the base imports stand the names
under which a decoder or a simple view is declared, each where it comes up first. -/
theorem references_imported (classifier : Classifier) (modules : List Module) (name : String)
    (hmodules : ∀ m ∈ modules, ∀ c ∈ m.name.toList, Text.isBlank c = false)
    (hname : ∀ c ∈ name.toList, Text.isBlank c = false) (hfree : ensureNameIsFree modules name = .ok ()) :
    let plan := (of classifier modules).plan classifier
    let header := Program.header plan name
    List.Forall₂ (fun p r => r.reference = p.owner.reference p.decoder.name ∧ Program.Imports header p.owner)
      (pair classifier modules) plan.decoderRows ∧
    (∀ d ∈ plan.decodedCases, ∃ p ∈ pair classifier modules,
      d.view = p.rendering.reference ∧ Program.Imports header p.rendering.owner) ∧
    List.Forall₂ (fun s v => v.1 = s.1.reference s.2.name ∧ Program.Imports header s.1)
      ((ownedSignatures modules).filter fun s => classifier.isView s.2) plan.knownViews ∧
    (Program.importedBy header).Nodup ∧
    Program.importedBy header = Program.baseImports ++
      ((modules.filter fun m => !m.isNameless && m.declares classifier).map (·.name)).eraseDups.filter
        fun n => n ∉ Program.baseImports := by
  intro plan header
  have himports : ∀ m ∈ modules, m.declares classifier = true → Program.Imports header m :=
    fun _ hm hdeclares => imports_of_declares hmodules hname hfree hm hdeclares
  refine ⟨?_, fun d hd => ?_, ?_, nodup_importedBy_header_plan hmodules hname hfree,
    importedBy_header_plan hmodules hname hfree⟩
  · refine ((List.forall₂_and_left _ _).2 ⟨fun p hp => declares_of_mem_pair hp, rows_plan classifier modules⟩).imp ?_
    rintro p r ⟨⟨hm, hdeclares⟩, -, -, -, -, -, rfl⟩
    exact ⟨rfl, himports _ hm hdeclares⟩
  · obtain ⟨p, hp, hmade⟩ := exists_madeFor_plan classifier modules hd
    refine ⟨p, hp, hmade.view, ?_⟩
    rw [rendering_of_mem_pair hp]
    rcases renderingOf_cases classifier modules p.decoder with ht | ⟨m, hm, v, hv, hr, hshows⟩
    · rw [ht]
      exact fun hnamed => absurd hnamed (by decide)
    · rw [hr]
      simp only [Classifier.shows, Bool.and_eq_true] at hshows
      exact himports m hm (declares_of_isView hv hshows.1.1)
  · change List.Forall₂ _ _ ((of classifier modules).plan classifier).knownViews
    rw [knownViews_plan, List.forall₂_map_right_iff, List.forall₂_same]
    intro s hs
    simp only [ownedSignatures, List.mem_filter, List.mem_flatMap, List.mem_map] at hs
    obtain ⟨⟨m, hm, v, hv, rfl⟩, hview⟩ := hs
    exact ⟨rfl, himports m hm (declares_of_isView hv hview)⟩

/-- A program with a name twice, a module without a name, a module that is imported
anyway, and a module that declares neither decoder nor view. -/
def scatteredProgram : List Module :=
  [⟨"Helpers", [⟨"helper", "Int -> Int"⟩]⟩, ⟨"B", [⟨"decode", "Json.Decode.Decoder Int"⟩]⟩,
    ⟨"", [⟨"decode", "Json.Decode.Decoder String"⟩]⟩, ⟨"Html", [⟨"show", "String -> Html.Html msg"⟩]⟩,
    ⟨"A.C", [⟨"show", "Int -> Html.Html msg"⟩]⟩, ⟨"B", [⟨"title", "Html.Html msg"⟩]⟩]

theorem references_imported_scatteredProgram :
    let plan := (of Settings.none.classifier scatteredProgram).plan Settings.none.classifier
    let header := Program.header plan "DebugDecoders"
    (∀ m ∈ scatteredProgram, ∀ c ∈ m.name.toList, Text.isBlank c = false) ∧
      (∀ c ∈ "DebugDecoders".toList, Text.isBlank c = false) ∧
      ensureNameIsFree scatteredProgram "DebugDecoders" = .ok () ∧
      (Program.importedBy header).Nodup ∧
      Program.importedBy header =
        ["Dict", "Html", "Html.Attributes", "Html.Events", "Json.Decode", "B", "A.C"] := by
  intro plan header
  have hmodules : ∀ m ∈ scatteredProgram, ∀ c ∈ m.name.toList, Text.isBlank c = false := by
    simp [scatteredProgram, Text.isBlank]
  have hname : ∀ c ∈ "DebugDecoders".toList, Text.isBlank c = false := by simp [Text.isBlank]
  have hfree : ensureNameIsFree scatteredProgram "DebugDecoders" = .ok () :=
    ensureNameIsFree_eq_ok_iff.2 (by decide)
  obtain ⟨-, -, -, hnodup, himported⟩ := references_imported Settings.none.classifier _ _ hmodules hname hfree
  refine ⟨hmodules, hname, hfree, hnodup, himported.trans ?_⟩
  decide

end PairedProgram
end DecoderBench
