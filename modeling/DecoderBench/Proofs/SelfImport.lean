/-
When a generated module imports itself. Its own name is taken out of the project's
imports only: a module called like a base import imports itself, and where no name
of the project has blanks no other does (`imports_itself_iff`).
-/
import DecoderBench.Proofs.Header
import DecoderBench.Proofs.Path
import DecoderBench.Settings

namespace DecoderBench

/-! ## Lines of any text -/

namespace Elm

theorem linesOf_of_not_mem {t : String} (h : '\n' ∉ t.toList) : linesOf t = [t] := by
  have hlines := linesOf_lines (List.cons_ne_nil t []) (by simpa using h)
  rwa [lines, String.intercalate_singleton] at hlines

theorem newline_not_mem_line {t l : String} (h : l ∈ linesOf t) : '\n' ∉ l.toList := by
  obtain ⟨w, hw, rfl⟩ := List.mem_map.1 h
  rw [List.splitOn_eq_splitOnP] at hw
  intro hmem
  rw [String.toList_ofList] at hmem
  exact absurd (not_of_mem_splitOnP hw hmem) (by decide)

theorem linesOf_append_newline (s t : String) : linesOf (s ++ "\n" ++ t) = linesOf s ++ linesOf t := by
  have hcut : (s ++ "\n" ++ t).toList = s.toList ++ '\n' :: t.toList := by simp
  rw [linesOf, hcut, List.splitOn_eq_splitOnP, List.splitOnP_append_cons _ _ (by decide), List.map_append]
  rfl

/-- A text of lines that may have line breaks themselves. -/
theorem linesOf_lines_eq_flatMap {ls : List String} (hne : ls ≠ []) : linesOf (lines ls) = ls.flatMap linesOf := by
  induction ls with
  | nil => exact absurd rfl hne
  | cons l ls ih =>
    cases ls with
    | nil => rw [lines, String.intercalate_singleton, List.flatMap_singleton]
    | cons l' ls =>
      rw [List.flatMap_cons, ← ih (List.cons_ne_nil _ _), ← linesOf_append_newline, lines,
        String.intercalate_cons_of_ne_nil (List.cons_ne_nil _ _)]
      rfl

/-- A text without the blanks at its end. -/
def trimmedEnd (t : String) : String := String.ofList (Text.trimEnd t.toList)

/-- Trimming stops in the last line if that is not all blank. -/
theorem trimmedEnd_lines {init : List String} {last : String} (hne : init ≠ [])
    (h : Text.trimEnd last.toList ≠ []) :
    trimmedEnd (lines (init ++ [last])) = lines (init ++ [trimmedEnd last]) := by
  have hcut : ∀ l, lines (init ++ [l]) = lines init ++ "\n" ++ l := fun l => by
    rw [lines, String.intercalate_append_of_ne_nil hne (by simp), String.intercalate_singleton]
    rfl
  rw [hcut, hcut, trimmedEnd, String.toList_append, Text.trimEnd_append _ h, String.ofList_append,
    String.ofList_toList]
  rfl

end Elm

/-! ## The header of any module -/

namespace Program

open Elm (linesOf trimmedEnd)
open Text (IsToken)

/-- The lines of a header that are there whatever the project holds. -/
def fixedLines (name : String) : List String :=
  ["module " ++ name ++ " exposing (main)", ""] ++ baseImports.map ("import " ++ ·)

theorem headerLines_of_projectImports_nil {plan : Plan} {name : String} (h : projectImports plan name = []) :
    headerLines plan name = fixedLines name := by
  rw [headerLines, h]
  rfl

theorem headerLines_of_projectImports_concat {plan : Plan} {name last : String} {init : List String}
    (h : projectImports plan name = init ++ [last]) :
    headerLines plan name = fixedLines name ++ "" :: init.map ("import " ++ ·) ++ ["import " ++ last] := by
  simp [headerLines, fixedLines, h]

/-- The line that declares a module does not import it, though its name have line breaks. -/
theorem import_not_mem_heading (name : String) :
    "import " ++ name ∉ linesOf ("module " ++ name ++ " exposing (main)") := by
  intro h
  have hname : '\n' ∉ ("module " ++ name ++ " exposing (main)").toList := by
    simpa using Elm.newline_not_mem_line h
  rw [Elm.linesOf_of_not_mem hname, List.mem_singleton, ← String.toList_inj] at h
  simp at h

theorem import_not_mem_empty (name : String) : "import " ++ name ∉ linesOf "" := by
  have hempty : linesOf "" = [""] := by decide
  simp [hempty, ← String.toList_inj]

theorem import_mem_fixedLines {name : String} :
    "import " ++ name ∈ (fixedLines name).flatMap linesOf ↔ name ∈ baseImports := by
  have hbase : (baseImports.map ("import " ++ ·)).flatMap linesOf = baseImports.map ("import " ++ ·) := by
    decide
  rw [fixedLines, List.flatMap_append, hbase, List.mem_append]
  simp only [List.flatMap_cons, List.flatMap_nil, List.mem_append, import_not_mem_heading, import_not_mem_empty,
    List.not_mem_nil, or_self, false_or]
  exact List.mem_map_of_injective fun _ _ => (String.append_right_inj _).1

variable {plan : Plan} {name : String}

theorem trimEnd_import_ne_nil (n : String) : Text.trimEnd ("import " ++ n).toList ≠ [] := by
  rw [Ne, Text.trimEnd_eq_nil_iff]
  intro h
  have := h 'i' (by simp)
  contradiction

/-- **When a header imports the module it belongs to.** The module is called like a
base import, or another module's name, of several lines or with blanks at the end of
the header, makes the same line. -/
theorem import_mem_header :
    "import " ++ name ∈ linesOf (header plan name) ↔
      name ∈ baseImports ∨
      (∃ n ∈ (projectImports plan name).dropLast, "import " ++ name ∈ linesOf ("import " ++ n)) ∨
      ∃ n ∈ (projectImports plan name).getLast?, "import " ++ name ∈ linesOf (trimmedEnd ("import " ++ n)) := by
  have hheader : header plan name = trimmedEnd (Elm.lines (headerLines plan name)) := rfl
  rcases List.eq_nil_or_concat (projectImports plan name) with h | ⟨init, last, h⟩
  · have hlast : fixedLines name = (fixedLines name).dropLast ++ ["import Json.Decode"] := rfl
    have htrim : trimmedEnd "import Json.Decode" = "import Json.Decode" := by decide
    rw [hheader, headerLines_of_projectImports_nil h, hlast,
      Elm.trimmedEnd_lines (by simp [fixedLines, baseImports]) (by decide), htrim, ← hlast,
      Elm.linesOf_lines_eq_flatMap (by simp [fixedLines]), import_mem_fixedLines, h]
    simp
  · rw [List.concat_eq_append] at h
    rw [hheader, headerLines_of_projectImports_concat h,
      Elm.trimmedEnd_lines (by simp) (trimEnd_import_ne_nil last), Elm.linesOf_lines_eq_flatMap (by simp), h,
      List.flatMap_append, List.flatMap_append, List.mem_append, List.mem_append, import_mem_fixedLines, or_assoc,
      List.flatMap_cons, List.mem_append, or_iff_right (import_not_mem_empty name), List.dropLast_concat,
      List.getLast?_concat]
    simp [List.mem_flatMap]

theorem linesOf_import {n : String} (h : IsToken n.toList) : linesOf ("import " ++ n) = ["import " ++ n] := by
  refine Elm.linesOf_of_not_mem ?_
  simpa using newline_not_mem h.solid

theorem trimmedEnd_import {n : String} (h : IsToken n.toList) : trimmedEnd ("import " ++ n) = "import " ++ n := by
  rw [trimmedEnd, String.toList_append, Text.trimEnd_append_token _ h, ← String.toList_append, String.ofList_toList]

/-- Imports of names without blanks are of one line each, which is the name's own. -/
theorem import_mem_header_of_isToken (h : ∀ n ∈ plan.imports, IsToken n.toList) :
    "import " ++ name ∈ linesOf (header plan name) ↔ name ∈ baseImports := by
  have hother : ∀ n ∈ projectImports plan name, "import " ++ name ∉ linesOf ("import " ++ n) := by
    intro n hn hmem
    obtain ⟨hplan, hkept⟩ := List.mem_filter.1 hn
    rw [linesOf_import (h n hplan), List.mem_singleton, String.append_right_inj] at hmem
    simp [hmem] at hkept
  rw [import_mem_header]
  refine ⟨?_, .inl⟩
  rintro (hbase | ⟨n, hn, hmem⟩ | ⟨n, hn, hmem⟩)
  · exact hbase
  · exact absurd hmem (hother n (List.dropLast_subset _ hn))
  · have hn' : n ∈ projectImports plan name := List.mem_of_getLast? hn
    rw [trimmedEnd_import (h n (List.mem_of_mem_filter hn'))] at hmem
    exact absurd hmem (hother n hn')

end Program

namespace PairedProgram

open Elm (linesOf trimmedEnd)

/-- **When a generated module imports itself.** A name that is there for a base import
is not taken out of the header. Every other name is, so that only the name of another
module could make the same line, in one of its lines if it has several, or at the end
of the header without the blanks after it. Where no module has blanks in its name, a
generated module imports itself exactly if it is called like a base import. -/
theorem imports_itself_iff (classifier : Classifier) (modules : List Module) (name : String) :
    let plan := (of classifier modules).plan classifier
    let others := Program.projectImports plan name
    let itself := "import " ++ name
    (itself ∈ linesOf (Program.header plan name) ↔
      name ∈ Program.baseImports ∨
      (∃ n ∈ others.dropLast, itself ∈ linesOf ("import " ++ n)) ∨
      ∃ n ∈ others.getLast?, itself ∈ linesOf (trimmedEnd ("import " ++ n))) ∧
    ((∀ m ∈ modules, ∀ c ∈ m.name.toList, Text.isBlank c = false) →
      (itself ∈ linesOf (Program.header plan name) ↔ name ∈ Program.baseImports)) := by
  intro plan others itself
  exact ⟨Program.import_mem_header, fun hmodules =>
    Program.import_mem_header_of_isToken (isToken_of_mem_imports_plan hmodules)⟩

theorem imports_itself_iff_freeName :
    let modules := [⟨"Html", [⟨"show", "Int -> Html.Html msg"⟩]⟩, ⟨"Main", [⟨"decode", "Json.Decode.Decoder Int"⟩]⟩]
    let plan := (of Settings.none.classifier modules).plan Settings.none.classifier
    ensureNameIsFree modules "DebugDecoders" = .ok () ∧ plan.imports = ["Html", "Main"] ∧
      "import DebugDecoders" ∉ linesOf (Program.header plan "DebugDecoders") := by
  intro modules plan
  have hmodules : ∀ m ∈ modules, ∀ c ∈ m.name.toList, Text.isBlank c = false := by
    simp [modules, Text.isBlank]
  obtain ⟨-, hiff⟩ := imports_itself_iff Settings.none.classifier modules "DebugDecoders"
  refine ⟨by decide, by decide, fun hmem => ?_⟩
  have hbase := (hiff hmodules).1 hmem
  revert hbase
  decide

/-- The settings that give the generated module a name, and nothing else. -/
def namedSettings (name : String) : Settings := ⟨fun k => if k = .moduleName then some name else .none⟩

/-- The name `Html` can be set and is free in a project without modules, and the module
of that name imports `Html`. -/
theorem generated_imports_itself :
    let s := namedSettings "Html"
    let plan := (of s.classifier []).plan s.classifier
    s.value .moduleName = "Html" ∧ s.problems = [] ∧ ensureNameIsFree [] "Html" = .ok () ∧
      "import Html" ∈ linesOf (Program.header plan "Html") :=
  ⟨by decide, by decide, by decide, Program.import_mem_header.2 (.inl (by decide))⟩

/-- A header ends without blanks, and so does the line that imports the last module. -/
example : "import View" ∈ linesOf (Program.header { imports := ["View "] } "View") :=
  Program.import_mem_header.2 (.inr (.inr ⟨"View ", by decide, by decide⟩))

end PairedProgram
end DecoderBench
