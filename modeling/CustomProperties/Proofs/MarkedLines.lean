import CustomProperties.CommandLine.Run
import CustomProperties.Proofs.Accounting
import Mathlib

/-!
# Lines and their marks

A reader of a report tells its lines apart by how they begin: an error and a repeated id in the
report of a check, and a module with a file in the report of a build.  Each of these kinds has a
mark, and counting the lines with the mark counts what they are about (`countP_errorMark`,
`countP_duplicateMark`, `countP_writtenMark`).  No other line of a report has one of the marks,
whatever the ids and the paths in it are.
-/

namespace CustomProperties.CommandLine

set_option autoImplicit false

/-! ## Beginnings -/

/-- Whether a piece of what is printed begins with a mark. -/
def Chunk.begins (mark : String) : Chunk → Bool
  | .text line => mark.toList.isPrefixOf line.toList
  | .elapsed => false

/-- Whether no text begins with both of two texts. -/
def apart (first second : String) : Bool :=
  !first.toList.isPrefixOf second.toList && !second.toList.isPrefixOf first.toList

theorem begins_append (mark rest : String) : (Chunk.text (mark ++ rest)).begins mark = true := by
  rw [Chunk.begins, String.toList_append, List.isPrefixOf_iff_prefix]
  exact List.prefix_append _ _

/-- What begins in another way does not have the mark. -/
theorem begins_append_of_apart {mark : String} (front : String)
    (different : apart mark front = true) (rest : String) :
    (Chunk.text (front ++ rest)).begins mark = false := by
  rw [apart, Bool.and_eq_true, Bool.not_eq_true', Bool.not_eq_true'] at different
  rw [Bool.eq_false_iff, Chunk.begins, ne_eq, String.toList_append, List.isPrefixOf_iff_prefix]
  intro marked
  rcases List.prefix_or_prefix_of_prefix marked (List.prefix_append _ _) with before | before
  · rw [List.isPrefixOf_iff_prefix.mpr before] at different
    cases different.1
  · rw [List.isPrefixOf_iff_prefix.mpr before] at different
    cases different.2

/-! ## What surrounds the marked lines -/

/-- Whether the head and the summary of any report are without a mark. -/
def isSpared (mark : String) : Bool := ["\n", "─", "\x1b[", "ms"].all (apart mark)

section Spared

variable {mark : String} (spared : isSpared mark = true)
include spared

theorem begins_of_isSpared {front : String} (fixed : front ∈ ["\n", "─", "\x1b[", "ms"])
    (rest : String) : (Chunk.text (front ++ rest)).begins mark = false :=
  begins_append_of_apart front (List.all_eq_true.mp spared front fixed) rest

theorem begins_rule : (printed rule).begins mark = false := by
  have first : rule = "─" ++ String.ofList (List.replicate 49 '─') := String.ofList_cons
  rw [printed, first, String.append_assoc]
  exact begins_of_isSpared spared (by simp) _

theorem countP_heading (title options : String) :
    (heading title options).countP (Chunk.begins mark) = 0 := by
  have first : (printed ("\n" ++ bold (pluginName ++ " " ++ title) ++ " - " ++ options)).begins mark
      = false := by
    simp only [printed, String.append_assoc]
    exact begins_of_isSpared spared (by simp) _
  rw [heading, List.countP_cons, List.countP_singleton, first, begins_rule spared]
  rfl

theorem begins_checkSummary (modules : VirtualModules) :
    (checkSummary modules).begins mark = false := by
  simp only [checkSummary, green, styled, printed, String.append_assoc]
  exact begins_of_isSpared spared (by simp) _

theorem countP_buildSummary (files warnings : Nat) (directory : String) :
    (buildSummary files warnings directory).countP (Chunk.begins mark) = 0 := by
  have first : (Chunk.text (green "Wrote" ++ " " ++ toString files ++ " stylesheet(s) to "
      ++ directory ++ " in ")).begins mark = false := by
    simp only [green, styled, String.append_assoc]
    exact begins_of_isSpared spared (by simp) _
  have last (rest : String) : (printed ("ms" ++ rest)).begins mark = false := by
    rw [printed, String.append_assoc]
    exact begins_of_isSpared spared (by simp) _
  rw [buildSummary, List.countP_cons, List.countP_cons, List.countP_singleton, first, last]
  rfl

end Spared

/-! ## Checks -/

/-- The report of a check. -/
def checkReport (options : String) (modules : VirtualModules) : List Chunk :=
  heading "Check" options ++ modules.diagnostics.map diagnosticLine ++ [checkSummary modules]

theorem countP_checkReport {mark : String} (spared : isSpared mark = true) (options : String)
    (modules : VirtualModules) :
    (checkReport options modules).countP (Chunk.begins mark)
      = modules.diagnostics.countP fun diagnostic => (diagnosticLine diagnostic).begins mark := by
  rw [checkReport, List.countP_append, List.countP_append, countP_heading spared, List.countP_map,
    List.countP_singleton, begins_checkSummary spared]
  simp [Function.comp_def]

/-- How the line of an error begins. -/
def errorMark : String := "  " ++ red "error" ++ ": "

/-- How the line of a warning begins. -/
def warningMark : String := "  " ++ yellow "warning" ++ ": "

/-- How the line of a repeated id begins. -/
def duplicateMark : String := warningMark ++ "duplicate module id, \""

/-- The line of a diagnostic tells how grave it is. -/
theorem diagnosticLine_eq (diagnostic : Diagnostic) :
    diagnosticLine diagnostic
      = .text ((if diagnostic.isFatal then errorMark else warningMark)
          ++ (diagnostic.message ++ "\n")) := by
  cases diagnostic <;> exact congrArg Chunk.text (String.append_assoc ..)

theorem begins_errorMark_diagnosticLine (diagnostic : Diagnostic) :
    (diagnosticLine diagnostic).begins errorMark = diagnostic.isFatal := by
  rw [diagnosticLine_eq]
  cases diagnostic.isFatal with
  | true => exact begins_append errorMark _
  | false => exact begins_append_of_apart _ (by decide +kernel) _

theorem begins_duplicateMark_diagnosticLine (diagnostic : Diagnostic) :
    (diagnosticLine diagnostic).begins duplicateMark = diagnostic.isDuplicateModuleId := by
  rw [diagnosticLine_eq]
  cases diagnostic with
  | emptyModuleId index => exact begins_append_of_apart errorMark (by decide +kernel) _
  | duplicateModuleId moduleId index =>
    have worded : Diagnostic.message (.duplicateModuleId moduleId index)
        = "duplicate module id, \"" ++ moduleId ++ "\", found in plugin options at index "
          ++ toString index := rfl
    rw [worded, String.append_assoc, String.append_assoc, String.append_assoc,
      ← String.append_assoc]
    exact begins_append duplicateMark _
  | malformedValue moduleId problems =>
    have worded : Diagnostic.message (.malformedValue moduleId problems)
        = "css variables object for module \"" ++ moduleId ++ "\" is malformed" := rfl
    rw [worded, String.append_assoc, String.append_assoc, ← String.append_assoc]
    exact begins_append_of_apart (warningMark ++ "css variables object for module \"")
      (by decide +kernel) _

/-- **As many lines of a check have the mark of errors as there are fatal diagnostics.** -/
theorem countP_errorMark (options : String) (modules : VirtualModules) :
    (checkReport options modules).countP (Chunk.begins errorMark)
      = modules.diagnostics.countP Diagnostic.isFatal := by
  rw [countP_checkReport (by decide +kernel)]
  simp only [begins_errorMark_diagnosticLine]

theorem countP_duplicateMark (options : String) (modules : VirtualModules) :
    (checkReport options modules).countP (Chunk.begins duplicateMark)
      = modules.diagnostics.countP Diagnostic.isDuplicateModuleId := by
  rw [countP_checkReport (by decide +kernel)]
  simp only [begins_duplicateMark_diagnosticLine]

/-! ## Builds -/

/-- The report of a build that wrote a number of files. -/
def buildReport (options directory : String) (modules : VirtualModules) (files : Nat) :
    List Chunk :=
  heading "Build" options ++ modules.stylesheets.map moduleLine ++ [printed rule]
    ++ buildSummary files modules.diagnostics.length directory

/-- How the line of a module with a file begins. -/
def writtenMark : String := "  " ++ green "✓" ++ " "

theorem begins_writtenMark_moduleLine (stylesheet : Stylesheet) :
    (moduleLine stylesheet).begins writtenMark = !stylesheet.isEmpty := by
  rw [moduleLine]
  cases stylesheet.isEmpty with
  | true =>
    have cut (rest : String) : "  " ++ ("\x1b[" ++ ("2" ++ ("m" ++ rest)))
        = "  \x1b[2m" ++ rest := by
      simp only [← String.append_assoc]
      rfl
    simp only [if_true, printed, dim, styled, String.append_assoc, cut]
    exact begins_append_of_apart _ (by decide +kernel) _
  | false =>
    rw [if_neg Bool.false_ne_true, printed, String.append_assoc]
    exact begins_append writtenMark _

/-- **As many lines of a build have the mark of files as there are stylesheets with text.** -/
theorem countP_writtenMark (options directory : String) (modules : VirtualModules) (files : Nat) :
    (buildReport options directory modules files).countP (Chunk.begins writtenMark)
      = modules.stylesheets.countP (!·.isEmpty) := by
  have spared : isSpared writtenMark = true := by decide +kernel
  rw [buildReport, List.countP_append, List.countP_append, List.countP_append,
    countP_heading spared, countP_buildSummary spared, List.countP_singleton, begins_rule spared,
    List.countP_map]
  simp [Function.comp_def, begins_writtenMark_moduleLine]

end CustomProperties.CommandLine
