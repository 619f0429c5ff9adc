import CustomProperties.Proofs.CommandOutcomes
import CustomProperties.Proofs.ElementIds
import CustomProperties.Proofs.FileTrees
import Mathlib

/-!
# One notion of a valid options file

An options file has a defect if it is missing, cannot be read, holds no options, or has an element
without id (`Defect`).  This is a property of the file system and of the text alone.  A check fails
exactly if there is a defect (`exists_loadFailure?_iff_defect`), and then every other command fails
in the same way.  If there is none, a build fails at writing only, and the commands that print
modules fail at unknown ids only (`concernsOptions_of_usable`).

A check that gets past loading reports on the elements of the file (`IsReportOn`): its lines are
the diagnostics in the order of the elements, and the lines that have the mark of errors are as
many as the elements without id.

The main statement is `commands_agree_on_options`.
-/

namespace CustomProperties.CommandLine

set_option autoImplicit false

open Options (elements isNameless)

variable {files : FileSystem} {path text : String} {value : Json} {requests : List ModuleRequest}

/-! ## Defects -/

/-- What makes an options file useless. -/
inductive Defect (files : FileSystem) (path : String) : Prop where
  /-- There is no such file. -/
  | missing (absent : files.pathExists path = false)
  /-- It cannot be read as a text. -/
  | unreadable {error : FileError} (unread : files.readText path = .error error)
  /-- Its text is not options. -/
  | invalid {text : String} {error : Options.OptionsError}
    (read : files.readText path = .ok text) (bad : Options.parse text = .error error)
  /-- One of its elements has no id, or an empty one. -/
  | unnamed {text : String} {value element : Json}
    (read : files.readText path = .ok text) (holds : Json.parse text = .ok value)
    (member : element ∈ elements value) (nameless : isNameless element = true)

/-- The requests of a text lack as many ids as the elements of the text. -/
theorem unnamedCount_of_parse (holds : Json.parse text = .ok value)
    (parsed : Options.parse text = .ok requests) :
    unnamedCount requests = (elements value).countP isNameless := by
  obtain ⟨value', holds', made⟩ := Options.exists_value_of_parse parsed
  cases holds.symm.trans holds'
  have same := congrArg (List.countP id) (Options.map_isNone_id_of_requests made)
  rw [List.countP_map, List.countP_map] at same
  exact same

theorem modulesIn_of_parse (present : files.pathExists path = true)
    (read : files.readText path = .ok text) (parsed : Options.parse text = .ok requests) :
    modulesIn files path = .ok (.ofCompilation (compile requests)) :=
  (modulesIn_eq_ok_iff _).mpr ⟨present, text, requests, read, parsed, rfl⟩

/-- Past loading, only elements without id make an options file useless. -/
theorem loadFailure?_of_parse (present : files.pathExists path = true)
    (read : files.readText path = .ok text) (holds : Json.parse text = .ok value)
    (parsed : Options.parse text = .ok requests) :
    loadFailure? files path
      = if (elements value).countP isNameless = 0 then none
        else some (.unregistered ((elements value).countP isNameless)) := by
  rw [loadFailure?, modulesIn_of_parse present read parsed]
  dsimp only
  rw [unregistered?_ofCompilation, unnamedCount_of_parse holds parsed]

theorem Defect.exists_loadFailure? (defect : Defect files path) :
    ∃ failure, loadFailure? files path = some failure := by
  rw [← Option.ne_none_iff_exists']
  intro usable
  obtain ⟨modules, loaded, _⟩ := loadFailure?_eq_none_iff.mp usable
  obtain ⟨present, text, requests, read, parsed, _⟩ := (modulesIn_eq_ok_iff modules).mp loaded
  cases defect with
  | missing absent => cases present.symm.trans absent
  | unreadable unread => cases read.symm.trans unread
  | invalid read' bad =>
    cases read.symm.trans read'
    cases parsed.symm.trans bad
  | unnamed read' holds member nameless =>
    cases read.symm.trans read'
    have positive := List.countP_pos_iff.mpr ⟨_, member, nameless⟩
    rw [loadFailure?_of_parse present read holds parsed, if_neg (Nat.ne_of_gt positive)] at usable
    cases usable

theorem defect_of_loadFailure? {failure : Failure}
    (failed : loadFailure? files path = some failure) : Defect files path := by
  cases present : files.pathExists path with
  | false => exact .missing present
  | true =>
    cases read : files.readText path with
    | error error => exact .unreadable read
    | ok text =>
      cases parsed : Options.parse text with
      | error error => exact .invalid read parsed
      | ok requests =>
        obtain ⟨value, holds, _⟩ := Options.exists_value_of_parse parsed
        rw [loadFailure?_of_parse present read holds parsed] at failed
        have positive : 0 < (elements value).countP isNameless := by
          rw [Nat.pos_iff_ne_zero]
          intro none_found
          rw [if_pos none_found] at failed
          cases failed
        obtain ⟨element, member, nameless⟩ := List.countP_pos_iff.mp positive
        exact .unnamed read holds member nameless

/-- **No command can use an options file exactly if it has a defect.** -/
theorem exists_loadFailure?_iff_defect :
    (∃ failure, loadFailure? files path = some failure) ↔ Defect files path :=
  ⟨fun ⟨_, failed⟩ => defect_of_loadFailure? failed, Defect.exists_loadFailure?⟩

/-! ## Failures that are not about options -/

/-- Whether a failure is due to the options file. -/
def Failure.concernsOptions : Failure → Bool
  | .optionsNotFound _ => true
  | .load _ => true
  | .unregistered _ => true
  | .unknownModule _ => false
  | .write _ => false

/-- **A command that can use its options file does not fail because of it.** -/
theorem concernsOptions_of_usable {command : Command} {outcome : Outcome} {final : FileSystem}
    {failure : Failure} (usable : loadFailure? files path = none) (same : command.options = path)
    (ran : command.runOn files = (outcome, final)) (failed : outcome.failure = some failure) :
    failure.concernsOptions = false := by
  obtain ⟨modules, loaded, registered⟩ := loadFailure?_eq_none_iff.mp usable
  cases command with
  | build options directory =>
    obtain rfl : options = path := same
    cases wrote : (writeStylesheets modules.stylesheets directory :
      StateM FileSystem WriteReport).run files with
    | mk report later =>
      obtain ⟨log, built⟩ := build_runOn loaded registered wrote
      cases written : report.failure with
      | none =>
        rw [written] at built
        cases built.symm.trans ran
        cases failed
      | some error =>
        rw [written] at built
        cases built.symm.trans ran
        cases failed
        rfl
  | render options moduleId =>
    obtain rfl : options = path := same
    have prints := (render_prints loaded registered moduleId).failure
    rw [ran, failed, unknown?] at prints
    split at prints
    · cases prints
    · cases prints
      rfl
  | bundle options moduleIds =>
    obtain rfl : options = path := same
    cases found : moduleIds.find? (!modules.has ·) with
    | none =>
      have prints := (bundle_prints_of_find?_eq_none loaded registered found).failure
      rw [ran, failed] at prints
      cases prints
    | some unknown =>
      have prints := (bundle_prints_of_find? loaded registered found).failure
      rw [ran, failed] at prints
      cases prints
      rfl
  | check options =>
    obtain rfl : options = path := same
    obtain ⟨checked, checked_ran, agree⟩ := check_runOn files options
    cases checked_ran.symm.trans ran
    cases usable.symm.trans (agree.symm.trans failed)

/-! ## Reports on elements -/

/-- A report of a check on the elements of an options file and the requests that they make. -/
structure IsReportOn (output : List Chunk) (path : String) (elements : List Json)
    (requests : List ModuleRequest) : Prop where
  /-- Every diagnostic has a line, once and in the order of the requests, and each element counts
  as a module, as an error or as a repetition. -/
  lines : ∃ (diagnostics : List Diagnostic) (total blank : Nat),
    ListedInOrder (Reports requests defaultMaxDepth) diagnostics ∧
    output = heading "Check" path ++ diagnostics.map diagnosticLine
      ++ [printed (green (toString total ++ " module(s)") ++ ", "
            ++ toString blank ++ " without variables")] ∧
    total + output.countP (Chunk.begins errorMark) + output.countP (Chunk.begins duplicateMark)
      = elements.length
  /-- There is an error for each element without id. -/
  errors : output.countP (Chunk.begins errorMark) = elements.countP isNameless

/-- The only error is a missing id. -/
theorem isEmptyModuleId_eq_isFatal : Diagnostic.isEmptyModuleId = Diagnostic.isFatal := by
  funext diagnostic
  cases diagnostic <;> rfl

theorem isReportOn_checkReport (holds : Json.parse text = .ok value)
    (parsed : Options.parse text = .ok requests) (path : String) :
    IsReportOn (checkReport path (.ofCompilation (compile requests))) path (elements value)
      requests := by
  obtain ⟨value', holds', made⟩ := Options.exists_value_of_parse parsed
  cases holds.symm.trans holds'
  constructor
  · refine ⟨(compile requests).diagnostics, _, _,
      listedInOrder_diagnostics requests defaultMaxDepth, rfl, ?_⟩
    have count := length_add_countP_add_countP defaultMaxDepth (candidates requests)
    rw [length_candidates, ((Options.requests_eq_ok_iff _ _).mp made).length_eq.symm] at count
    rw [countP_errorMark, countP_duplicateMark, VirtualModules.stylesheets_ofCompilation, ← count,
      isEmptyModuleId_eq_isFatal]
    rfl
  · rw [countP_errorMark, ← unnamedCount_of_parse holds parsed]
    exact countP_isFatal_compile requests defaultMaxDepth

/-! ## Agreement -/

/-- **The commands agree on what a valid options file is.**

A check fails exactly if the file has a defect.  Then every command fails for the same reason and
touches nothing; otherwise none fails because of the options file.  A check that gets past loading
reports on the elements of the file, and if it fails then because of as many of them as it prints
errors. -/
theorem commands_agree_on_options (files : FileSystem) (path : String) :
    ∃ checked : Outcome, (Command.check path).runOn files = (checked, files) ∧
      (checked.status = 1 ↔ Defect files path) ∧
      (checked.status = 0 ↔ ¬ Defect files path) ∧
      (∀ command : Command, command.options = path →
        ∃ outcome final, command.runOn files = (outcome, final) ∧
          (checked.status = 1 →
            outcome.status = 1 ∧ outcome.failure = checked.failure ∧ final = files) ∧
          (checked.status = 0 → ∀ failure, outcome.failure = some failure →
            failure.concernsOptions = false)) ∧
      ∀ text value requests, files.pathExists path = true → files.readText path = .ok text →
        Json.parse text = .ok value → Options.parse text = .ok requests →
          IsReportOn checked.output path (elements value) requests ∧
          ∀ failure, checked.failure = some failure →
            failure.message
              = toString (checked.output.countP (Chunk.begins errorMark))
                ++ " module option(s) could not be registered" := by
  obtain ⟨checked, ran, same⟩ := check_runOn files path
  have status_one : checked.status = 1 ↔ Defect files path := by
    rw [checked.status_eq_one_iff, same]
    exact exists_loadFailure?_iff_defect
  have status_zero : checked.status = 0 ↔ ¬ Defect files path := by
    rw [checked.status_eq_zero_iff, same, ← exists_loadFailure?_iff_defect,
      ← Option.ne_none_iff_exists', not_not]
  refine ⟨checked, ran, status_one, status_zero, ?_, ?_⟩
  · rintro command rfl
    cases known : loadFailure? files command.options with
    | some failure =>
      obtain ⟨outcome, failed_run, failed⟩ := runOn_of_loadFailure command known
      have agree : outcome.failure = checked.failure := by rw [failed, same, known]
      refine ⟨outcome, files, failed_run, fun _ => ⟨?_, agree, rfl⟩, fun good => ?_⟩
      · exact outcome.status_eq_one_iff.mpr ⟨failure, failed⟩
      · rw [checked.status_eq_zero_iff, same, known] at good
        cases good
    | none =>
      refine ⟨_, _, rfl, fun bad => ?_, fun _ failure failed => ?_⟩
      · rw [checked.status_eq_one_iff, same, known] at bad
        cases bad.choose_spec
      · exact concernsOptions_of_usable known rfl rfl failed
  · intro text value requests present read holds parsed
    obtain ⟨log, reported⟩ := check_runOn_of_loaded (modulesIn_of_parse present read parsed)
    cases reported.symm.trans ran
    have report := isReportOn_checkReport holds parsed path
    refine ⟨report, fun failure failed => ?_⟩
    rw [same, loadFailure?_of_parse present read holds parsed, ← report.errors] at failed
    split at failed
    · cases failed
    · cases failed
      rfl

set_option maxRecDepth 20000 in
/-- The first of three elements has no id: a build fails like a check, and touches nothing. -/
theorem commands_agree_on_options_nameless :
    let text := "[[\"\"],[\"x\"],[\"x\"]]"
    let files := FileSystem.empty.place "options.json" (.file text.toUTF8)
    ∃ checked outcome : Outcome,
      (Command.check "options.json").runOn files = (checked, files) ∧
      (Command.build "options.json" "out").runOn files = (outcome, files) ∧
      outcome.status = 1 ∧ outcome.failure = checked.failure ∧
      checked.failure.map Failure.message
        = some "1 module option(s) could not be registered" := by
  intro text files
  have present : files.pathExists "options.json" = true := rfl
  have located : files.locate "options.json"
      = .ok ⟨.file text.toUTF8, [("options.json", files.top)]⟩ := rfl
  have read : files.readText "options.json" = .ok text :=
    FileSystem.readText_of_locate located rfl
  let item (moduleId : String) : Json := .array [.string moduleId]
  let items : List Json := [item "", item "x", item "x"]
  have holds : Json.parse text = .ok (.array items) := by cbv
  have parsed : Options.parse text = .ok
      [{ moduleId := some "" }, { moduleId := some "x" }, { moduleId := some "x" }] := by
    rw [Options.parse_of_array holds]
    rfl
  have defect : Defect files "options.json" :=
    .unnamed read holds (List.mem_cons_self : item "" ∈ items) (by decide)
  obtain ⟨checked, ran, status_one, _, agree, reports⟩ :=
    commands_agree_on_options files "options.json"
  have bad := status_one.mpr defect
  obtain ⟨outcome, final, built, fails, _⟩ := agree (.build "options.json" "out") rfl
  obtain ⟨status, same, rfl⟩ := fails bad
  obtain ⟨report, message⟩ := reports text _ _ present read holds parsed
  obtain ⟨failure, failed⟩ := checked.status_eq_one_iff.mp bad
  refine ⟨checked, outcome, ran, built, status, same, ?_⟩
  have count : (Options.elements (.array items)).countP isNameless = 1 := by decide
  rw [failed, Option.map_some, message failure failed, report.errors, count]
  decide

end CustomProperties.CommandLine
