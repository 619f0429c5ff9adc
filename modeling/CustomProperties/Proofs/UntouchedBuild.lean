import CustomProperties.Proofs.OptionsAgreement
import CustomProperties.Proofs.WrittenFiles
import Mathlib

/-!
# Builds that touch nothing

Two things stand against a build (`Objection`).  Its options file may have a defect, which stops
every command in the same way: it is missing, it cannot be read, it holds no options, or one of its
elements has no id (`Defect`).  Or two of its modules with content go to one file.  Defects are met
while loading and after compiling, and a file that two modules share before writing, but all of
them before the first directory is made (`Objection.exists_failure`).  So such a build fails and
leaves the file system as it was, whatever directory it was to write to: `build_untouched`.
-/

namespace CustomProperties.CommandLine

set_option autoImplicit false

variable {files : FileSystem} {options : String}

/-! ## Objections -/

/-- What stands against a build of the modules in an options file. -/
inductive Objection (files : FileSystem) (options : String) : Prop where
  /-- The file is of no use to any command. -/
  | defect (defect : Defect files options)
  /-- Two of its modules, both with content, have the same file. -/
  | conflict {text : String} {requests : List ModuleRequest} {first second : Stylesheet}
    (read : files.readText options = .ok text) (parsed : Options.parse text = .ok requests)
    (member : first ∈ (compile requests).stylesheets)
    (member' : second ∈ (compile requests).stylesheets)
    (different : first ≠ second)
    (content : first.text.isSome) (content' : second.text.isSome)
    (same : fileName first.moduleId = fileName second.moduleId)

/-- A build whose modules share a file fails before it writes. -/
theorem build_runOn_of_conflict {modules : VirtualModules} {conflict : Conflict}
    (loaded : modulesIn files options = .ok modules) (registered : unregistered? modules = none)
    (found : (scan modules.stylesheets).conflict = some conflict) (directory : String) :
    ∃ outcome, (Command.build options directory).runOn files = (outcome, files) ∧
      outcome.failure = some (.write (.conflict conflict)) := by
  have wrote : (writeStylesheets modules.stylesheets directory : StateM FileSystem WriteReport).run
      files = (_, files) := writeStylesheets_run_of_conflict found
  obtain ⟨log, ran⟩ := build_runOn loaded registered wrote
  exact ⟨_, ran, rfl⟩

/-- **Whatever stands against a build makes it fail** before anything is touched. -/
theorem Objection.exists_failure (objection : Objection files options) (directory : String) :
    ∃ outcome failure, (Command.build options directory).runOn files = (outcome, files) ∧
      outcome.failure = some failure := by
  cases usable : loadFailure? files options with
  | some failure =>
    obtain ⟨outcome, ran, failed⟩ := runOn_of_loadFailure (.build options directory) usable
    exact ⟨outcome, failure, ran, failed⟩
  | none =>
    cases objection with
    | defect defect =>
      obtain ⟨failure, failed⟩ := defect.exists_loadFailure?
      cases usable.symm.trans failed
    | conflict read parsed member member' different content content' same =>
      obtain ⟨modules, loaded, registered⟩ := loadFailure?_eq_none_iff.mp usable
      obtain ⟨-, text, requests, read', parsed', rfl⟩ := (modulesIn_eq_ok_iff modules).mp loaded
      cases read.symm.trans read'
      cases parsed.symm.trans parsed'
      obtain ⟨conflict, found⟩ := exists_conflict member member' different content content' same
      rw [← VirtualModules.stylesheets_ofCompilation] at found
      obtain ⟨outcome, ran, failed⟩ := build_runOn_of_conflict loaded registered found directory
      exact ⟨outcome, _, ran, failed⟩

/-- **A build against which something stands fails and touches nothing**: no file is written
or changed, and no directory is made. -/
theorem build_untouched (objection : Objection files options) (directory : String) :
    ∃ outcome,
      (run (.build options directory) : StateM FileSystem Outcome).run files = (outcome, files) ∧
      outcome.status = 1 := by
  obtain ⟨outcome, failure, ran, failed⟩ := objection.exists_failure directory
  exact ⟨outcome, ran, outcome.status_eq_one_iff.mpr ⟨failure, failed⟩⟩

set_option maxRecDepth 20000 in
/-- Two modules go to a file of which there is an earlier version: that version stays. -/
theorem build_untouched_conflict :
    let text := "[[\"x:t\",\x7b\"a\":\"1\"\x7d],[\"y:t\",\x7b\"a\":\"2\"\x7d]]"
    let files := (FileSystem.empty.place "options.json" (.file text.toUTF8)).place "out/t.css"
      (.file "old".toUTF8)
    ∃ outcome,
      (run (.build "options.json" "out") : StateM FileSystem Outcome).run files
        = (outcome, files) ∧
      outcome.status = 1 := by
  intro text files
  have located : files.locate "options.json"
      = .ok ⟨.file text.toUTF8, [("options.json", files.top)]⟩ := rfl
  have read : files.readText "options.json" = .ok text :=
    FileSystem.readText_of_locate located rfl
  let item (moduleId value : String) : Json :=
    .array [.string moduleId, .object ⟨[⟨"a", .string value⟩]⟩]
  let request (moduleId value : String) : ModuleRequest :=
    { moduleId := some moduleId, sources := [.ofJson (.object ⟨[⟨"a", .string value⟩]⟩)] }
  have holds : Json.parse text = .ok (.array [item "x:t" "1", item "y:t" "2"]) := by cbv
  have parsed : Options.parse text = .ok [request "x:t" "1", request "y:t" "2"] := by
    rw [Options.parse_of_array holds]
    rfl
  let stylesheet (moduleId value : String) : Stylesheet :=
    ⟨moduleId, some (":root \x7b\n  --a: " ++ value ++ ";\n\x7d")⟩
  let requests := [request "x:t" "1", request "y:t" "2"]
  have compiled : (compile requests).stylesheets
      = [stylesheet "x:t" "1", stylesheet "y:t" "2"] := by decide +kernel
  have first : stylesheet "x:t" "1" ∈ (compile requests).stylesheets := by
    rw [compiled]
    exact List.mem_cons_self
  have second : stylesheet "y:t" "2" ∈ (compile requests).stylesheets := by
    rw [compiled]
    exact List.mem_cons_of_mem _ List.mem_cons_self
  have same : fileName "x:t" = fileName "y:t" := by decide +kernel
  exact build_untouched (.conflict read parsed first second (by decide +kernel) rfl rfl same) "out"

end CustomProperties.CommandLine
