import CustomProperties.Proofs.CommandRuns
import CustomProperties.Proofs.MarkedLines

/-!
# What commands come to

A run of a command is an outcome and the files that it leaves (`Command.runOn`).  Whether a
command can use its options file is the same question for all of them: either there is a reason
that it cannot (`loadFailure?`), and then every command fails for that reason and touches nothing
(`runOn_of_loadFailure`), or there are modules that it goes on with.  For these, one statement for
each command says what it prints and how it fails; the log is left open, since nothing depends on
it.
-/

namespace CustomProperties.CommandLine

set_option autoImplicit false

/-- What running a command comes to: its outcome, and the files that it leaves. -/
def Command.runOn (command : Command) (files : FileSystem) : Outcome × FileSystem :=
  (run command : StateM FileSystem Outcome).run files

/-- The path to the options file of a command. -/
def Command.options : Command → String
  | .build options _ => options
  | .render options _ => options
  | .bundle options _ => options
  | .check options => options

namespace Outcome

theorem status_eq_zero_iff (outcome : Outcome) : outcome.status = 0 ↔ outcome.failure = none := by
  rw [status]
  cases outcome.failure <;> simp

theorem status_eq_one_iff (outcome : Outcome) :
    outcome.status = 1 ↔ ∃ failure, outcome.failure = some failure := by
  rw [status]
  cases outcome.failure <;> simp

end Outcome

/-! ## Options that cannot be used -/

/-- Why no command can use an options file, if there is a reason. -/
def loadFailure? (files : FileSystem) (path : String) : Option Failure :=
  match modulesIn files path with
  | .error failure => some failure
  | .ok modules => unregistered? modules

section Stages

variable {files : FileSystem} {path : String} {modules : VirtualModules}

theorem loadFailure?_eq_none_iff :
    loadFailure? files path = none
      ↔ ∃ modules, modulesIn files path = .ok modules ∧ unregistered? modules = none := by
  rw [loadFailure?]
  cases modulesIn files path with
  | error failure => simp
  | ok modules => simp

variable {next : VirtualModules → List Log.Record → StateM FileSystem Outcome}

/-- A command that needs modules fails and touches nothing if its options cannot be used. -/
theorem withModules_run_of_loadFailure {failure : Failure}
    (failed : loadFailure? files path = some failure) :
    ∃ log, (withModules path next).run files = ({ log, failure := some failure }, files) := by
  rw [loadFailure?] at failed
  cases loaded : modulesIn files path with
  | error reason =>
    rw [loaded] at failed
    cases failed
    exact withModules_run_error loaded
  | ok modules =>
    simp only [loaded] at failed
    obtain ⟨log, ran⟩ := @withModules_run_ok files path next modules loaded
    rw [failed] at ran
    exact ⟨log, ran⟩

/-- Otherwise it goes on with the modules. -/
theorem withModules_run_of_registered (loaded : modulesIn files path = .ok modules)
    (registered : unregistered? modules = none) :
    ∃ log, (withModules path next).run files = (next modules log).run files := by
  obtain ⟨log, ran⟩ := @withModules_run_ok files path next modules loaded
  rw [registered] at ran
  exact ⟨log, ran⟩

/-! ## Checking -/

/-- A check that gets past loading prints its report, and fails if a module is missing. -/
theorem check_runOn_of_loaded (loaded : modulesIn files path = .ok modules) :
    ∃ log, (Command.check path).runOn files
      = ({ output := checkReport path modules, log, failure := unregistered? modules }, files) := by
  obtain ⟨log, ran⟩ := loadModules_run files path
  rw [loaded] at ran
  rw [Command.runOn, run, check, FileSystem.run_bind, ran]
  exact ⟨log, rfl⟩

/-- Any other one prints nothing. -/
theorem check_runOn_of_error {failure : Failure} (failed : modulesIn files path = .error failure) :
    ∃ log, (Command.check path).runOn files = ({ log, failure := some failure }, files) := by
  obtain ⟨log, ran⟩ := loadModules_run files path
  rw [failed] at ran
  rw [Command.runOn, run, check, FileSystem.run_bind, ran]
  exact ⟨log, rfl⟩

/-- **A check touches nothing, and fails exactly if the options cannot be used.** -/
theorem check_runOn (files : FileSystem) (path : String) :
    ∃ outcome, (Command.check path).runOn files = (outcome, files) ∧
      outcome.failure = loadFailure? files path := by
  rw [loadFailure?]
  cases loaded : modulesIn files path with
  | error failure =>
    obtain ⟨log, ran⟩ := check_runOn_of_error loaded
    exact ⟨_, ran, rfl⟩
  | ok modules =>
    obtain ⟨log, ran⟩ := check_runOn_of_loaded loaded
    exact ⟨_, ran, rfl⟩

/-- **Every command fails for the same reason if its options cannot be used**, and touches
nothing. -/
theorem runOn_of_loadFailure (command : Command) {failure : Failure}
    (failed : loadFailure? files command.options = some failure) :
    ∃ outcome, command.runOn files = (outcome, files) ∧ outcome.failure = some failure := by
  cases command with
  | build options directory =>
    obtain ⟨log, ran⟩ := withModules_run_of_loadFailure failed
    exact ⟨_, ran, rfl⟩
  | render options moduleId =>
    obtain ⟨log, ran⟩ := withModules_run_of_loadFailure failed
    exact ⟨_, ran, rfl⟩
  | bundle options moduleIds =>
    obtain ⟨log, ran⟩ := withModules_run_of_loadFailure failed
    exact ⟨_, ran, rfl⟩
  | check options =>
    obtain ⟨outcome, ran, same⟩ := check_runOn files options
    exact ⟨outcome, ran, same.trans failed⟩

/-! ## Printing -/

/-- A text as a line, and nothing if there is none. -/
def lineOf (text? : Option String) : String := (text?.map (· ++ "\n")).getD ""

@[simp]
theorem lineOf_none : lineOf none = "" := rfl

@[simp]
theorem lineOf_some (text : String) : lineOf (some text) = text ++ "\n" := rfl

/-- What a run prints if it has taken the time that `elapsed` tells. -/
def Outcome.stdout (outcome : Outcome) (elapsed : String) : String :=
  outputText elapsed outcome.output

/-- A command touches nothing, and this is how it fails and what it prints. -/
structure Command.Prints (command : Command) (files : FileSystem) (failure? : Option Failure)
    (text : String) : Prop where
  untouched : (command.runOn files).2 = files
  failure : (command.runOn files).1.failure = failure?
  stdout : ∀ elapsed, (command.runOn files).1.stdout elapsed = text

namespace Command.Prints

variable {command : Command} {failure? : Option Failure} {text : String}

theorem of_runOn (text? : Option String)
    (ran : ∃ log, command.runOn files
      = ({ output := text?.toList.map printed, log, failure := failure? }, files)) :
    command.Prints files failure? (lineOf text?) := by
  obtain ⟨log, ran⟩ := ran
  constructor
  · rw [ran]
  · rw [ran]
  · intro elapsed
    rw [ran]
    cases text? with
    | none => rfl
    | some text => simp [Outcome.stdout, outputText, printed, String.join]

theorem status_eq_zero_iff (prints : command.Prints files failure? text) :
    (command.runOn files).1.status = 0 ↔ failure? = none := by
  rw [Outcome.status_eq_zero_iff, prints.failure]

end Command.Prints

/-- A command that prints modules prints nothing if its options cannot be used. -/
theorem render_prints_of_loadFailure {failure : Failure}
    (failed : loadFailure? files path = some failure) (moduleId : String) :
    (Command.render path moduleId).Prints files (some failure) "" :=
  .of_runOn none (withModules_run_of_loadFailure failed)

theorem bundle_prints_of_loadFailure {failure : Failure}
    (failed : loadFailure? files path = some failure) (moduleIds : List String) :
    (Command.bundle path moduleIds).Prints files (some failure) "" :=
  .of_runOn none (withModules_run_of_loadFailure failed)

/-- How printing a module of an index fails. -/
def unknown? (modules : VirtualModules) (moduleId : String) : Option Failure :=
  if modules.has moduleId then none else some (.unknownModule moduleId)

section Registered

variable (loaded : modulesIn files path = .ok modules) (registered : unregistered? modules = none)
include loaded registered

/-- **A module is printed as its content**, if it is known. -/
theorem render_prints (moduleId : String) :
    (Command.render path moduleId).Prints files (unknown? modules moduleId)
      (lineOf (modules.content? moduleId)) := by
  refine .of_runOn _ ?_
  obtain ⟨log, ran⟩ := withModules_run_of_registered loaded registered
  rw [Command.runOn, run, render, ran, unknown?]
  cases known : modules.has moduleId with
  | true =>
    cases content : modules.content? moduleId with
    | none => exact ⟨_, rfl⟩
    | some css => exact ⟨_, rfl⟩
  | false =>
    rw [VirtualModules.content?_of_not_has known]
    exact ⟨_, rfl⟩

/-- **The first unknown module ends a bundle** before anything is printed. -/
theorem bundle_prints_of_find? {moduleIds : List String} {unknown : String}
    (found : moduleIds.find? (!modules.has ·) = some unknown) :
    (Command.bundle path moduleIds).Prints files (some (.unknownModule unknown)) "" := by
  refine .of_runOn none ?_
  obtain ⟨log, ran⟩ := withModules_run_of_registered loaded registered
  rw [Command.runOn, run, bundle, ran, found]
  exact ⟨log, rfl⟩

theorem bundle_prints_of_find?_eq_none {moduleIds : List String}
    (found : moduleIds.find? (!modules.has ·) = none) :
    (Command.bundle path moduleIds).Prints files none (lineOf (modules.bundle? moduleIds)) := by
  refine .of_runOn _ ?_
  obtain ⟨log, ran⟩ := withModules_run_of_registered loaded registered
  rw [Command.runOn, run, bundle, ran, found]
  exact ⟨log, rfl⟩

/-! ## Building -/

/-- A build is the writing of the stylesheets, and reports it unless it failed. -/
theorem build_runOn {directory : String} {report : WriteReport} {final : FileSystem}
    (wrote : (writeStylesheets modules.stylesheets directory : StateM FileSystem WriteReport).run
      files = (report, final)) :
    ∃ log, (Command.build path directory).runOn files
      = (match report.failure with
          | some error => { output := heading "Build" path, log, failure := some (.write error) }
          | none => { output := buildReport path directory modules report.written.length, log },
        final) := by
  obtain ⟨log, ran⟩ := withModules_run_of_registered loaded registered
  rw [Command.runOn, run, build, ran, FileSystem.run_bind, wrote]
  cases failed : report.failure with
  | some error => exact ⟨log ++ Log.ofWriting report, rfl⟩
  | none => exact ⟨log ++ Log.ofWriting report, rfl⟩

end Registered

end Stages

end CustomProperties.CommandLine
