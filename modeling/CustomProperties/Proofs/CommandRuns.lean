import CustomProperties.CommandLine.Run
import CustomProperties.FileSystem.Basic
import CustomProperties.Proofs.ModuleIndex

/-!
# What commands load

Every command starts by loading modules from an options file, and goes on if each of them
could be registered.  Loading reads the file and does nothing else (`loadModules_run`), so
what it comes to is a function of the file system (`modulesIn`), and a command that does not
go on leaves everything as it was (`withModules_run_error`, `withModules_run_ok`).

The modules that could not be registered are those of the requests without id
(`unregistered?_ofCompilation`).
-/

namespace CustomProperties

set_option autoImplicit false

/-! ## Requests without id -/

theorem ModuleRequest.isFatal_malformed? {request : ModuleRequest} {maxDepth : Nat}
    {moduleId : String} {diagnostic : Diagnostic}
    (reported : request.malformed? maxDepth moduleId = some diagnostic) :
    diagnostic.isFatal = false := by
  obtain ⟨_, rfl⟩ := (request.malformed?_eq_some_iff maxDepth moduleId diagnostic).mp reported
  rfl

/-- There is one fatal diagnostic for each request without id, wherever the judging starts. -/
theorem countP_isFatal_candidatesFrom (maxDepth : Nat) (taken : List String) (index : Nat)
    (requests : List ModuleRequest) :
    ((candidatesFrom taken index requests).filterMap
        (Candidate.diagnostic? maxDepth)).countP Diagnostic.isFatal
      = requests.countP fun request => request.id.isNone := by
  induction requests generalizing taken index with
  | nil => rfl
  | cons request rest ih =>
    rw [candidatesFrom]
    cases named : request.id with
    | none =>
      have reported : Candidate.diagnostic? maxDepth ⟨index, request, .unnamed⟩
          = some (.emptyModuleId index) := rfl
      dsimp only
      rw [List.filterMap_cons, reported, List.countP_cons_of_pos rfl, ih,
        List.countP_cons_of_pos (by rw [named]; rfl)]
    | some moduleId =>
      rw [List.countP_cons_of_neg (by rw [named]; exact Bool.false_ne_true)]
      dsimp only
      split
      · exact ih taken (index + 1)
      · rw [List.filterMap_cons]
        cases reported : request.malformed? maxDepth moduleId with
        | none =>
          simp only [Candidate.diagnostic?, reported]
          exact ih (moduleId :: taken) (index + 1)
        | some diagnostic =>
          have harmless := ModuleRequest.isFatal_malformed? reported
          simp only [Candidate.diagnostic?, reported]
          rw [List.countP_cons_of_neg (by rw [harmless]; exact Bool.false_ne_true)]
          exact ih (moduleId :: taken) (index + 1)

namespace CommandLine

/-- How many requests have no id. -/
def unnamedCount (requests : List ModuleRequest) : Nat :=
  requests.countP fun request => request.id.isNone

theorem countP_isFatal_compile (requests : List ModuleRequest) (maxDepth : Nat) :
    (compile requests maxDepth).diagnostics.countP Diagnostic.isFatal = unnamedCount requests :=
  countP_isFatal_candidatesFrom maxDepth [] 0 requests

/-- **Modules could not be registered as far as requests have no id.** -/
theorem unregistered?_ofCompilation (requests : List ModuleRequest) (maxDepth : Nat) :
    unregistered? (.ofCompilation (compile requests maxDepth))
      = if unnamedCount requests = 0 then none
        else some (.unregistered (unnamedCount requests)) := by
  have counted : ((VirtualModules.ofCompilation (compile requests maxDepth)).diagnostics.filter
      Diagnostic.isFatal).length = unnamedCount requests := by
    rw [← List.countP_eq_length_filter]
    exact countP_isFatal_compile requests maxDepth
  rw [unregistered?, counted]
  cases unnamedCount requests with
  | zero => rfl
  | succ count => rfl

/-! ## Loading -/

section Loading

variable {files : FileSystem} {path : String}

/-- What loading an options file comes to. -/
def loadReport (files : FileSystem) (path : String) : LoadReport :=
  match files.readText path with
  | .error error => ⟨[], .error (.read path error)⟩
  | .ok text => .ofText text

/-- The requests in an options file, unless it is missing, unreadable or not options. -/
def requestsIn (files : FileSystem) (path : String) : Except Failure (List ModuleRequest) :=
  if files.pathExists path then (loadReport files path).result.mapError .load
  else .error (.optionsNotFound path)

/-- The modules of an options file. -/
def modulesIn (files : FileSystem) (path : String) : Except Failure VirtualModules :=
  (requestsIn files path).map fun requests => .ofCompilation (compile requests)

/-- **What it takes to load modules**: a file that is there and can be read, and whose text is
options. -/
theorem modulesIn_eq_ok_iff (modules : VirtualModules) :
    modulesIn files path = .ok modules ↔
      files.pathExists path = true ∧
      ∃ text requests, files.readText path = .ok text ∧ Options.parse text = .ok requests ∧
        .ofCompilation (compile requests) = modules := by
  rw [modulesIn, requestsIn, loadReport]
  cases files.pathExists path with
  | false => simp [Except.map]
  | true =>
    cases files.readText path with
    | error error => simp [Except.map, Except.mapError]
    | ok text =>
      simp only [if_true, LoadReport.result_ofText, true_and, Except.ok.injEq, exists_eq_left',
        exists_and_left]
      cases Options.parse text with
      | error error => simp [Except.map, Except.mapError]
      | ok requests => simp [Except.map, Except.mapError]

theorem loadOptions_run (files : FileSystem) (path : String) :
    (loadOptions path : StateM FileSystem _).run files = (loadReport files path, files) := by
  rw [loadOptions, FileSystem.run_bind, FileSystem.run_readText, loadReport]
  cases files.readText path <;> rfl

/-- The log of loading modules from an options file. -/
def loadLog (files : FileSystem) (path : String) : List Log.Record :=
  if files.pathExists path then
    let report := loadReport files path
    let loading := Log.ofLoading path report
    match report.result with
    | .error _ => loading
    | .ok requests =>
      let (modules, delivered) :=
        VirtualModules.build requests (loading ++ Log.ofCompiling requests)
      delivered ++ Log.ofIndexing modules
  else []

/-- **Loading modules reads the options file and touches nothing.** -/
theorem loadModules_run_eq (files : FileSystem) (path : String) :
    (loadModules path : StateM FileSystem _).run files
      = ((loadLog files path, modulesIn files path), files) := by
  rw [loadModules, FileSystem.run_bind, FileSystem.run_pathExists, modulesIn, requestsIn, loadLog]
  cases files.pathExists path with
  | false => rfl
  | true =>
    simp only [Bool.not_true, Bool.false_eq_true, if_false, if_true, FileSystem.run_bind,
      loadOptions_run]
    cases (loadReport files path).result with
    | error error => rfl
    | ok requests => rfl

/-- The log is left open where nothing depends on it. -/
theorem loadModules_run (files : FileSystem) (path : String) :
    ∃ log, (loadModules path : StateM FileSystem _).run files
      = ((log, modulesIn files path), files) :=
  ⟨_, loadModules_run_eq files path⟩

variable {next : VirtualModules → List Log.Record → StateM FileSystem Outcome}

/-- A command whose modules could not be loaded fails and touches nothing. -/
theorem withModules_run_error {failure : Failure} (failed : modulesIn files path = .error failure) :
    ∃ log, (withModules path next).run files = ({ log, failure := some failure }, files) := by
  obtain ⟨log, ran⟩ := loadModules_run files path
  rw [withModules, FileSystem.run_bind, ran, failed]
  exact ⟨log, rfl⟩

/-- **A command goes on with its modules** if all of them could be registered; otherwise it
fails and touches nothing. -/
theorem withModules_run_ok {modules : VirtualModules}
    (loaded : modulesIn files path = .ok modules) :
    ∃ log, (withModules path next).run files
      = match unregistered? modules with
        | some failure => ({ log, failure := some failure }, files)
        | none => (next modules log).run files := by
  obtain ⟨log, ran⟩ := loadModules_run files path
  rw [withModules, FileSystem.run_bind, ran, loaded]
  refine ⟨log, ?_⟩
  cases registered : unregistered? modules with
  | some failure => simp only [registered]; rfl
  | none => simp only [registered]

end Loading

end CommandLine

end CustomProperties
