import CustomProperties.Log.Record
import CustomProperties.OptionsFile
import CustomProperties.StylesheetFile
import CustomProperties.VirtualModules

/-!
# The log of a build

Which records the stages of a build leave: loading options, compiling requests,
delivering diagnostics, indexing the modules, and writing files.  Every function
here reads the records off the result of a stage.
-/

namespace CustomProperties.Log

set_option autoImplicit false

/-- A log receives diagnostics as records at their level. -/
instance : DiagnosticSink (List Record) where
  warn log line := log ++ [⟨.warn, .modules, line⟩]
  error log line := log ++ [⟨.error, .modules, line⟩]

/-- The records of loading options from a path. -/
def ofLoading (path : String) (report : LoadReport) : List Record :=
  report.passedOver.map (fun id =>
    ⟨.debug, .options, "Ignoring non-string moduleId: " ++ id.compact⟩) ++
  match report.result with
  | .error _ => []
  | .ok requests => [⟨.debug, .options,
      "Loaded " ++ toString requests.length ++ " module options from " ++ path⟩]

/-- The records of one request. -/
def ofCandidate (maxDepth : Nat) (candidate : Candidate) : List Record :=
  let index := toString candidate.index
  match candidate.admission with
  | .unnamed => [⟨.debug, .compilation,
      "Dropping options at index " ++ index ++ " without a module id"⟩]
  | .repeated moduleId => [⟨.debug, .compilation,
      "Dropping duplicate module " ++ moduleId ++ " at index " ++ index⟩]
  | .admitted moduleId =>
    (candidate.request.problems maxDepth).map (fun problem => ⟨.debug, .compilation,
      "Module " ++ moduleId ++ ": skipped " ++ problem.message⟩) ++
    [⟨.trace, .compilation, "Module " ++ moduleId ++ ": "
      ++ toString (candidate.request.declared maxDepth).length ++ " variables from "
      ++ toString candidate.request.sources.length ++ " sources"⟩]

/-- The records of compiling requests. -/
def ofCompiling (requests : List ModuleRequest) (maxDepth : Nat := defaultMaxDepth) :
    List Record :=
  (candidates requests).flatMap (ofCandidate maxDepth)

/-- The record of having indexed the modules. -/
def ofIndexing (modules : VirtualModules) : List Record :=
  [⟨.debug, .modules, "Built " ++ toString modules.ids.length ++ " virtual modules ("
    ++ toString modules.diagnostics.length ++ " diagnostics)"⟩]

/-- The records of writing stylesheets. -/
def ofWriting (report : WriteReport) : List Record :=
  report.skipped.map (fun moduleId =>
    ⟨.debug, .files, "Skipping " ++ moduleId ++ ": no variables"⟩) ++
  report.written.map fun file =>
    ⟨.info, .files, "Wrote " ++ file.moduleId ++ " → " ++ file.path⟩

end CustomProperties.Log
