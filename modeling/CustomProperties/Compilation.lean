import CustomProperties.Diagnostic
import CustomProperties.ModuleRequest

/-!
# Compilation

A list of requests is judged from first to last: a request without an id is
dropped, one with the id of an earlier request is dropped, and every other one is
admitted and yields a stylesheet.  Apart from the ids that are taken, requests do
not know of each other.  A request that was dropped, and an admitted one some
parts of which were skipped, leaves a diagnostic.
-/

namespace CustomProperties

set_option autoImplicit false

/-! ## Admission -/

/-- How a request fares among the others. -/
inductive Admission where
  /-- It has no id. -/
  | unnamed
  /-- An earlier request has its id. -/
  | repeated (moduleId : String)
  /-- It is the first one with its id. -/
  | admitted (moduleId : String)
  deriving DecidableEq, Repr

/-- A request with its index in the list and how it fares there. -/
structure Candidate where
  index : Nat
  request : ModuleRequest
  admission : Admission
  deriving Repr

/-- Judge requests, of which the first has the given index, when some ids are
already taken. -/
def candidatesFrom (taken : List String) (index : Nat) : List ModuleRequest → List Candidate
  | [] => []
  | request :: rest =>
    match request.id with
    | none => ⟨index, request, .unnamed⟩ :: candidatesFrom taken (index + 1) rest
    | some moduleId =>
      if moduleId ∈ taken then
        ⟨index, request, .repeated moduleId⟩ :: candidatesFrom taken (index + 1) rest
      else
        ⟨index, request, .admitted moduleId⟩
          :: candidatesFrom (moduleId :: taken) (index + 1) rest

/-- Judge a whole list of requests. -/
def candidates (requests : List ModuleRequest) : List Candidate := candidatesFrom [] 0 requests

/-! ## Single modules -/

/-- The stylesheet of a request under an id. -/
def ModuleRequest.stylesheet (request : ModuleRequest) (maxDepth : Nat) (moduleId : String) :
    Stylesheet :=
  ⟨moduleId, request.css maxDepth⟩

/-- The diagnostic of a request under an id, if some parts of it were skipped. -/
def ModuleRequest.malformed? (request : ModuleRequest) (maxDepth : Nat) (moduleId : String) :
    Option Diagnostic :=
  match request.problems maxDepth with
  | [] => none
  | problem :: rest => some (.malformedValue moduleId (problem :: rest))

/-- Build one module under an id that is taken on trust, adding to the diagnostics
found so far. -/
def ModuleRequest.build (request : ModuleRequest) (maxDepth : Nat) (moduleId : String)
    (found : List Diagnostic) : Stylesheet × List Diagnostic :=
  (request.stylesheet maxDepth moduleId, found ++ (request.malformed? maxDepth moduleId).toList)

/-! ## Lists of requests -/

/-- The stylesheet of an admitted request. -/
def Candidate.stylesheet? (maxDepth : Nat) (candidate : Candidate) : Option Stylesheet :=
  match candidate.admission with
  | .admitted moduleId => some (candidate.request.stylesheet maxDepth moduleId)
  | _ => none

/-- What there is to report about a request. -/
def Candidate.diagnostic? (maxDepth : Nat) (candidate : Candidate) : Option Diagnostic :=
  match candidate.admission with
  | .unnamed => some (.emptyModuleId candidate.index)
  | .repeated moduleId => some (.duplicateModuleId moduleId candidate.index)
  | .admitted moduleId => candidate.request.malformed? maxDepth moduleId

/-- What a list of requests comes to. -/
structure Compilation where
  /-- The stylesheets of the admitted requests, in order. -/
  stylesheets : List Stylesheet
  diagnostics : List Diagnostic
  deriving DecidableEq, Repr

/-- **Compile a list of requests** under a depth limit. -/
def compile (requests : List ModuleRequest) (maxDepth : Nat := defaultMaxDepth) : Compilation :=
  { stylesheets := (candidates requests).filterMap (Candidate.stylesheet? maxDepth)
    diagnostics := (candidates requests).filterMap (Candidate.diagnostic? maxDepth) }

/-- The stylesheet with an id. -/
def Compilation.stylesheet? (compilation : Compilation) (moduleId : String) : Option Stylesheet :=
  compilation.stylesheets.find? (fun stylesheet => stylesheet.moduleId = moduleId)

end CustomProperties
