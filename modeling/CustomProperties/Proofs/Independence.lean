import CustomProperties.Proofs.Candidates
import Mathlib.Data.List.Nodup

/-!
# Requests do not know of each other

What a compilation holds about one module (`Compilation.about`) is the stylesheet with
its id and the diagnostic about its variables.  For the first request with an id this
is what the request comes to when it is compiled alone, whatever stands before and
after it, and it is the same in any two lists in which it is the first with its id.
Requests that are added at the end change nothing of what was there: stylesheets and
diagnostics only grow.  The main statement, `compile_independent`, says both.
-/

namespace CustomProperties

set_option autoImplicit false

/-! ## One module of a compilation -/

/-- Whether a diagnostic is about the variables of the module with an id. -/
def Diagnostic.isAbout (moduleId : String) : Diagnostic → Bool
  | .malformedValue other _ => other = moduleId
  | _ => false

/-- What a compilation holds about the module with an id. -/
def Compilation.about (compilation : Compilation) (moduleId : String) : Compilation :=
  { stylesheets := compilation.stylesheets.filter fun stylesheet => stylesheet.moduleId = moduleId
    diagnostics := compilation.diagnostics.filter (Diagnostic.isAbout moduleId) }

/-- What a request comes to under an id, whatever else there is. -/
def ModuleRequest.alone (request : ModuleRequest) (maxDepth : Nat) (moduleId : String) :
    Compilation :=
  { stylesheets := [request.stylesheet maxDepth moduleId]
    diagnostics := (request.malformed? maxDepth moduleId).toList }

/-- A stylesheet bears an id if its request is admitted under it. -/
theorem filter_stylesheet? (maxDepth : Nat) (moduleId : String) (candidate : Candidate) :
    ((candidate.stylesheet? maxDepth).filter fun stylesheet => stylesheet.moduleId = moduleId)
      = if candidate.admission = .admitted moduleId then candidate.stylesheet? maxDepth
        else none := by
  obtain ⟨index, request, admission⟩ := candidate
  cases admission with
  | unnamed => rfl
  | repeated other => rfl
  | admitted other =>
    by_cases same : other = moduleId
    · subst same
      simp only [Candidate.stylesheet?, ModuleRequest.stylesheet, Option.filter_some,
        decide_true, if_true]
    · simp only [Candidate.stylesheet?, ModuleRequest.stylesheet, Option.filter_some, same,
        decide_false, Bool.false_eq_true, if_false, Admission.admitted.injEq]

/-- A diagnostic about the variables of a module is that of the request admitted under its
id. -/
theorem filter_diagnostic? (maxDepth : Nat) (moduleId : String) (candidate : Candidate) :
    (candidate.diagnostic? maxDepth).filter (Diagnostic.isAbout moduleId)
      = if candidate.admission = .admitted moduleId then candidate.diagnostic? maxDepth
        else none := by
  obtain ⟨index, request, admission⟩ := candidate
  cases admission with
  | unnamed => rfl
  | repeated other => rfl
  | admitted other =>
    by_cases same : other = moduleId
    · subst same
      simp only [Candidate.diagnostic?, ModuleRequest.malformed?, if_true]
      split
      · rfl
      · simp only [Option.filter_some, Diagnostic.isAbout, decide_true, if_true]
    · simp only [Candidate.diagnostic?, ModuleRequest.malformed?, Admission.admitted.injEq, same,
        if_false]
      split
      · rfl
      · simp only [Option.filter_some, Diagnostic.isAbout, same, decide_false, Bool.false_eq_true,
          if_false]

/-- What is made of a single candidate. -/
theorem filterMap_singleton {α : Type} (make : Candidate → Option α) (candidate : Candidate) :
    [candidate].filterMap make = (make candidate).toList := by
  rw [List.filterMap_cons, List.filterMap_nil]
  cases make candidate <;> rfl

/-- **One candidate is admitted under an id**: the first one with that id. -/
theorem filter_admitted {requests : List ModuleRequest} {index : Nat} {request : ModuleRequest}
    {moduleId : String} (present : requests[index]? = some request)
    (first : FirstWithId requests index moduleId) :
    (candidates requests).filter (fun candidate => candidate.admission = .admitted moduleId)
      = [⟨index, request, .admitted moduleId⟩] := by
  have nodup : (candidates requests).Nodup := by
    refine (pairwise_index_candidates requests).imp ?_
    rintro earlier later before rfl
    exact Nat.lt_irrefl _ before
  refine List.perm_singleton.mp ?_
  refine (List.perm_ext_iff_of_nodup (nodup.filter _) (List.nodup_singleton _)).mpr ?_
  intro candidate
  rw [List.mem_filter, mem_candidates_iff, List.mem_singleton, decide_eq_true_eq]
  constructor
  · obtain ⟨other, request', admission⟩ := candidate
    rintro ⟨⟨present', fares⟩, rfl⟩
    obtain rfl : index = other := first.unique fares
    cases present.symm.trans present'
    rfl
  · rintro rfl
    exact ⟨⟨present, first⟩, rfl⟩

/-- What a compilation holds about the first request with an id is made from that request. -/
theorem about_compile {requests : List ModuleRequest} {index : Nat} {request : ModuleRequest}
    {moduleId : String} (maxDepth : Nat) (present : requests[index]? = some request)
    (first : FirstWithId requests index moduleId) :
    (compile requests maxDepth).about moduleId = request.alone maxDepth moduleId := by
  -- of whatever is made of the candidates, only what comes from the admitted one is kept
  have made {α : Type} (make : Candidate → Option α) :
      (candidates requests).filterMap (fun candidate =>
          if candidate.admission = .admitted moduleId then make candidate else none)
        = (make ⟨index, request, .admitted moduleId⟩).toList := by
    have chosen := congrArg (List.filterMap make) (filter_admitted present first)
    rw [List.filterMap_filter, filterMap_singleton] at chosen
    simpa only [decide_eq_true_eq] using chosen
  simp only [Compilation.about, compile, List.filter_filterMap, filter_stylesheet?,
    filter_diagnostic?, made]
  rfl

/-- A request with an id, compiled alone. -/
theorem compile_singleton {request : ModuleRequest} {moduleId : String} (maxDepth : Nat)
    (given : request.id = some moduleId) :
    compile [request] maxDepth = request.alone maxDepth moduleId := by
  have alone : candidates [request] = [⟨0, request, .admitted moduleId⟩] := by
    simp only [candidates, candidatesFrom, given, List.not_mem_nil, if_false]
  simp only [compile, alone, filterMap_singleton]
  rfl

/-! ## Longer lists -/

/-- Requests that are added at the end leave the stylesheets and the diagnostics before them
as they are. -/
theorem compile_append_prefix (requests further : List ModuleRequest) (maxDepth : Nat) :
    (compile requests maxDepth).stylesheets
      <+: (compile (requests ++ further) maxDepth).stylesheets ∧
    (compile requests maxDepth).diagnostics
      <+: (compile (requests ++ further) maxDepth).diagnostics := by
  simp only [compile, candidates_append, List.filterMap_append]
  exact ⟨List.prefix_append _ _, List.prefix_append _ _⟩

/-! ## Independence -/

/-- **Requests never influence each other.**  The first request with an id comes to what it
comes to alone, hence to the same in any two lists, and later requests change nothing of
what earlier ones came to. -/
theorem compile_independent (maxDepth : Nat) :
    (∀ (requests : List ModuleRequest) (index : Nat) (request : ModuleRequest) (moduleId : String),
      requests[index]? = some request → FirstWithId requests index moduleId →
        (compile requests maxDepth).about moduleId = compile [request] maxDepth ∧
        ∃ text, (compile [request] maxDepth).stylesheets = [⟨moduleId, text⟩]) ∧
    (∀ (requests others : List ModuleRequest) (index position : Nat) (request : ModuleRequest)
        (moduleId : String),
      requests[index]? = some request → FirstWithId requests index moduleId →
      others[position]? = some request → FirstWithId others position moduleId →
        (compile requests maxDepth).about moduleId = (compile others maxDepth).about moduleId) ∧
    (∀ requests further : List ModuleRequest,
      (compile requests maxDepth).stylesheets
        <+: (compile (requests ++ further) maxDepth).stylesheets ∧
      (compile requests maxDepth).diagnostics
        <+: (compile (requests ++ further) maxDepth).diagnostics) := by
  refine ⟨?_, ?_, fun requests further => compile_append_prefix requests further maxDepth⟩
  · intro requests index request moduleId present first
    have alone := compile_singleton maxDepth ((hasIdAt_iff present moduleId).mp first.1)
    rw [about_compile maxDepth present first, alone]
    exact ⟨rfl, request.css maxDepth, rfl⟩
  · intro requests others index position request moduleId present first present' first'
    rw [about_compile maxDepth present first, about_compile maxDepth present' first']

/-- A request with problems between one without an id and one that repeats its id, and the
same request at the head of another list. -/
theorem compile_independent_amid_others :
    let request : ModuleRequest :=
      { moduleId := some "a", sources := [.branch ⟨[⟨"bad", .unsupported .null⟩]⟩] }
    let requests : List ModuleRequest := [{}, request, { moduleId := some "a" }]
    let others : List ModuleRequest := [request, { moduleId := some "b" }]
    (requests[1]? = some request ∧ FirstWithId requests 1 "a") ∧
      (others[0]? = some request ∧ FirstWithId others 0 "a") ∧
      (compile requests 64).about "a" = compile [request] 64 ∧
      (compile requests 64).about "a" = (compile others 64).about "a" := by
  intro request requests others
  have first : FirstWithId requests 1 "a" := by decide
  have first' : FirstWithId others 0 "a" := by decide
  obtain ⟨asAlone, asElsewhere, _⟩ := compile_independent 64
  exact ⟨⟨rfl, first⟩, ⟨rfl, first'⟩, (asAlone requests 1 request "a" rfl first).1,
    asElsewhere requests others 1 0 request "a" rfl first rfl first'⟩

end CustomProperties
