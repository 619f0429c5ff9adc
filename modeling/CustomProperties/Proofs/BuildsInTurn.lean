import CustomProperties.Proofs.Accounting

/-!
# Modules built in turn

Modules may be built one by one, each under an id that is taken on trust, with one list of
diagnostics that is handed from build to build (`buildEach`).  A build leaves the diagnostics that
it is given where they are and adds one at most, about its own sources (`adds_malformed?`).  The
stylesheets do not depend on what was built before, and neither does what is added, so a run of
builds is described order by order (`buildEach_eq`).

Compiling a list of requests is such a run: over those that are the first with their id, in order
(`firstOrders`), since the candidates that are admitted are just these (`filterMap_order?`).  What a
compilation reports besides is why the other requests were dropped.  The main statement,
`builds_in_turn`, says all of this.
-/

namespace CustomProperties

set_option autoImplicit false

/-! ## Orders -/

/-- An order for a module: the id to build it under, and the request. -/
structure ModuleOrder where
  moduleId : String
  request : ModuleRequest

namespace ModuleOrder

/-- The stylesheet that an order comes to. -/
def stylesheet (maxDepth : Nat) (order : ModuleOrder) : Stylesheet :=
  order.request.stylesheet maxDepth order.moduleId

/-- The diagnostic about the sources of an order, if there is one. -/
def malformed? (maxDepth : Nat) (order : ModuleOrder) : Option Diagnostic :=
  order.request.malformed? maxDepth order.moduleId

end ModuleOrder

/-- What an order adds to the diagnostics: nothing if no source has a problem, and otherwise one
diagnostic under its id, with the problems of its sources in turn. -/
inductive Adds (maxDepth : Nat) (order : ModuleOrder) : List Diagnostic → Prop where
  | nothing
      (sound : ∀ source ∈ order.request.sources,
        ((order.request.naming maxDepth).flatten source).problems = []) :
      Adds maxDepth order []
  | malformed {problems : List Problem}
      (found : ∃ source ∈ order.request.sources,
        ((order.request.naming maxDepth).flatten source).problems ≠ [])
      (concatenated : problems = order.request.sources.flatMap fun source =>
        ((order.request.naming maxDepth).flatten source).problems)
      (some_problem : problems ≠ []) :
      Adds maxDepth order [.malformedValue order.moduleId problems]

/-- **An order adds what is due to its own sources.** -/
theorem adds_malformed? (maxDepth : Nat) (order : ModuleOrder) :
    Adds maxDepth order (order.malformed? maxDepth).toList := by
  have reported_iff := order.request.malformed?_eq_some_iff maxDepth order.moduleId
  have concatenated := order.request.problems_eq_flatMap maxDepth
  cases made : order.malformed? maxDepth with
  | none =>
    have no_problem : order.request.problems maxDepth = [] := by
      by_contra some_problem
      cases made.symm.trans ((reported_iff _).mpr ⟨some_problem, rfl⟩)
    rw [concatenated, List.flatMap_eq_nil_iff] at no_problem
    exact .nothing no_problem
  | some diagnostic =>
    obtain ⟨some_problem, rfl⟩ := (reported_iff _).mp made
    have found := (order.request.problems_ne_nil_iff maxDepth).mp some_problem
    exact .malformed found concatenated some_problem

/-! ## Runs of builds -/

/-- The stylesheets that orders come to one after another, and the diagnostics after the last of
them. -/
def buildEach (maxDepth : Nat) :
    List ModuleOrder → List Diagnostic → List Stylesheet × List Diagnostic
  | [], found => ([], found)
  | order :: rest, found =>
    let (stylesheet, after) := order.request.build maxDepth order.moduleId found
    let (others, final) := buildEach maxDepth rest after
    (stylesheet :: others, final)

/-- **A run is described order by order**: neither the stylesheet of an order nor what it adds
depends on the others. -/
theorem buildEach_eq (maxDepth : Nat) (orders : List ModuleOrder) (found : List Diagnostic) :
    buildEach maxDepth orders found
      = (orders.map (ModuleOrder.stylesheet maxDepth),
          found ++ orders.filterMap (ModuleOrder.malformed? maxDepth)) := by
  induction orders generalizing found with
  | nil => rw [buildEach, List.map_nil, List.filterMap_nil, List.append_nil]
  | cons order rest ih =>
    have built : order.request.build maxDepth order.moduleId found
        = (order.stylesheet maxDepth, found ++ (order.malformed? maxDepth).toList) := rfl
    simp only [buildEach, built, ih, List.map_cons]
    cases made : order.malformed? maxDepth with
    | none => rw [List.filterMap_cons_none made, Option.toList_none, List.append_nil]
    | some diagnostic =>
      rw [List.filterMap_cons_some made, Option.toList_some, List.append_assoc,
        List.singleton_append]

/-- A run of builds may be cut anywhere. -/
theorem buildEach_append (maxDepth : Nat) (first second : List ModuleOrder)
    (found : List Diagnostic) :
    buildEach maxDepth (first ++ second) found
      = ((buildEach maxDepth first found).1
            ++ (buildEach maxDepth second (buildEach maxDepth first found).2).1,
          (buildEach maxDepth second (buildEach maxDepth first found).2).2) := by
  simp only [buildEach_eq, List.map_append, List.filterMap_append, List.append_assoc]

/-! ## Compilations as runs -/

/-- The order that comes from a request at an index, if it is the first one with its id. -/
def firstOrder? (requests : List ModuleRequest) (request : ModuleRequest) (index : Nat) :
    Option ModuleOrder :=
  request.moduleId.bind fun moduleId =>
    if FirstWithId requests index moduleId then some ⟨moduleId, request⟩ else none

/-- The orders that come from the requests that are the first ones with their ids, in order. -/
def firstOrders (requests : List ModuleRequest) : List ModuleOrder :=
  requests.zipIdx.filterMap fun (request, index) => firstOrder? requests request index

/-- The order that comes from a candidate that is admitted. -/
def Candidate.order? (candidate : Candidate) : Option ModuleOrder :=
  match candidate.admission with
  | .admitted moduleId => some ⟨moduleId, candidate.request⟩
  | _ => none

/-- A candidate is admitted if its request is the first one with its id. -/
theorem Candidate.order?_eq {requests : List ModuleRequest} {candidate : Candidate}
    (member : candidate ∈ candidates requests) :
    candidate.order? = firstOrder? requests candidate.request candidate.index := by
  obtain ⟨index, request, admission⟩ := candidate
  obtain ⟨present, fares⟩ := (mem_candidates_iff _ _).mp member
  have has_iff (moduleId : String) : HasIdAt requests index moduleId ↔
      request.moduleId = some moduleId ∧ moduleId ≠ "" := by
    rw [hasIdAt_iff present, request.id_eq_some_iff]
  cases admission with
  | unnamed =>
    cases given : request.moduleId with
    | none => simp only [order?, firstOrder?, given, Option.bind_none]
    | some moduleId =>
      have other : ¬ FirstWithId requests index moduleId := fun first => fares moduleId first.1
      simp only [order?, firstOrder?, given, Option.bind_some, if_neg other]
  | repeated moduleId =>
    obtain ⟨has, earlier, before, hasEarlier⟩ := fares
    have other : ¬ FirstWithId requests index moduleId := fun first =>
      first.2 earlier before hasEarlier
    simp only [order?, firstOrder?, ((has_iff moduleId).mp has).1, Option.bind_some, if_neg other]
  | admitted moduleId =>
    have first : FirstWithId requests index moduleId := fares
    simp only [order?, firstOrder?, ((has_iff moduleId).mp first.1).1, Option.bind_some,
      if_pos first]

/-- The candidates stand for the requests with their indices. -/
theorem map_candidates (requests : List ModuleRequest) :
    (candidates requests).map (fun candidate => (candidate.request, candidate.index))
      = requests.zipIdx := by
  refine List.ext_getElem? fun index => ?_
  rw [List.getElem?_map, getElem?_candidates, List.getElem?_zipIdx, Option.map_map, Nat.zero_add]
  rfl

/-- **The candidates that are admitted are the requests that are first with their ids.** -/
theorem filterMap_order? (requests : List ModuleRequest) :
    (candidates requests).filterMap Candidate.order? = firstOrders requests := by
  rw [firstOrders, ← map_candidates, List.filterMap_map]
  exact List.filterMap_congr fun candidate member => Candidate.order?_eq member

/-- The stylesheet of a candidate is that of its order. -/
theorem Candidate.stylesheet?_eq (maxDepth : Nat) (candidate : Candidate) :
    candidate.stylesheet? maxDepth = candidate.order?.map (ModuleOrder.stylesheet maxDepth) := by
  obtain ⟨index, request, admission⟩ := candidate
  cases admission <;> rfl

/-- Whether a diagnostic says that a request was dropped. -/
def Diagnostic.saysDropped (diagnostic : Diagnostic) : Bool :=
  diagnostic.isEmptyModuleId || diagnostic.isDuplicateModuleId

/-- What else there is to report about a candidate than that it was dropped is what its order
adds. -/
theorem Candidate.filter_diagnostic?_eq (maxDepth : Nat) (candidate : Candidate) :
    (candidate.diagnostic? maxDepth).filter (!·.saysDropped)
      = candidate.order?.bind (ModuleOrder.malformed? maxDepth) := by
  obtain ⟨index, request, admission⟩ := candidate
  cases admission with
  | unnamed => rfl
  | repeated moduleId => rfl
  | admitted moduleId =>
    have reported_iff := request.malformed?_eq_some_iff maxDepth moduleId
    simp only [diagnostic?, order?, Option.bind_some, ModuleOrder.malformed?]
    cases made : request.malformed? maxDepth moduleId with
    | none => rfl
    | some diagnostic =>
      obtain ⟨_, rfl⟩ := (reported_iff _).mp made
      rfl

/-- **A compilation is a run of builds** over the requests that are first with their ids. -/
theorem buildEach_firstOrders (requests : List ModuleRequest) (maxDepth : Nat) :
    buildEach maxDepth (firstOrders requests) []
      = ((compile requests maxDepth).stylesheets,
          (compile requests maxDepth).diagnostics.filter (!·.saysDropped)) := by
  rw [buildEach_eq, ← filterMap_order?, List.map_filterMap, List.filterMap_filterMap, compile,
    List.filter_filterMap, List.nil_append]
  simp only [Candidate.stylesheet?_eq, Candidate.filter_diagnostic?_eq]

/-- **Modules are built in turn, and independently.**

Take any order amid a run of builds that share one list of diagnostics, under ids that may be empty
or repeated.  The run is that of the orders before it, its own build and that of the orders behind
it.  Its own build keeps the diagnostics that it finds and adds what is due to its sources, which is
one diagnostic at most.  The stylesheets of a run are those that its orders come to alone, whatever
diagnostics it starts with.

Compiling a list of requests comes to such a run, over those that are the first with their id: to
its stylesheets, and to its diagnostics apart from those that say why a request was dropped. -/
theorem builds_in_turn (maxDepth : Nat) :
    (∀ (before after : List ModuleOrder) (order : ModuleOrder) (found : List Diagnostic),
      let earlier := buildEach maxDepth before found
      let built := order.request.build maxDepth order.moduleId earlier.2
      let later := buildEach maxDepth after built.2
      buildEach maxDepth (before ++ order :: after) found
        = (earlier.1 ++ built.1 :: later.1, later.2) ∧
      ∃ added, built.2 = earlier.2 ++ added ∧ Adds maxDepth order added) ∧
    (∀ (orders : List ModuleOrder) (found : List Diagnostic),
      (buildEach maxDepth orders found).1
        = orders.map fun order => (order.request.build maxDepth order.moduleId []).1) ∧
    (∀ requests : List ModuleRequest,
      let run := buildEach maxDepth (firstOrders requests) []
      (compile requests maxDepth).stylesheets = run.1 ∧
      (compile requests maxDepth).diagnostics.filter
        (fun diagnostic => !(diagnostic.isEmptyModuleId || diagnostic.isDuplicateModuleId))
          = run.2) := by
  refine ⟨?_, ?_, ?_⟩
  · intro before after order found earlier built later
    exact ⟨buildEach_append maxDepth before (order :: after) found, _, rfl,
      adds_malformed? maxDepth order⟩
  · intro orders found
    rw [buildEach_eq]
    rfl
  · intro requests run
    have runs := buildEach_firstOrders requests maxDepth
    exact ⟨(congrArg Prod.fst runs).symm, (congrArg Prod.snd runs).symm⟩

end CustomProperties
