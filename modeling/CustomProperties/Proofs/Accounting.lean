import CustomProperties.Proofs.Candidates

/-!
# What becomes of every request

A compilation accounts for its requests.  At each index stands one request, and what
it yields and what it reports is determined by the way in which it fares: an admitted
one yields a stylesheet (`Yields`), a dropped one reports why, and an admitted one
reports the problems of its sources if there are any (`Reports`).  The stylesheets of
a compilation are what its indices yield, each once and in increasing order, and its
diagnostics are what they report (`ListedInOrder`).  The main statement,
`compile_accounts`, adds what follows for ids, for counts and for fatal diagnostics.
-/

namespace CustomProperties

set_option autoImplicit false

/-! ## Yields and reports -/

/-- What the request at an index yields: a stylesheet, if it is admitted. -/
inductive Yields (requests : List ModuleRequest) (maxDepth : Nat) : Nat → Stylesheet → Prop where
  | admitted {index : Nat} {request : ModuleRequest} {moduleId : String}
      (present : requests[index]? = some request)
      (fares : Fares requests index (.admitted moduleId)) :
      Yields requests maxDepth index ⟨moduleId, request.css maxDepth⟩

/-- What the request at an index reports: that it was dropped, if it was, or else the
problems of its sources, one source after another, if any of them has one. -/
inductive Reports (requests : List ModuleRequest) (maxDepth : Nat) : Nat → Diagnostic → Prop where
  | unnamed {index : Nat} (within : index < requests.length)
      (fares : Fares requests index .unnamed) :
      Reports requests maxDepth index (.emptyModuleId index)
  | repeated {index : Nat} {moduleId : String}
      (fares : Fares requests index (.repeated moduleId)) :
      Reports requests maxDepth index (.duplicateModuleId moduleId index)
  | malformed {index : Nat} {request : ModuleRequest} {moduleId : String} {problems : List Problem}
      (present : requests[index]? = some request)
      (fares : Fares requests index (.admitted moduleId))
      (concatenated : problems = request.sources.flatMap fun source =>
        ((request.naming maxDepth).flatten source).problems)
      (found : ∃ source ∈ request.sources,
        ((request.naming maxDepth).flatten source).problems ≠ []) :
      Reports requests maxDepth index (.malformedValue moduleId problems)

/-- The list holds what the indices are related to, each of these things once and in
increasing order of the index. -/
def ListedInOrder {α : Type} (related : Nat → α → Prop) (listed : List α) : Prop :=
  ∃ entries : List (Nat × α),
    (∀ index value, (index, value) ∈ entries ↔ related index value) ∧
    (entries.map Prod.fst).Pairwise (· < ·) ∧
    entries.map Prod.snd = listed

/-- What is listed is what some index is related to. -/
theorem ListedInOrder.mem_iff {α : Type} {related : Nat → α → Prop} {listed : List α}
    (inOrder : ListedInOrder related listed) (value : α) :
    value ∈ listed ↔ ∃ index, related index value := by
  obtain ⟨entries, entries_iff, _, rfl⟩ := inOrder
  constructor
  · intro member
    obtain ⟨⟨index, _⟩, entry, rfl⟩ := List.mem_map.mp member
    exact ⟨index, (entries_iff _ _).mp entry⟩
  · rintro ⟨index, holds⟩
    exact List.mem_map_of_mem (f := Prod.snd) ((entries_iff index value).mpr holds)

/-- Two things that are listed are told apart by whatever tells their indices apart. -/
theorem ListedInOrder.nodup_map {α β : Type} {related : Nat → α → Prop} {listed : List α}
    (inOrder : ListedInOrder related listed) (key : α → β)
    (same_index : ∀ first second value other, related first value → related second other →
      key value = key other → first = second) :
    (listed.map key).Nodup := by
  obtain ⟨entries, entries_iff, increasing, rfl⟩ := inOrder
  rw [List.map_map]
  refine List.pairwise_map.mpr ?_
  refine (List.pairwise_map.mp increasing).imp_of_mem ?_
  rintro ⟨first, value⟩ ⟨second, other⟩ entry entry' before same
  have equal := same_index first second value other ((entries_iff _ _).mp entry)
    ((entries_iff _ _).mp entry') same
  exact Nat.ne_of_lt before equal

/-! ## From candidates to lists -/

/-- What is made of the candidates one by one is listed in the order of their indices. -/
theorem listedInOrder_filterMap {α : Type} (requests : List ModuleRequest)
    (make : Candidate → Option α) {related : Nat → α → Prop}
    (related_iff : ∀ index value, related index value ↔
      ∃ candidate ∈ candidates requests, candidate.index = index ∧ make candidate = some value) :
    ListedInOrder related ((candidates requests).filterMap make) := by
  let entry (candidate : Candidate) : Option (Nat × α) :=
    (make candidate).map (Prod.mk candidate.index)
  refine ⟨(candidates requests).filterMap entry, fun index value => ?_, ?_, ?_⟩
  · rw [related_iff, List.mem_filterMap]
    constructor
    · rintro ⟨candidate, member, made⟩
      obtain ⟨_, made, equal⟩ := Option.map_eq_some_iff.mp made
      cases equal
      exact ⟨candidate, member, rfl, made⟩
    · rintro ⟨candidate, member, rfl, made⟩
      exact ⟨candidate, member, Option.map_eq_some_iff.mpr ⟨value, made, rfl⟩⟩
  · refine List.pairwise_map.mpr ?_
    refine (pairwise_index_candidates requests).filterMap entry ?_
    intro first second before value made other made'
    obtain ⟨_, _, rfl⟩ := Option.map_eq_some_iff.mp made
    obtain ⟨_, _, rfl⟩ := Option.map_eq_some_iff.mp made'
    exact before
  · rw [List.map_filterMap]
    refine congrArg (fun produce => List.filterMap produce (candidates requests)) (funext ?_)
    intro candidate
    simp only [entry, Option.map_map, Function.comp_def, Option.map_id']

/-- A candidate yields what its index yields. -/
theorem yields_iff (requests : List ModuleRequest) (maxDepth index : Nat)
    (stylesheet : Stylesheet) :
    Yields requests maxDepth index stylesheet ↔
      ∃ candidate ∈ candidates requests,
        candidate.index = index ∧ candidate.stylesheet? maxDepth = some stylesheet := by
  constructor
  · rintro ⟨present, fares⟩
    exact ⟨⟨index, _, .admitted _⟩, (mem_candidates_iff _ _).mpr ⟨present, fares⟩, rfl, rfl⟩
  · rintro ⟨⟨_, request, admission⟩, member, rfl, made⟩
    obtain ⟨present, fares⟩ := (mem_candidates_iff _ _).mp member
    cases admission with
    | unnamed => cases made
    | repeated moduleId => cases made
    | admitted moduleId =>
      cases made
      exact .admitted present fares

/-- The problems of a request are reported unless there are none. -/
theorem ModuleRequest.malformed?_eq_some_iff (request : ModuleRequest) (maxDepth : Nat)
    (moduleId : String) (diagnostic : Diagnostic) :
    request.malformed? maxDepth moduleId = some diagnostic ↔
      request.problems maxDepth ≠ [] ∧
        diagnostic = .malformedValue moduleId (request.problems maxDepth) := by
  unfold ModuleRequest.malformed?
  split
  next none_found => simp only [none_found, ne_eq, not_true_eq_false, false_and, reduceCtorEq]
  next found =>
    simp only [found, ne_eq, reduceCtorEq, not_false_eq_true, true_and, Option.some.injEq, eq_comm]

/-- The problems of a request are those of its sources in turn. -/
theorem ModuleRequest.problems_eq_flatMap (request : ModuleRequest) (maxDepth : Nat) :
    request.problems maxDepth = request.sources.flatMap fun source =>
      ((request.naming maxDepth).flatten source).problems := by
  rw [ModuleRequest.problems, ModuleRequest.flattened, List.flatMap_map]

/-- A request has problems if one of its sources has. -/
theorem ModuleRequest.problems_ne_nil_iff (request : ModuleRequest) (maxDepth : Nat) :
    request.problems maxDepth ≠ [] ↔ ∃ source ∈ request.sources,
      ((request.naming maxDepth).flatten source).problems ≠ [] := by
  rw [request.problems_eq_flatMap, ne_eq, List.flatMap_eq_nil_iff]
  simp only [not_forall, exists_prop, ne_eq]

/-- A candidate reports what its index reports. -/
theorem reports_iff (requests : List ModuleRequest) (maxDepth index : Nat)
    (diagnostic : Diagnostic) :
    Reports requests maxDepth index diagnostic ↔
      ∃ candidate ∈ candidates requests,
        candidate.index = index ∧ candidate.diagnostic? maxDepth = some diagnostic := by
  constructor
  · intro reports
    cases reports with
    | unnamed within fares =>
      have present := List.getElem?_eq_getElem within
      exact ⟨⟨index, _, .unnamed⟩, (mem_candidates_iff _ _).mpr ⟨present, fares⟩, rfl, rfl⟩
    | repeated fares =>
      obtain ⟨request, present, _⟩ := Option.bind_eq_some_iff.mp fares.1.1
      exact ⟨⟨index, request, .repeated _⟩, (mem_candidates_iff _ _).mpr ⟨present, fares⟩, rfl, rfl⟩
    | @malformed request moduleId _ present fares concatenated found =>
      rw [← request.problems_eq_flatMap] at concatenated
      subst concatenated
      have nonempty := (request.problems_ne_nil_iff maxDepth).mpr found
      exact ⟨⟨index, request, .admitted moduleId⟩, (mem_candidates_iff _ _).mpr ⟨present, fares⟩,
        rfl, (request.malformed?_eq_some_iff maxDepth moduleId _).mpr ⟨nonempty, rfl⟩⟩
  · rintro ⟨⟨_, request, admission⟩, member, rfl, made⟩
    obtain ⟨present, fares⟩ := (mem_candidates_iff _ _).mp member
    cases admission with
    | unnamed =>
      cases made
      exact .unnamed (List.getElem?_eq_some_iff.mp present).1 fares
    | repeated moduleId =>
      cases made
      exact .repeated fares
    | admitted moduleId =>
      obtain ⟨nonempty, rfl⟩ := (request.malformed?_eq_some_iff maxDepth moduleId _).mp made
      exact .malformed present fares (request.problems_eq_flatMap maxDepth)
        ((request.problems_ne_nil_iff maxDepth).mp nonempty)

/-- The stylesheets of a compilation are what its indices yield. -/
theorem listedInOrder_stylesheets (requests : List ModuleRequest) (maxDepth : Nat) :
    ListedInOrder (Yields requests maxDepth) (compile requests maxDepth).stylesheets :=
  listedInOrder_filterMap requests _ (yields_iff requests maxDepth)

/-- An index that yields a stylesheet is the first with its id. -/
theorem Yields.firstWithId {requests : List ModuleRequest} {maxDepth index : Nat}
    {stylesheet : Stylesheet} (yields : Yields requests maxDepth index stylesheet) :
    FirstWithId requests index stylesheet.moduleId := by
  obtain ⟨_, fares⟩ := yields
  exact fares

/-- **The stylesheets of a compilation have different ids**: two of one id would come from one index,
the first that has it. -/
theorem nodup_moduleId_compile (requests : List ModuleRequest) (maxDepth : Nat) :
    ((compile requests maxDepth).stylesheets.map Stylesheet.moduleId).Nodup := by
  refine (listedInOrder_stylesheets requests maxDepth).nodup_map _ ?_
  intro first second stylesheet other yields yields' same
  exact yields.firstWithId.unique (same ▸ yields'.firstWithId)

/-- The diagnostics of a compilation are what its indices report. -/
theorem listedInOrder_diagnostics (requests : List ModuleRequest) (maxDepth : Nat) :
    ListedInOrder (Reports requests maxDepth) (compile requests maxDepth).diagnostics :=
  listedInOrder_filterMap requests _ (reports_iff requests maxDepth)

/-! ## Counts -/

namespace Diagnostic

/-- Whether a diagnostic says that a request has no id. -/
def isEmptyModuleId : Diagnostic → Bool
  | .emptyModuleId _ => true
  | _ => false

/-- Whether a diagnostic says that a request has the id of an earlier one. -/
def isDuplicateModuleId : Diagnostic → Bool
  | .duplicateModuleId _ _ => true
  | _ => false

end Diagnostic

/-- A request is admitted, unnamed or repeated, and what it comes to says which. -/
theorem length_add_countP_add_countP (maxDepth : Nat) (judged : List Candidate) :
    (judged.filterMap (Candidate.stylesheet? maxDepth)).length
        + (judged.filterMap (Candidate.diagnostic? maxDepth)).countP Diagnostic.isEmptyModuleId
        + (judged.filterMap (Candidate.diagnostic? maxDepth)).countP Diagnostic.isDuplicateModuleId
      = judged.length := by
  induction judged with
  | nil => rfl
  | cons candidate rest ih =>
    obtain ⟨index, request, admission⟩ := candidate
    cases admission with
    | unnamed | repeated moduleId =>
      simp only [List.filterMap_cons, Candidate.stylesheet?, Candidate.diagnostic?,
        List.countP_cons, Diagnostic.isEmptyModuleId, Diagnostic.isDuplicateModuleId,
        List.length_cons, if_true, Bool.false_eq_true, if_false]
      omega
    | admitted moduleId =>
      cases made : request.malformed? maxDepth moduleId with
      | none =>
        simp only [List.filterMap_cons, Candidate.stylesheet?, Candidate.diagnostic?, made,
          List.length_cons]
        omega
      | some diagnostic =>
        obtain ⟨_, rfl⟩ := (request.malformed?_eq_some_iff maxDepth moduleId _).mp made
        simp only [List.filterMap_cons, Candidate.stylesheet?, Candidate.diagnostic?, made,
          List.countP_cons, Diagnostic.isEmptyModuleId, Diagnostic.isDuplicateModuleId,
          List.length_cons, Bool.false_eq_true, if_false]
        omega

/-! ## Accounts -/

/-- A compilation accounts for a list of requests. -/
structure Accounts (requests : List ModuleRequest) (maxDepth : Nat) (compilation : Compilation) :
    Prop where
  /-- Each request is unnamed, repeated or admitted, and only one of these. -/
  fares : ∀ index < requests.length, ∃! admission, Fares requests index admission
  /-- The stylesheets are those of the admitted requests. -/
  stylesheets : ListedInOrder (Yields requests maxDepth) compilation.stylesheets
  /-- The diagnostics are those of the dropped requests and of the admitted ones with
  problems. -/
  diagnostics : ListedInOrder (Reports requests maxDepth) compilation.diagnostics
  /-- What is reported about the variables of a module is not nothing. -/
  problems_ne_nil : ∀ moduleId problems,
    .malformedValue moduleId problems ∈ compilation.diagnostics → problems ≠ []
  /-- No two stylesheets have the same id. -/
  ids_nodup : (compilation.stylesheets.map Stylesheet.moduleId).Nodup
  /-- No id is empty. -/
  id_ne_empty : ∀ stylesheet ∈ compilation.stylesheets, stylesheet.moduleId ≠ ""
  /-- Nothing is lost between stylesheets and diagnostics. -/
  count : compilation.stylesheets.length
      + compilation.diagnostics.countP Diagnostic.isEmptyModuleId
      + compilation.diagnostics.countP Diagnostic.isDuplicateModuleId
    = requests.length
  /-- The fatal thing is a request without an id. -/
  hasFatal_iff : Diagnostics.hasFatal compilation.diagnostics ↔
    ∃ index < requests.length, ∀ moduleId, ¬ HasIdAt requests index moduleId

/-- A report is fatal if its request has no id. -/
theorem Reports.isFatal_iff {requests : List ModuleRequest} {maxDepth index : Nat}
    {diagnostic : Diagnostic} (reports : Reports requests maxDepth index diagnostic) :
    diagnostic.isFatal ↔ diagnostic = .emptyModuleId index := by
  cases reports with
  | unnamed within fares => exact iff_of_true rfl rfl
  | repeated fares => exact iff_of_false Bool.false_ne_true Diagnostic.noConfusion
  | malformed present fares concatenated found =>
    exact iff_of_false Bool.false_ne_true Diagnostic.noConfusion

/-- **A compilation accounts for its requests**: for each of them, once and in order, by
what it yields and what it reports. -/
theorem compile_accounts (requests : List ModuleRequest) (maxDepth : Nat) :
    Accounts requests maxDepth (compile requests maxDepth) := by
  have stylesheets := listedInOrder_stylesheets requests maxDepth
  have diagnostics := listedInOrder_diagnostics requests maxDepth
  refine ⟨fun index _ => existsUnique_fares requests index, stylesheets, diagnostics, ?_,
    nodup_moduleId_compile requests maxDepth, ?_, ?_, ?_⟩
  · intro moduleId problems member
    obtain ⟨index, reports⟩ := (diagnostics.mem_iff _).mp member
    cases reports with
    | @malformed request _ _ present fares concatenated found =>
      rw [concatenated, ← request.problems_eq_flatMap]
      exact (request.problems_ne_nil_iff maxDepth).mpr found
  · intro stylesheet member
    obtain ⟨index, yields⟩ := (stylesheets.mem_iff stylesheet).mp member
    exact yields.firstWithId.1.2
  · rw [← length_candidates requests]
    exact length_add_countP_add_countP maxDepth (candidates requests)
  · rw [Diagnostics.hasFatal, List.any_eq_true]
    constructor
    · rintro ⟨diagnostic, member, fatal⟩
      obtain ⟨index, reports⟩ := (diagnostics.mem_iff diagnostic).mp member
      obtain rfl := reports.isFatal_iff.mp fatal
      cases reports with
      | unnamed within fares => exact ⟨index, within, fares⟩
    · rintro ⟨index, within, fares⟩
      exact ⟨.emptyModuleId index, (diagnostics.mem_iff _).mpr ⟨index, .unnamed within fares⟩, rfl⟩

end CustomProperties
