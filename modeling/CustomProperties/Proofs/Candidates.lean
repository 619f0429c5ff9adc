import CustomProperties.Compilation
import Mathlib.Data.List.Basic

/-!
# How requests fare in a list

Requests are judged one after another, and the judgement carries the ids that are
taken.  Here it is described by indices alone: a request is unnamed if it has no id,
repeated if a request before it has the same id, and admitted if it is the first one
with its id (`Fares`).  Each request fares in exactly one of these ways
(`existsUnique_fares`).

The candidates of a list hold every request once, in order, with the way in which it
fares (`mem_candidates_iff`, `pairwise_index_candidates`), and those of a longer list
continue those of a shorter one (`candidates_append`).
-/

namespace CustomProperties

set_option autoImplicit false

/-! ## Ids at indices -/

/-- The request at an index gives an id, which is not empty. -/
def HasIdAt (requests : List ModuleRequest) (index : Nat) (moduleId : String) : Prop :=
  requests[index]?.bind ModuleRequest.moduleId = some moduleId ∧ moduleId ≠ ""

instance (requests : List ModuleRequest) (index : Nat) (moduleId : String) :
    Decidable (HasIdAt requests index moduleId) :=
  inferInstanceAs (Decidable (_ ∧ _))

/-- The request at an index has an id that no earlier one has. -/
def FirstWithId (requests : List ModuleRequest) (index : Nat) (moduleId : String) : Prop :=
  HasIdAt requests index moduleId ∧ ∀ earlier < index, ¬ HasIdAt requests earlier moduleId

instance (requests : List ModuleRequest) (index : Nat) (moduleId : String) :
    Decidable (FirstWithId requests index moduleId) :=
  inferInstanceAs (Decidable (_ ∧ _))

/-- The way in which the request at an index fares among the others. -/
def Fares (requests : List ModuleRequest) (index : Nat) : Admission → Prop
  | .unnamed => ∀ moduleId, ¬ HasIdAt requests index moduleId
  | .repeated moduleId =>
    HasIdAt requests index moduleId ∧ ∃ earlier < index, HasIdAt requests earlier moduleId
  | .admitted moduleId => FirstWithId requests index moduleId

/-- The id of a request is the one it gives, unless that is empty. -/
theorem ModuleRequest.id_eq_some_iff (request : ModuleRequest) (moduleId : String) :
    request.id = some moduleId ↔ request.moduleId = some moduleId ∧ moduleId ≠ "" := by
  simp only [ModuleRequest.id, Option.filter_eq_some_iff, decide_eq_true_eq]

/-- An index has the id of its request. -/
theorem hasIdAt_iff_bind (requests : List ModuleRequest) (index : Nat) (moduleId : String) :
    HasIdAt requests index moduleId ↔ requests[index]?.bind ModuleRequest.id = some moduleId := by
  simp only [HasIdAt]
  cases requests[index]? with
  | none => simp only [Option.bind_none, reduceCtorEq, false_and]
  | some request => exact (request.id_eq_some_iff moduleId).symm

theorem hasIdAt_iff {requests : List ModuleRequest} {index : Nat} {request : ModuleRequest}
    (present : requests[index]? = some request) (moduleId : String) :
    HasIdAt requests index moduleId ↔ request.id = some moduleId := by
  rw [hasIdAt_iff_bind, present, Option.bind_some]

/-- An index has one id at most. -/
theorem HasIdAt.unique {requests : List ModuleRequest} {index : Nat} {moduleId other : String}
    (has : HasIdAt requests index moduleId) (has' : HasIdAt requests index other) :
    moduleId = other :=
  Option.some.inj (has.1.symm.trans has'.1)

/-- An id is first met at one index only. -/
theorem FirstWithId.unique {requests : List ModuleRequest} {index other : Nat} {moduleId : String}
    (first : FirstWithId requests index moduleId) (first' : FirstWithId requests other moduleId) :
    index = other := by
  rcases Nat.lt_trichotomy index other with before | same | after
  · exact absurd first.1 (first'.2 index before)
  · exact same
  · exact absurd first'.1 (first.2 other after)

/-- **Every index fares in exactly one way.** -/
theorem existsUnique_fares (requests : List ModuleRequest) (index : Nat) :
    ∃! admission, Fares requests index admission := by
  by_cases named : ∃ moduleId, HasIdAt requests index moduleId
  · obtain ⟨moduleId, has⟩ := named
    by_cases taken : ∃ earlier < index, HasIdAt requests earlier moduleId
    · refine ⟨.repeated moduleId, ⟨has, taken⟩, fun other fares => ?_⟩
      cases other with
      | unnamed => exact absurd has (fares moduleId)
      | repeated same => rw [has.unique fares.1]
      | admitted same =>
        obtain rfl := has.unique fares.1
        obtain ⟨earlier, before, hasEarlier⟩ := taken
        exact absurd hasEarlier (fares.2 earlier before)
    · have first : FirstWithId requests index moduleId :=
        ⟨has, fun earlier before hasEarlier => taken ⟨earlier, before, hasEarlier⟩⟩
      refine ⟨.admitted moduleId, first, fun other fares => ?_⟩
      cases other with
      | unnamed => exact absurd has (fares moduleId)
      | repeated same =>
        obtain rfl := has.unique fares.1
        exact absurd fares.2 taken
      | admitted same => rw [has.unique fares.1]
  · refine ⟨.unnamed, fun moduleId has => named ⟨moduleId, has⟩, fun other fares => ?_⟩
    cases other with
    | unnamed => rfl
    | repeated moduleId => exact absurd ⟨moduleId, fares.1⟩ named
    | admitted moduleId => exact absurd ⟨moduleId, fares.1⟩ named

/-! ## One step of the judgement -/

/-- How a request fares when some ids are taken. -/
def ModuleRequest.admission (request : ModuleRequest) (taken : List String) : Admission :=
  match request.id with
  | none => .unnamed
  | some moduleId => if moduleId ∈ taken then .repeated moduleId else .admitted moduleId

/-- Only which ids are taken counts, and not in which order. -/
theorem candidatesFrom_congr {taken other : List String}
    (same : ∀ moduleId, moduleId ∈ taken ↔ moduleId ∈ other) (index : Nat)
    (requests : List ModuleRequest) :
    candidatesFrom taken index requests = candidatesFrom other index requests := by
  induction requests generalizing taken other index with
  | nil => rfl
  | cons request rest ih =>
    cases given : request.id with
    | none => simp only [candidatesFrom, given, ih same]
    | some moduleId =>
      have more : ∀ next, next ∈ moduleId :: taken ↔ next ∈ moduleId :: other := by
        intro next
        simp only [List.mem_cons, same]
      simp only [candidatesFrom, given, same, ih same, ih more]

/-- The first request is judged by the ids taken so far, and its own is taken after it. -/
theorem candidatesFrom_cons (taken : List String) (index : Nat) (request : ModuleRequest)
    (rest : List ModuleRequest) :
    candidatesFrom taken index (request :: rest)
      = ⟨index, request, request.admission taken⟩
        :: candidatesFrom (request.id.toList ++ taken) (index + 1) rest := by
  cases given : request.id with
  | none => simp only [candidatesFrom, ModuleRequest.admission, given, Option.toList_none,
      List.nil_append]
  | some moduleId =>
    by_cases known : moduleId ∈ taken
    · -- the judgement leaves the taken ids as they are, but takes none it did not have
      have same : ∀ next, next ∈ taken ↔ next ∈ moduleId :: taken := by
        intro next
        exact ⟨List.mem_cons_of_mem _, fun member =>
          (List.mem_cons.mp member).elim (fun equal => equal ▸ known) id⟩
      simp only [candidatesFrom, ModuleRequest.admission, given, if_pos known,
        Option.toList_some, List.singleton_append, candidatesFrom_congr same]
    · simp only [candidatesFrom, ModuleRequest.admission, given, if_neg known,
        Option.toList_some, List.singleton_append]

/-- **What is made of candidates by a view of their requests** is the same for requests that look
the same, if such requests have the same id. -/
theorem filterMap_candidatesFrom_congr {α β : Type} {view : ModuleRequest → β}
    {make : Candidate → Option α}
    (id_congr : ∀ request other, view request = view other → request.id = other.id)
    (make_congr : ∀ index admission request other, view request = view other →
      make ⟨index, request, admission⟩ = make ⟨index, other, admission⟩)
    (taken : List String) (index : Nat) {requests others : List ModuleRequest}
    (same : requests.map view = others.map view) :
    (candidatesFrom taken index requests).filterMap make
      = (candidatesFrom taken index others).filterMap make := by
  induction requests generalizing others taken index with
  | nil =>
    cases others with
    | nil => rfl
    | cons other others => cases same
  | cons request rest ih =>
    cases others with
    | nil => cases same
    | cons other others =>
      obtain ⟨first, rest_same⟩ := List.cons.inj same
      have id_eq := id_congr request other first
      have admission_eq : request.admission taken = other.admission taken := by
        rw [ModuleRequest.admission, ModuleRequest.admission, id_eq]
      rw [candidatesFrom_cons, candidatesFrom_cons, List.filterMap_cons, List.filterMap_cons,
        admission_eq, make_congr _ _ _ _ first, id_eq, ih _ _ rest_same]

/-- Later requests are judged with the ids of the earlier ones taken. -/
theorem candidatesFrom_append (taken : List String) (index : Nat)
    (first second : List ModuleRequest) :
    candidatesFrom taken index (first ++ second)
      = candidatesFrom taken index first
        ++ candidatesFrom (first.filterMap ModuleRequest.id ++ taken) (index + first.length)
            second := by
  induction first generalizing taken index with
  | nil => rfl
  | cons request rest ih =>
    have same : ∀ moduleId,
        moduleId ∈ rest.filterMap ModuleRequest.id ++ (request.id.toList ++ taken)
          ↔ moduleId ∈ (request :: rest).filterMap ModuleRequest.id ++ taken := by
      intro moduleId
      cases given : request.id with
      | none => simp only [given, Option.toList_none, List.nil_append, List.filterMap_cons]
      | some own =>
        simp only [given, Option.toList_some, List.filterMap_cons, List.mem_append,
          List.cons_append, List.nil_append, List.mem_cons]
        exact or_left_comm
    rw [List.cons_append, candidatesFrom_cons, ih, candidatesFrom_congr same, candidatesFrom_cons,
      List.cons_append, List.length_cons, Nat.add_right_comm, Nat.add_assoc]

/-- The indices count the requests. -/
theorem map_index_candidatesFrom (taken : List String) (index : Nat)
    (requests : List ModuleRequest) :
    (candidatesFrom taken index requests).map Candidate.index
      = List.range' index requests.length := by
  induction requests generalizing taken index with
  | nil => rfl
  | cons request rest ih =>
    rw [candidatesFrom_cons, List.map_cons, ih, List.length_cons, List.range'_succ]

/-! ## The whole list -/

/-- There are as many candidates as requests. -/
theorem length_candidates (requests : List ModuleRequest) :
    (candidates requests).length = requests.length := by
  rw [candidates, ← List.length_map Candidate.index, map_index_candidatesFrom, List.length_range']

/-- **Candidates stand in the order of their indices**, and no index is repeated. -/
theorem pairwise_index_candidates (requests : List ModuleRequest) :
    (candidates requests).Pairwise fun earlier later => earlier.index < later.index := by
  have increasing : ((candidates requests).map Candidate.index).Pairwise (· < ·) := by
    rw [candidates, map_index_candidatesFrom]
    exact List.pairwise_lt_range'
  exact List.pairwise_map.mp increasing

/-- **The candidates of a longer list continue those of a shorter one.** -/
theorem candidates_append (first second : List ModuleRequest) :
    candidates (first ++ second)
      = candidates first
        ++ candidatesFrom (first.filterMap ModuleRequest.id) first.length second := by
  rw [candidates, candidatesFrom_append, List.append_nil, Nat.zero_add, candidates]

/-- The candidate at an index is the request there, judged by the ids before it. -/
theorem getElem?_candidates (requests : List ModuleRequest) (index : Nat) :
    (candidates requests)[index]?
      = requests[index]?.map fun request =>
          ⟨index, request,
            request.admission ((requests.take index).filterMap ModuleRequest.id)⟩ := by
  cases present : requests[index]? with
  | none =>
    have beyond := List.getElem?_eq_none_iff.mp present
    rw [Option.map_none]
    exact List.getElem?_eq_none (by rwa [length_candidates])
  | some request =>
    obtain ⟨within, rfl⟩ := List.getElem?_eq_some_iff.mp present
    have split := candidates_append (requests.take index) (requests.drop index)
    have taken : (candidates (requests.take index)).length = index := by
      rw [length_candidates, List.length_take_of_le (Nat.le_of_lt within)]
    rw [List.take_append_drop, List.drop_eq_getElem_cons within, candidatesFrom_cons,
      List.length_take_of_le (Nat.le_of_lt within)] at split
    rw [split, List.getElem?_append_right (Nat.le_of_eq taken), taken, Nat.sub_self]
    rfl

/-- The ids before an index are those of earlier requests. -/
theorem mem_ids_take_iff (requests : List ModuleRequest) (index : Nat) (moduleId : String) :
    moduleId ∈ (requests.take index).filterMap ModuleRequest.id
      ↔ ∃ earlier < index, HasIdAt requests earlier moduleId := by
  simp only [List.mem_filterMap, List.mem_take_iff_getElem, hasIdAt_iff_bind]
  constructor
  · rintro ⟨request, ⟨earlier, before, rfl⟩, given⟩
    have within : earlier < requests.length := Nat.lt_of_lt_of_le before (Nat.min_le_right _ _)
    refine ⟨earlier, Nat.lt_of_lt_of_le before (Nat.min_le_left _ _), ?_⟩
    rw [List.getElem?_eq_getElem within, Option.bind_some, given]
  · rintro ⟨earlier, before, given⟩
    obtain ⟨request, present, given⟩ := Option.bind_eq_some_iff.mp given
    obtain ⟨within, rfl⟩ := List.getElem?_eq_some_iff.mp present
    exact ⟨_, ⟨earlier, Nat.lt_min.mpr ⟨before, within⟩, rfl⟩, given⟩

/-- A request that is judged by the ids before it fares as its index does. -/
theorem fares_admission {requests : List ModuleRequest} {index : Nat} {request : ModuleRequest}
    (present : requests[index]? = some request) :
    Fares requests index
      (request.admission ((requests.take index).filterMap ModuleRequest.id)) := by
  cases given : request.id with
  | none =>
    simp only [ModuleRequest.admission, given]
    intro moduleId has
    rw [hasIdAt_iff present, given] at has
    cases has
  | some moduleId =>
    have has : HasIdAt requests index moduleId := (hasIdAt_iff present moduleId).mpr given
    simp only [ModuleRequest.admission, given, mem_ids_take_iff]
    by_cases taken : ∃ earlier < index, HasIdAt requests earlier moduleId
    · rw [if_pos taken]
      exact ⟨has, taken⟩
    · rw [if_neg taken]
      exact ⟨has, fun earlier before hasEarlier => taken ⟨earlier, before, hasEarlier⟩⟩

/-- **The candidates are the requests at their indices, with the way in which these fare.** -/
theorem mem_candidates_iff (requests : List ModuleRequest) (candidate : Candidate) :
    candidate ∈ candidates requests
      ↔ requests[candidate.index]? = some candidate.request ∧
        Fares requests candidate.index candidate.admission := by
  constructor
  · intro member
    obtain ⟨index, here⟩ := List.mem_iff_getElem?.mp member
    rw [getElem?_candidates] at here
    obtain ⟨request, present, rfl⟩ := Option.map_eq_some_iff.mp here
    exact ⟨present, fares_admission present⟩
  · rintro ⟨present, fares⟩
    obtain ⟨admission, _, unique⟩ := existsUnique_fares requests candidate.index
    have same : candidate.admission
        = candidate.request.admission
            ((requests.take candidate.index).filterMap ModuleRequest.id) :=
      (unique _ fares).trans (unique _ (fares_admission present)).symm
    refine List.mem_iff_getElem?.mpr ⟨candidate.index, ?_⟩
    rw [getElem?_candidates, present, Option.map_some, ← same]

end CustomProperties
