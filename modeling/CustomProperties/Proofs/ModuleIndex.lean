import CustomProperties.Proofs.Accounting
import CustomProperties.Proofs.Independence
import CustomProperties.VirtualModules

/-!
# The index of the modules

Three things say what the module with an id is.  The compilation drops every request whose id is
taken, a stylesheet is looked up as the first one that bears the id, and the index binds ids to
contents.  All of them come to the first request with the id: its stylesheet is found in the
compilation (`stylesheet?_compile`) and its text in the index (`content?_ofCompilation`).

Hence the modules of a build are an index of its requests (`Indexes`): the ids are those that
requests give, each where it is given first, and the content of a module is what the first request
with its id comes to alone.  The main statement is `build_indexes`.
-/

namespace CustomProperties

set_option autoImplicit false

/-! ## Stylesheets by id -/

/-- A request has an id if it stands at an index that has it. -/
theorem exists_hasIdAt_iff (requests : List ModuleRequest) (moduleId : String) :
    (∃ index, HasIdAt requests index moduleId) ↔
      ∃ request ∈ requests, request.id = some moduleId := by
  constructor
  · rintro ⟨index, has⟩
    rw [hasIdAt_iff_bind] at has
    obtain ⟨request, present, given⟩ := Option.bind_eq_some_iff.mp has
    exact ⟨request, List.mem_of_getElem? present, given⟩
  · rintro ⟨request, member, given⟩
    obtain ⟨index, present⟩ := List.mem_iff_getElem?.mp member
    exact ⟨index, (hasIdAt_iff present moduleId).mpr given⟩

/-- The request that a search for an id stops at is the first one with that id. -/
theorem exists_firstWithId_of_find? {requests : List ModuleRequest} {request : ModuleRequest}
    {moduleId : String}
    (found : requests.find? (fun request => request.id = some moduleId) = some request) :
    ∃ index, requests[index]? = some request ∧ FirstWithId requests index moduleId := by
  obtain ⟨given, index, within, rfl, others⟩ := List.find?_eq_some_iff_getElem.mp found
  have present := List.getElem?_eq_getElem within
  refine ⟨index, present, (hasIdAt_iff present moduleId).mpr (of_decide_eq_true given), ?_⟩
  intro earlier before has
  have present' := List.getElem?_eq_getElem (Nat.lt_trans before within)
  have other := others earlier before
  simp only [(hasIdAt_iff present' moduleId).mp has, decide_true, Bool.not_true,
    Bool.false_eq_true] at other

/-- **The stylesheet with an id is that of the first request with the id.** -/
theorem stylesheet?_compile (requests : List ModuleRequest) (maxDepth : Nat) (moduleId : String) :
    (compile requests maxDepth).stylesheet? moduleId
      = (requests.find? fun request => request.id = some moduleId).map
          (·.stylesheet maxDepth moduleId) := by
  rw [Compilation.stylesheet?]
  cases found : requests.find? (fun request => request.id = some moduleId) with
  | some request =>
    obtain ⟨index, present, first⟩ := exists_firstWithId_of_find? found
    have about := congrArg Compilation.stylesheets (about_compile maxDepth present first)
    rw [← List.head?_filter]
    exact congrArg List.head? about
  | none =>
    refine List.find?_eq_none.mpr ?_
    intro stylesheet member same
    obtain ⟨index, yields⟩ := ((listedInOrder_stylesheets requests maxDepth).mem_iff _).mp member
    obtain rfl := of_decide_eq_true same
    obtain ⟨request, member', given⟩ :=
      (exists_hasIdAt_iff requests stylesheet.moduleId).mp ⟨index, yields.firstWithId.1⟩
    exact List.find?_eq_none.mp found request member' (decide_eq_true given)

/-- The stylesheets bear the ids that are given and not taken, each where it is given first. -/
theorem moduleIds_candidatesFrom (maxDepth : Nat) (taken : List String) (index : Nat)
    (requests : List ModuleRequest) :
    ((candidatesFrom taken index requests).filterMap (Candidate.stylesheet? maxDepth)).map
        Stylesheet.moduleId
      = ((requests.filterMap ModuleRequest.id).filter (· ∉ taken)).eraseDups := by
  induction requests generalizing taken index with
  | nil => rfl
  | cons request rest ih =>
    cases given : request.id with
    | none => simpa [candidatesFrom, given, List.filterMap_cons, Candidate.stylesheet?] using ih _ _
    | some own =>
      by_cases known : own ∈ taken
      · simpa [candidatesFrom, given, known, List.filterMap_cons, Candidate.stylesheet?]
          using ih _ _
      · -- an id that is met is taken from then on, which is how repetitions are erased
        have taken_after : (fun moduleId => decide (moduleId ∉ own :: taken))
            = fun moduleId => !moduleId == own && decide (moduleId ∉ taken) := by
          funext moduleId
          by_cases same : moduleId = own <;> simp [same]
        have kept : (own :: rest.filterMap ModuleRequest.id).filter (· ∉ taken)
            = own :: (rest.filterMap ModuleRequest.id).filter (· ∉ taken) :=
          List.filter_cons_of_pos (decide_eq_true known)
        rw [List.filterMap_cons_some given, kept, List.eraseDups_cons, List.filter_filter,
          ← taken_after, ← ih (own :: taken) (index + 1)]
        simp [candidatesFrom, given, known, Candidate.stylesheet?, ModuleRequest.stylesheet]

/-- **The stylesheets bear the ids that are given**, each where it is given first. -/
theorem moduleIds_compile (requests : List ModuleRequest) (maxDepth : Nat) :
    (compile requests maxDepth).stylesheets.map Stylesheet.moduleId
      = (requests.filterMap ModuleRequest.id).eraseDups := by
  rw [compile, candidates, moduleIds_candidatesFrom]
  simp

/-- A text that a request comes to is not empty. -/
theorem ModuleRequest.css_ne_empty (request : ModuleRequest) (maxDepth : Nat) :
    request.css maxDepth ≠ some "" := by
  rw [ModuleRequest.css]
  cases nothing : (request.declared maxDepth).isEmpty with
  | true => simp
  | false => simp [ruleBlock_eq_empty_iff, ← List.isEmpty_iff, nothing]

namespace VirtualModules

/-! ## From a compilation to its index -/

/-- The index of a compilation binds the ids of its stylesheets to their texts. -/
theorem toList_contents_ofCompilation (requests : List ModuleRequest) (maxDepth : Nat) :
    (ofCompilation (compile requests maxDepth)).contents.toList
      = (compile requests maxDepth).stylesheets.map fun stylesheet =>
          ⟨stylesheet.moduleId, stylesheet.text⟩ := by
  refine Bindings.toList_ofList_of_nodup ?_
  rw [List.map_map]
  exact nodup_moduleId_compile requests maxDepth

/-- **Indexing a compilation keeps its stylesheets**, and their order. -/
theorem stylesheets_ofCompilation (requests : List ModuleRequest) (maxDepth : Nat) :
    (ofCompilation (compile requests maxDepth)).stylesheets
      = (compile requests maxDepth).stylesheets := by
  rw [stylesheets, toList_contents_ofCompilation, List.map_map]
  exact List.map_id _

/-- The ids in the index are those of the stylesheets. -/
theorem ids_ofCompilation (requests : List ModuleRequest) (maxDepth : Nat) :
    (ofCompilation (compile requests maxDepth)).ids
      = (compile requests maxDepth).stylesheets.map Stylesheet.moduleId := by
  rw [ids, Bindings.names, toList_contents_ofCompilation, List.map_map]
  rfl

/-- A stylesheet of a compilation is found under its id. -/
theorem get?_contents_ofCompilation {requests : List ModuleRequest} {maxDepth : Nat}
    {stylesheet : Stylesheet} (member : stylesheet ∈ (compile requests maxDepth).stylesheets) :
    (ofCompilation (compile requests maxDepth)).contents.get? stylesheet.moduleId
      = some stylesheet.text := by
  have listed := toList_contents_ofCompilation requests maxDepth
  have bound : (⟨stylesheet.moduleId, stylesheet.text⟩ : Binding String (Option String))
      ∈ (ofCompilation (compile requests maxDepth)).contents.toList := by
    rw [listed]
    exact List.mem_map.mpr ⟨stylesheet, member, rfl⟩
  refine Bindings.get?_of_mem ?_ bound
  rw [listed, List.map_map]
  exact nodup_moduleId_compile requests maxDepth

/-- **An id stands for the text of the stylesheet with that id.** -/
theorem content?_ofCompilation (requests : List ModuleRequest) (maxDepth : Nat)
    (moduleId : String) :
    (ofCompilation (compile requests maxDepth)).content? moduleId
      = ((compile requests maxDepth).stylesheet? moduleId).bind Stylesheet.text := by
  rw [content?, Bindings.get?, toList_contents_ofCompilation, List.find?_map, Option.map_map,
    Compilation.stylesheet?]
  cases found : (compile requests maxDepth).stylesheets.find?
      fun stylesheet => stylesheet.moduleId = moduleId with
  | none => simp [Function.comp_def, found]
  | some stylesheet => simp [Function.comp_def, found]

/-! ## Known modules -/

/-- A module is known if its id is one of the ids. -/
theorem has_iff_mem_ids (modules : VirtualModules) (moduleId : String) :
    modules.has moduleId ↔ moduleId ∈ modules.ids := by
  rw [has, Bindings.contains, List.any_eq_true, ids, Bindings.names, List.mem_map]
  simp only [decide_eq_true_eq]

/-- An unknown module has no content. -/
theorem content?_of_not_has {modules : VirtualModules} {moduleId : String}
    (unknown : modules.has moduleId = false) : modules.content? moduleId = none := by
  rw [has, Bindings.contains_eq_isSome_get?] at unknown
  have absent : modules.contents.get? moduleId = none := by simpa using unknown
  rw [content?, absent]
  rfl

theorem has_of_content?_eq_some {modules : VirtualModules} {moduleId text : String}
    (content : modules.content? moduleId = some text) : modules.has moduleId := by
  cases known : modules.has moduleId with
  | true => rfl
  | false => cases content.symm.trans (content?_of_not_has known)

/-! ## The index of a build -/

/-- The modules are an index of the requests. -/
structure Indexes (requests : List ModuleRequest) (maxDepth : Nat) (modules : VirtualModules) :
    Prop where
  /-- The ids are those that are given and not empty, each where it is given first. -/
  ids : modules.ids = (requests.filterMap ModuleRequest.id).eraseDups
  /-- A module is known if a request gives its id, which is never empty. -/
  has_iff : ∀ moduleId, modules.has moduleId ↔
    moduleId ≠ "" ∧ ∃ request ∈ requests, request.moduleId = some moduleId
  /-- The content of a module is the text of its stylesheet in the compilation. -/
  content? : ∀ moduleId, modules.content? moduleId
    = ((compile requests maxDepth).stylesheet? moduleId).bind Stylesheet.text
  /-- The first request with an id, compiled alone, comes to one stylesheet, with that content. -/
  alone : ∀ moduleId request,
    requests.find? (fun request => request.id = some moduleId) = some request →
      (compile [request] maxDepth).stylesheets = [⟨moduleId, modules.content? moduleId⟩]
  /-- Where no request has an id, there is no content. -/
  absent : ∀ moduleId, requests.find? (fun request => request.id = some moduleId) = none →
    modules.content? moduleId = none
  /-- Content is never empty. -/
  content?_ne_empty : ∀ moduleId, modules.content? moduleId ≠ some ""
  /-- What has content is known. -/
  has_of_content? : ∀ moduleId text, modules.content? moduleId = some text → modules.has moduleId

/-- **The modules of a build are an index of its requests.** -/
theorem build_indexes {σ : Type} [DiagnosticSink σ] (requests : List ModuleRequest) (sink : σ)
    (maxDepth : Nat) : Indexes requests maxDepth (build requests sink maxDepth).1 := by
  have built : (build requests sink maxDepth).1 = ofCompilation (compile requests maxDepth) := rfl
  rw [built]
  have ids_eq : (ofCompilation (compile requests maxDepth)).ids
      = (requests.filterMap ModuleRequest.id).eraseDups :=
    (ids_ofCompilation requests maxDepth).trans (moduleIds_compile requests maxDepth)
  have content_eq (moduleId : String) :
      (ofCompilation (compile requests maxDepth)).content? moduleId
        = (requests.find? fun request => request.id = some moduleId).bind
            (·.css maxDepth) := by
    rw [content?_ofCompilation, stylesheet?_compile, Option.bind_map]
    rfl
  refine ⟨ids_eq, ?_, content?_ofCompilation requests maxDepth, ?_, ?_, ?_, ?_⟩
  · intro moduleId
    rw [has_iff_mem_ids, ids_eq, List.mem_eraseDups, List.mem_filterMap]
    simp only [ModuleRequest.id_eq_some_iff]
    constructor
    · rintro ⟨request, member, given, nonempty⟩
      exact ⟨nonempty, request, member, given⟩
    · rintro ⟨nonempty, request, member, given⟩
      exact ⟨request, member, given, nonempty⟩
  · intro moduleId request found
    have given : request.id = some moduleId := by simpa using List.find?_some found
    rw [content_eq, found, compile_singleton maxDepth given]
    rfl
  · intro moduleId found
    rw [content_eq, found]
    rfl
  · intro moduleId empty
    rw [content_eq] at empty
    obtain ⟨request, _, empty⟩ := Option.bind_eq_some_iff.mp empty
    exact request.css_ne_empty maxDepth empty
  · intro moduleId text content
    exact has_of_content?_eq_some content

end VirtualModules

end CustomProperties
