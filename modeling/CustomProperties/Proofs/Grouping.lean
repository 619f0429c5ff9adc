import CustomProperties.Proofs.Candidates
import CustomProperties.Proofs.ElementIds
import CustomProperties.Proofs.Overlay

/-!
# The grouping of variables

The variables of a request may be given as one tree or as several, and what is built does not
depend on it.  A walk through the children of a branch leaves the records of each of them in turn
(`childRecords_append`), and both the variables and the problems of a request are read off the
records of all its sources in turn.  So a request counts by its substance alone, that is by its
other settings and these records (`ModuleRequest.substance`): requests of equal substance have the
same text and the same problems (`css_congr`, `problems_congr`), and lists of such requests compile
to the same (`compile_congr`).

A branch that is cut in two is two sources of equal substance, and in the options it does not
matter whether variables are given as one object, as a list of one, or as a list of two that hold
its members.  The main statement, `grouping_irrelevant`, says both.
-/

namespace CustomProperties

set_option autoImplicit false

/-! ## Records of branches -/

namespace Naming

/-- Children that stand in two rows leave the records of the first and then those of the second. -/
theorem childRecords_append (naming : Naming) (path : List String)
    (first second : List (Binding String Tree)) :
    naming.childRecords path (first ++ second)
      = naming.childRecords path first ++ naming.childRecords path second := by
  induction first with
  | nil => rfl
  | cons child rest ih =>
    rw [List.cons_append, childRecords, childRecords, ih, List.append_assoc]

/-- **A branch leaves the records of its parts**, wherever it is cut. -/
theorem records_branch_append (naming : Naming) (first second : List (Binding String Tree)) :
    naming.records (.branch ⟨first ++ second⟩)
      = naming.records (.branch ⟨first⟩) ++ naming.records (.branch ⟨second⟩) :=
  naming.childRecords_append [] first second

end Naming

/-! ## The substance of a request -/

/-- What counts of a request. -/
@[ext]
structure Substance where
  /-- All that the request says besides its sources. -/
  settings : ModuleRequest
  /-- The records that its sources leave in turn. -/
  records : Naming → List Record

/-- The substance of a request: its sources count by their records only. -/
def ModuleRequest.substance (request : ModuleRequest) : Substance :=
  { settings := { request with sources := [] }
    records := fun naming => request.sources.flatMap naming.records }

namespace ModuleRequest

variable {request other : ModuleRequest}

/-- The problems of a request are the problems among its records. -/
theorem problems_eq_filterMap (request : ModuleRequest) (maxDepth : Nat) :
    request.problems maxDepth
      = (request.substance.records (request.substance.settings.naming maxDepth)).filterMap
          Record.skipped? := by
  rw [problems, flattened, List.flatMap_map, substance, List.filterMap_flatMap]
  rfl

/-- What a request declares are the variables among its records, laid over one another. -/
theorem declared_eq_ofList (request : ModuleRequest) (maxDepth : Nat) :
    request.declared maxDepth
      = (Bindings.ofList ((request.substance.records
          (request.substance.settings.naming maxDepth)).filterMap Record.declared?)).toList := by
  rw [declared, mergeVariables, Bindings.foldl_extend, flattened, List.map_map, ← List.flatMap_def,
    substance, List.filterMap_flatMap]
  rfl

variable (same : request.substance = other.substance) (maxDepth : Nat)
include same

/-- **Requests of equal substance have the same problems.** -/
theorem problems_congr : request.problems maxDepth = other.problems maxDepth := by
  rw [problems_eq_filterMap, problems_eq_filterMap, same]

/-- **Requests of equal substance have the same text.** -/
theorem css_congr : request.css maxDepth = other.css maxDepth := by
  have declared_eq : request.declared maxDepth = other.declared maxDepth := by
    rw [declared_eq_ofList, declared_eq_ofList, same]
  have selector_eq : request.selector = other.selector :=
    congrArg (fun substance => substance.settings.selector) same
  have formatting_eq : request.formatting = other.formatting :=
    congrArg (fun substance => substance.settings.formatting) same
  rw [css, css, declared_eq, selector_eq, formatting_eq]

/-- Under any id, requests of equal substance are built to the same. -/
theorem build_congr (moduleId : String) (found : List Diagnostic) :
    request.build maxDepth moduleId found = other.build maxDepth moduleId found := by
  rw [build, build, stylesheet, stylesheet, malformed?, malformed?, css_congr same,
    problems_congr same]

end ModuleRequest

/-! ## Lists of requests -/

/-- **Lists of requests of equal substance compile to the same.** -/
theorem compile_congr {requests others : List ModuleRequest}
    (same : requests.map ModuleRequest.substance = others.map ModuleRequest.substance)
    (maxDepth : Nat) : compile requests maxDepth = compile others maxDepth := by
  have id_eq : ∀ request other : ModuleRequest, request.substance = other.substance →
      request.id = other.id :=
    fun _ _ equal => congrArg (fun substance => substance.settings.id) equal
  rw [compile, compile, candidates, candidates]
  congr 1
  · refine filterMap_candidatesFrom_congr id_eq ?_ [] 0 same
    intro index admission request other equal
    cases admission with
    | unnamed => rfl
    | repeated moduleId => rfl
    | admitted moduleId =>
      simp only [Candidate.stylesheet?, ModuleRequest.stylesheet, ModuleRequest.css_congr equal]
  · refine filterMap_candidatesFrom_congr id_eq ?_ [] 0 same
    intro index admission request other equal
    cases admission with
    | unnamed => rfl
    | repeated moduleId => rfl
    | admitted moduleId =>
      simp only [Candidate.diagnostic?, ModuleRequest.malformed?,
        ModuleRequest.problems_congr equal]

/-! ## Variables in options -/

namespace Options

/-- Two values are the same variables: the trees that they give leave the same records in turn. -/
def SameVariables (value other : Json) : Prop :=
  ∀ naming : Naming,
    (sourcesOf value).flatMap naming.records = (sourcesOf other).flatMap naming.records

/-- An object may stand in a list of its own. -/
theorem sameVariables_singleton (members : Bindings String Json) :
    SameVariables (.array [.object members]) (.object members) := by
  intro naming
  rfl

/-- **An object may be cut in two.** -/
theorem sameVariables_append (first second : List (Binding String Json)) :
    SameVariables (.array [.object ⟨first⟩, .object ⟨second⟩]) (.object ⟨first ++ second⟩) := by
  intro naming
  have joined := naming.records_branch_append (Tree.ofMembers first) (Tree.ofMembers second)
  have members : Tree.ofMembers (first ++ second)
      = Tree.ofMembers first ++ Tree.ofMembers second := by
    rw [Tree.ofMembers_eq_map, Tree.ofMembers_eq_map, Tree.ofMembers_eq_map, List.map_append]
  rw [← members] at joined
  simpa [sourcesOf, Tree.ofJson] using joined.symm

/-- Settings other than the variables leave the records alone. -/
theorem Setting.substance_update_of_ne {setting : Setting} {value : Json}
    {update : ModuleRequest → ModuleRequest} (other : setting ≠ .sources)
    (good : setting.update value = .ok update) (request : ModuleRequest) :
    (update request).substance
      = ⟨update request.substance.settings, request.substance.records⟩ := by
  cases setting with
  | sources => exact absurd rfl other
  | moduleId =>
    cases good
    rfl
  | separator | selector | pretty | useTabs | tabSize | defaultKey =>
    obtain ⟨_, _, rfl⟩ := exists_of_map_eq_ok good
    rfl

/-- **A setting sees no more of a request than its substance.** -/
theorem Setting.substance_update_congr {setting : Setting} {value : Json}
    {update : ModuleRequest → ModuleRequest} (good : setting.update value = .ok update)
    {request other : ModuleRequest} (same : request.substance = other.substance) :
    (update request).substance = (update other).substance := by
  by_cases replaced : setting = .sources
  · subst replaced
    cases good
    have settings_eq : request.substance.settings = other.substance.settings :=
      congrArg Substance.settings same
    exact Substance.ext settings_eq rfl
  · rw [substance_update_of_ne replaced good, substance_update_of_ne replaced good, same]

/-- Settings that are given to requests of equal substance make such requests, or have the same
error. -/
theorem substance_updateAll_congr (settings : List (Setting × Json))
    {request other : ModuleRequest} (same : request.substance = other.substance) :
    (updateAll request settings).map ModuleRequest.substance
      = (updateAll other settings).map ModuleRequest.substance := by
  induction settings generalizing request other with
  | nil => exact congrArg Except.ok same
  | cons entry rest ih =>
    obtain ⟨setting, value⟩ := entry
    rw [updateAll, updateAll]
    cases good : setting.update value with
    | error error => rfl
    | ok update => exact ih (setting.substance_update_congr good same)

/-! ## Places for variables -/

/-- A place in an element where variables are given. -/
inductive VariablesPlace where
  /-- A member of an object. -/
  | member (before after : List (Binding String Json))
  /-- The second item of an array. -/
  | item (moduleId : Json) (others : List Json)

namespace VariablesPlace

/-- The element that gives a value for the variables. -/
def element : VariablesPlace → Json → Json
  | .member before after, value => .object ⟨before ++ ⟨Setting.sources.key, value⟩ :: after⟩
  | .item moduleId others, value => .array (moduleId :: value :: others)

/-- An element gives its variables between other settings. -/
theorem exists_given_element (place : VariablesPlace) :
    ∃ before after, ∀ value,
      given (place.element value) = .ok (before ++ (.sources, value) :: after) := by
  cases place with
  | member before after =>
    refine ⟨before.filterMap settingOf?, after.filterMap settingOf?, fun value => ?_⟩
    have found : settingOf? ⟨Setting.sources.key, value⟩ = some (.sources, value) := rfl
    have read : given (.object ⟨before ++ ⟨Setting.sources.key, value⟩ :: after⟩)
        = .ok ((before ++ ⟨Setting.sources.key, value⟩ :: after).filterMap settingOf?) := rfl
    rw [element, read, List.filterMap_append, List.filterMap_cons_some found]
  | item moduleId others =>
    exact ⟨[(.moduleId, moduleId)], (Setting.all.drop 2).zip others, fun _ => rfl⟩

/-- The values for the variables do not change how long an element is. -/
theorem checkLength_element (place : VariablesPlace) (value other : Json) :
    checkLength (place.element value) = checkLength (place.element other) := by
  cases place with
  | member before after => rfl
  | item moduleId others => simp [element, checkLength]

/-- **The same variables make requests of equal substance**, or have the same error. -/
theorem substance_request_element (place : VariablesPlace) {value other : Json}
    (same : SameVariables value other) :
    (request (place.element value)).map ModuleRequest.substance
      = (request (place.element other)).map ModuleRequest.substance := by
  obtain ⟨before, after, read⟩ := place.exists_given_element
  have made : (updateAll {} (before ++ (.sources, value) :: after)).map ModuleRequest.substance
      = (updateAll {} (before ++ (.sources, other) :: after)).map ModuleRequest.substance := by
    rw [updateAll_append, updateAll_append]
    cases updateAll {} before with
    | error error => rfl
    | ok earlier =>
      refine substance_updateAll_congr after ?_
      exact Substance.ext rfl (funext same)
  rw [map_request, map_request, read, read, place.checkLength_element value other]
  exact congrArg (fun seen => seen.bind fun made =>
    (checkLength (place.element other)).map fun _ => made) made

end VariablesPlace

/-- **Options that give the same variables compile to the same**, or have the same error. -/
theorem compile_ofJson_congr (earlier later : List Json) (place : VariablesPlace)
    {value other : Json} (same : SameVariables value other) (maxDepth : Nat) :
    (ofJson (.array (earlier ++ place.element value :: later))).map (compile · maxDepth)
      = (ofJson (.array (earlier ++ place.element other :: later))).map (compile · maxDepth) := by
  have alike : List.Forall₂ (fun element element' =>
      (request element).map ModuleRequest.substance
        = (request element').map ModuleRequest.substance)
      (earlier ++ place.element value :: later) (earlier ++ place.element other :: later) := by
    induction earlier with
    | nil =>
      refine .cons (place.substance_request_element same) ?_
      exact List.forall₂_same.mpr fun _ _ => rfl
    | cons element earlier ih => exact .cons rfl ih
  rw [ofJson, ofJson, map_mapError, map_mapError]
  refine congrArg (Except.mapError OptionsError.element) ?_
  refine map_eq_of_map_eq ?_ (map_requests_congr alike)
  intro requests others equal
  exact compile_congr equal maxDepth

end Options

/-! ## Groupings -/

/-- **How variables are grouped does not matter.**

A source that is a branch may be cut in two at any place, and the request is built to the same text
and the same problems under any id.  In options, an object may be given for the variables of an
element, or a list of it, or a list of two objects that it is cut into at any place, and the options
compile to the same stylesheets and diagnostics, or have the same error. -/
theorem grouping_irrelevant (maxDepth : Nat) :
    (∀ (request : ModuleRequest) (before after : List Tree) (children : List (Binding String Tree))
        (count : Nat) (moduleId : String) (found : List Diagnostic),
      let first : Tree := .branch ⟨children.take count⟩
      let second : Tree := .branch ⟨children.drop count⟩
      let whole : Tree := .branch ⟨children⟩
      { request with sources := before ++ first :: second :: after }.build maxDepth moduleId found
        = { request with sources := before ++ whole :: after }.build maxDepth moduleId found) ∧
    (∀ (earlier later : List Json) (place : Options.VariablesPlace)
        (members : List (Binding String Json)) (count : Nat),
      let compiled (value : Json) :=
        (Options.ofJson (.array (earlier ++ place.element value :: later))).map (compile · maxDepth)
      let first : Json := .object ⟨members.take count⟩
      let second : Json := .object ⟨members.drop count⟩
      let whole : Json := .object ⟨members⟩
      compiled (.array [whole]) = compiled whole ∧
        compiled (.array [first, second]) = compiled whole) := by
  constructor
  · intro request before after children count moduleId found first second whole
    refine ModuleRequest.build_congr ?_ maxDepth moduleId found
    refine Substance.ext rfl ?_
    funext naming
    have joined := naming.records_branch_append (children.take count) (children.drop count)
    rw [List.take_append_drop] at joined
    simp [ModuleRequest.substance, first, second, whole, joined]
  · intro earlier later place members count compiled first second whole
    have joined := Options.sameVariables_append (members.take count) (members.drop count)
    rw [List.take_append_drop] at joined
    constructor
    · exact Options.compile_ofJson_congr earlier later place
        (Options.sameVariables_singleton ⟨members⟩) maxDepth
    · exact Options.compile_ofJson_congr earlier later place joined maxDepth

end CustomProperties
