import CustomProperties.Proofs.Accounting
import CustomProperties.Proofs.ElementIds
import Mathlib

/-!
# Ids and variables never spoil options

Two settings of a request accept every value: its id and its variables.  Whatever an element
gives for them, the other settings are read as if it gave nothing.  To say this, the id and the
variables of a request are blanked (`ModuleRequest.settings`): reading an element and blanking
the request comes to reading only what the element says for the other settings
(`settings_updateAll`).  So two lists of elements that differ in ids and variables alone come to
the same error, or to requests that differ in ids and variables alone (`settings_requests`).

A missing or an unusable id is noticed when the requests are compiled, and reported with the
index of its element (`unnamedIndices_compile`).

The main statement, `parse_indifferent_to_content`, says both of whole texts.
-/

namespace CustomProperties

set_option autoImplicit false

/-- What a request says besides its id and its variables. -/
def ModuleRequest.settings (request : ModuleRequest) : ModuleRequest :=
  { request with moduleId := none, sources := [] }

namespace Options

/-! ## Settings that accept everything -/

/-- Whether a setting accepts some values only. -/
def Setting.isStrict : Setting → Bool
  | .moduleId => false
  | .sources => false
  | _ => true

/-- A setting that accepts everything changes nothing but the id and the variables. -/
theorem Setting.settings_update_of_lenient {setting : Setting} (lenient : setting.isStrict = false)
    (value : Json) :
    ∃ update, setting.update value = .ok update ∧
      ∀ request, (update request).settings = request.settings := by
  cases setting with
  | moduleId => exact ⟨_, rfl, fun _ => rfl⟩
  | sources => exact ⟨_, rfl, fun _ => rfl⟩
  | separator | selector | pretty | useTabs | tabSize | defaultKey => cases lenient

/-- Every other setting does not look at the id and the variables. -/
theorem Setting.settings_update_of_strict {setting : Setting} {value : Json}
    {update : ModuleRequest → ModuleRequest} (strict : setting.isStrict = true)
    (good : setting.update value = .ok update) (request : ModuleRequest) :
    (update request).settings = update request.settings := by
  cases setting with
  | moduleId | sources => cases strict
  | separator | selector | pretty | useTabs | tabSize | defaultKey =>
    obtain ⟨_, _, rfl⟩ := exists_of_map_eq_ok good
    rfl

/-- **Besides ids and variables, only the strict settings count.** -/
theorem settings_updateAll (request : ModuleRequest) (settings : List (Setting × Json)) :
    (updateAll request settings).map ModuleRequest.settings
      = updateAll request.settings (settings.filter fun entry => entry.1.isStrict) := by
  induction settings generalizing request with
  | nil => rfl
  | cons entry rest ih =>
    obtain ⟨setting, value⟩ := entry
    cases kind : setting.isStrict with
    | false =>
      obtain ⟨update, good, same⟩ := Setting.settings_update_of_lenient kind value
      rw [updateAll, good, List.filter_cons_of_neg (by simp [kind])]
      exact (ih (update request)).trans (by rw [same])
    | true =>
      rw [List.filter_cons_of_pos (by simpa using kind), updateAll, updateAll]
      cases good : setting.update value with
      | error error => rfl
      | ok update =>
        have same := Setting.settings_update_of_strict kind good request
        exact (ih (update request)).trans (by rw [same])

/-! ## Elements -/

/-- Whether a member of an object is for the id or the variables. -/
def isLenient (member : Binding String Json) : Bool :=
  member.name = Setting.moduleId.key || member.name = Setting.sources.key

/-- Two elements that say the same besides ids and variables: they are equal, or they are objects
that have the same other members in the same order. -/
inductive SameSettings : Json → Json → Prop where
  | refl (element : Json) : SameSettings element element
  | object {members others : Bindings String Json}
      (same : members.toList.filter (!isLenient ·) = others.toList.filter (!isLenient ·)) :
      SameSettings (.object members) (.object others)

/-- An id or variables may be added anywhere, hence also taken away and replaced. -/
theorem SameSettings.add {member : Binding String Json} (lenient : isLenient member = true)
    (before after : List (Binding String Json)) :
    SameSettings (.object ⟨before ++ after⟩) (.object ⟨before ++ member :: after⟩) := by
  refine .object ?_
  rw [List.filter_append, List.filter_append, List.filter_cons_of_neg (by simp [lenient])]

/-- A member that gives a setting gives a strict one, or is for the id or the variables. -/
theorem isStrict_of_ofKey? {member : Binding String Json} {setting : Setting}
    (found : Setting.ofKey? member.name = some setting) :
    setting.isStrict = !isLenient member := by
  have named := key_of_ofKey?_eq_some found
  rw [isLenient, ← named]
  cases setting <;> decide

/-- The strict settings that an object gives are given by its other members. -/
theorem filter_isStrict_members (members : List (Binding String Json)) :
    (members.filterMap settingOf?).filter (fun entry => entry.1.isStrict)
      = (members.filter (!isLenient ·)).filterMap settingOf? := by
  rw [List.filter_filterMap, List.filterMap_filter]
  refine List.filterMap_congr fun member _ => ?_
  rw [settingOf?]
  cases found : Setting.ofKey? member.name with
  | none => simp
  | some setting =>
    rw [← isStrict_of_ofKey? found]
    cases kind : setting.isStrict <;> simp [kind]

/-- An object makes the request that its members make. -/
theorem request_object (members : Bindings String Json) :
    request (.object members) = updateAll {} (members.toList.filterMap settingOf?) := by
  have read : given (.object members) = .ok (members.toList.filterMap settingOf?) := rfl
  rw [request, read]
  cases made : updateAll {} (members.toList.filterMap settingOf?) <;>
    simp [made, bind, Except.bind, checkLength, pure, Except.pure]

/-- **Elements that say the same besides ids and variables** make requests that do so, or have
the same error. -/
theorem SameSettings.settings_request {element other : Json} (same : SameSettings element other) :
    (request element).map ModuleRequest.settings = (request other).map ModuleRequest.settings := by
  cases same with
  | refl element => rfl
  | object same =>
    rw [request_object, request_object, settings_updateAll, settings_updateAll,
      filter_isStrict_members, filter_isStrict_members, same]

/-- **Lists of such elements** make requests that differ in ids and variables alone, or have the
same error. -/
theorem settings_requests {elements others : List Json}
    (same : List.Forall₂ SameSettings elements others) :
    (requests elements).map (List.map ModuleRequest.settings)
      = (requests others).map (List.map ModuleRequest.settings) :=
  map_requests_congr (same.imp fun _ _ alike => alike.settings_request)

end Options

/-! ## Reported indices -/

namespace Diagnostic

/-- The index at which a request has no id, if that is what the diagnostic says. -/
def unnamedIndex? : Diagnostic → Option Nat
  | .emptyModuleId index => some index
  | _ => none

end Diagnostic

/-- The index of a request is reported if it has no id, whatever ids are taken. -/
theorem unnamedIndex?_bind_diagnostic? (maxDepth : Nat) (taken : List String) (index : Nat)
    (request : ModuleRequest) :
    (Candidate.diagnostic? maxDepth ⟨index, request, request.admission taken⟩).bind
        Diagnostic.unnamedIndex?
      = if request.id.isNone then some index else none := by
  cases given : request.id with
  | none => simp only [ModuleRequest.admission, given]; rfl
  | some moduleId =>
    simp only [ModuleRequest.admission, given]
    split
    · rfl
    · cases reported : request.malformed? maxDepth moduleId with
      | none => simp only [Candidate.diagnostic?, reported]; rfl
      | some diagnostic =>
        obtain ⟨_, rfl⟩ := (request.malformed?_eq_some_iff maxDepth moduleId _).mp reported
        simp only [Candidate.diagnostic?, reported]
        rfl

/-- **The indices that are reported as unnamed are those of the requests without id**, each of
them once and in order. -/
theorem unnamedIndices_candidatesFrom (maxDepth : Nat) (taken : List String) (index : Nat)
    (requests : List ModuleRequest) :
    ((candidatesFrom taken index requests).filterMap (Candidate.diagnostic? maxDepth)).filterMap
        Diagnostic.unnamedIndex?
      = requests.findIdxs (fun request => request.id.isNone) index := by
  rw [List.filterMap_filterMap]
  induction requests generalizing taken index with
  | nil => rfl
  | cons request rest ih =>
    rw [candidatesFrom_cons, List.filterMap_cons, unnamedIndex?_bind_diagnostic?, ih,
      List.findIdxs_cons]
    cases request.id <;> rfl

theorem unnamedIndices_compile (requests : List ModuleRequest) (maxDepth : Nat) :
    (compile requests maxDepth).diagnostics.filterMap Diagnostic.unnamedIndex?
      = requests.findIdxs fun request => request.id.isNone :=
  unnamedIndices_candidatesFrom maxDepth [] 0 requests

/-- A repetition is reported at an index exactly if that is how its request fares. -/
theorem duplicateModuleId_mem_iff (requests : List ModuleRequest) (maxDepth index : Nat)
    (moduleId : String) :
    .duplicateModuleId moduleId index ∈ (compile requests maxDepth).diagnostics
      ↔ Fares requests index (.repeated moduleId) := by
  rw [(listedInOrder_diagnostics requests maxDepth).mem_iff]
  constructor
  · rintro ⟨_, reports⟩
    cases reports with
    | repeated fares => exact fares
  · intro fares
    exact ⟨index, .repeated fares⟩

/-- An index with an id yields a stylesheet for it, or is reported as a repetition, and never
both. -/
theorem xor_yields_duplicate {requests : List ModuleRequest} {index : Nat} {moduleId : String}
    (has : HasIdAt requests index moduleId) (maxDepth : Nat) :
    Xor (∃ text, Yields requests maxDepth index ⟨moduleId, text⟩)
      (.duplicateModuleId moduleId index ∈ (compile requests maxDepth).diagnostics) := by
  rw [duplicateModuleId_mem_iff]
  obtain ⟨request, present, _⟩ := Option.bind_eq_some_iff.mp has.1
  have yields_iff : (∃ text, Yields requests maxDepth index ⟨moduleId, text⟩) ↔
      FirstWithId requests index moduleId :=
    ⟨fun ⟨_, yields⟩ => yields.firstWithId, fun first => ⟨_, .admitted present first⟩⟩
  rw [yields_iff]
  by_cases taken : ∃ earlier < index, HasIdAt requests earlier moduleId
  · refine .inr ⟨⟨has, taken⟩, fun first => ?_⟩
    obtain ⟨earlier, before, has'⟩ := taken
    exact first.2 earlier before has'
  · refine .inl ⟨⟨has, fun earlier before has' => taken ⟨earlier, before, has'⟩⟩, ?_⟩
    exact fun fares => taken fares.2

namespace Options

/-! ## Whole texts -/

/-- An index has the id that its element gives. -/
theorem hasIdAt_iff_givenId? {elements : List Json} {given : List ModuleRequest}
    (good : requests elements = .ok given) (index : Nat) (moduleId : String) :
    HasIdAt given index moduleId
      ↔ elements[index]?.bind givenId? = some moduleId ∧ moduleId ≠ "" := by
  have same : given[index]?.map ModuleRequest.moduleId = elements[index]?.map givenId? := by
    rw [← List.getElem?_map, ← List.getElem?_map, map_moduleId_of_requests good]
  have ids : given[index]?.bind ModuleRequest.moduleId = elements[index]?.bind givenId? := by
    have joined := congrArg (·.bind id) same
    simpa only [Option.bind_map, Function.id_comp] using joined
  rw [HasIdAt, ids]

/-- **Ids and variables never spoil options, and bad ids are reported where they stand.**

Two texts whose elements differ in ids and variables alone come to the same error, or to requests
that differ in ids and variables alone.  The indices at which a compilation reports that there is
no id are those of the elements that give none or an empty one, and an element that gives another
one yields a stylesheet or is reported as a repetition, at its own index. -/
theorem parse_indifferent_to_content :
    (∀ (text other : String) (value value' : Json),
      Json.parse text = .ok value → Json.parse other = .ok value' →
      List.Forall₂ SameSettings (elements value) (elements value') →
        (parse text).map (List.map ModuleRequest.settings)
          = (parse other).map (List.map ModuleRequest.settings)) ∧
    (∀ (text : String) (given : List ModuleRequest) (maxDepth : Nat), parse text = .ok given →
      ∃ value, Json.parse text = .ok value ∧
        (compile given maxDepth).diagnostics.filterMap Diagnostic.unnamedIndex?
          = (elements value).findIdxs isNameless ∧
        ∀ index element moduleId, (elements value)[index]? = some element →
          givenId? element = some moduleId → moduleId ≠ "" →
            Xor (∃ stylesheet ∈ (compile given maxDepth).stylesheets,
                stylesheet.moduleId = moduleId ∧ Yields given maxDepth index stylesheet)
              (.duplicateModuleId moduleId index ∈ (compile given maxDepth).diagnostics)) := by
  constructor
  · intro text other value value' holds holds' same
    rw [parse_of_value holds, parse_of_value holds', map_mapError, map_mapError,
      settings_requests same]
  · intro text given maxDepth parsed
    obtain ⟨value, holds, made⟩ := exists_value_of_parse parsed
    refine ⟨value, holds, ?_, ?_⟩
    · have same := congrArg (List.findIdxs id) (map_isNone_id_of_requests made)
      rw [List.findIdxs_map, List.findIdxs_map, Function.id_comp, Function.id_comp] at same
      rw [unnamedIndices_compile, same]
    · intro index element moduleId present named nonempty
      have has : HasIdAt given index moduleId :=
        (hasIdAt_iff_givenId? made index moduleId).mpr ⟨by rw [present, Option.bind_some, named],
          nonempty⟩
      have listed := listedInOrder_stylesheets given maxDepth
      have yields_iff : (∃ stylesheet ∈ (compile given maxDepth).stylesheets,
            stylesheet.moduleId = moduleId ∧ Yields given maxDepth index stylesheet) ↔
          ∃ text, Yields given maxDepth index ⟨moduleId, text⟩ := by
        constructor
        · rintro ⟨⟨_, text⟩, _, rfl, yields⟩
          exact ⟨text, yields⟩
        · rintro ⟨text, yields⟩
          exact ⟨_, (listed.mem_iff _).mpr ⟨index, yields⟩, rfl, yields⟩
      rw [yields_iff]
      exact xor_yields_duplicate has maxDepth

set_option maxRecDepth 20000 in
/-- A number is given for the id of the first of three elements, and the others have one id: the
first is reported as unnamed, the last as a repetition, and all else is as without the number. -/
theorem parse_indifferent_to_content_number :
    let indented : Binding String Json := ⟨"tabSize", .number (.integer 8)⟩
    let numbered : Binding String Json := ⟨"moduleId", .number (.integer 5)⟩
    let named : Json := .array [.string "b"]
    let text := "[\x7b\"tabSize\":8\x7d,[\"b\"],[\"b\"]]"
    let other := "[\x7b\"moduleId\":5,\"tabSize\":8\x7d,[\"b\"],[\"b\"]]"
    let given : List ModuleRequest :=
      [{ formatting :=
          { pretty := true, useTabs := false, tabSize := 8, tabSize_pos := by decide } },
        { moduleId := some "b" }, { moduleId := some "b" }]
    (Json.parse text = .ok (.array [.object ⟨[indented]⟩, named, named]) ∧
      Json.parse other = .ok (.array [.object ⟨[numbered, indented]⟩, named, named])) ∧
    (parse text).map (List.map ModuleRequest.settings)
      = (parse other).map (List.map ModuleRequest.settings) ∧
    parse other = .ok given ∧
    (compile given 64).diagnostics.filterMap Diagnostic.unnamedIndex? = [0] ∧
    (∃ stylesheet ∈ (compile given 64).stylesheets,
      stylesheet.moduleId = "b" ∧ Yields given 64 1 stylesheet) ∧
    .duplicateModuleId "b" 2 ∈ (compile given 64).diagnostics := by
  intro indented numbered named text other given
  have holds : Json.parse text = .ok (.array [.object ⟨[indented]⟩, named, named]) := by cbv
  have holds' : Json.parse other = .ok (.array [.object ⟨[numbered, indented]⟩, named, named]) := by
    cbv
  have parsed : parse other = .ok given := by
    rw [parse_of_array holds']
    rfl
  have same : List.Forall₂ SameSettings [.object ⟨[indented]⟩, named, named]
      [.object ⟨[numbered, indented]⟩, named, named] :=
    .cons (.add rfl [] [indented]) (.cons (.refl named) (.cons (.refl named) .nil))
  obtain ⟨alike, reported⟩ := parse_indifferent_to_content
  obtain ⟨value, read, indices, others⟩ := reported other given 64 parsed
  cases holds'.symm.trans read
  have duplicate : .duplicateModuleId "b" 2 ∈ (compile given 64).diagnostics := by decide +kernel
  have single : .duplicateModuleId "b" 1 ∉ (compile given 64).diagnostics := by decide +kernel
  have second := others 1 named "b" rfl rfl (by decide)
  exact ⟨⟨holds, holds'⟩, alike text other _ _ holds holds' same, parsed, indices,
    (second.resolve_right fun both => single both.1).1, duplicate⟩

end Options

end CustomProperties
