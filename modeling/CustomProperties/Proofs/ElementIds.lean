import CustomProperties.Options
import CustomProperties.Proofs.Elementwise
import CustomProperties.Proofs.Overlay
import CustomProperties.Proofs.SettingFields

/-!
# Ids of elements

The id of the request that an element makes can be read off the element: it is the string
that the last member `moduleId` has, or the first item of an array.  The other settings do
not touch it.  The main statement is `moduleId_of_request`; for a whole list of elements it
says that the requests have the ids that the elements give (`map_moduleId_of_requests`), so
that the elements without id (`isNameless`) are the requests without one.
-/

namespace CustomProperties.Options

set_option autoImplicit false

/-- The id that an element gives, if that is a string: the value of its last member of that
name, or the first item of an array. -/
def givenId? : Json → Option String
  | .object members =>
    (Bindings.last? members.toList Setting.moduleId.key).bind fun member => idOf member.value
  | .array items => items.head?.bind idOf
  | _ => none

/-! ## Settings one after another -/

/-- A setting has the name that it was found by. -/
theorem key_of_ofKey?_eq_some {key : String} {setting : Setting}
    (found : Setting.ofKey? key = some setting) : setting.key = key := by
  have named := List.find?_some found
  exact of_decide_eq_true named

/-- Settings other than the id leave it alone. -/
theorem Setting.moduleId_update {setting : Setting} {value : Json}
    {update : ModuleRequest → ModuleRequest} (other : setting ≠ .moduleId)
    (good : setting.update value = .ok update) (request : ModuleRequest) :
    (update request).moduleId = request.moduleId :=
  field_update_of_ne good other.symm request

theorem updateAll_append (request : ModuleRequest) (first second : List (Setting × Json)) :
    updateAll request (first ++ second)
      = (updateAll request first).bind (updateAll · second) := by
  induction first generalizing request with
  | nil => rfl
  | cons entry rest ih =>
    obtain ⟨setting, value⟩ := entry
    rw [List.cons_append, updateAll, updateAll]
    cases setting.update value with
    | error error => rfl
    | ok update => exact ih (update request)

/-- Settings among which there is no id leave it alone. -/
theorem moduleId_updateAll {settings : List (Setting × Json)} {request made : ModuleRequest}
    (others : ∀ entry ∈ settings, entry.1 ≠ .moduleId)
    (good : updateAll request settings = .ok made) : made.moduleId = request.moduleId := by
  induction settings generalizing request with
  | nil =>
    cases good
    rfl
  | cons entry rest ih =>
    obtain ⟨setting, value⟩ := entry
    obtain ⟨other, others⟩ := List.forall_mem_cons.mp others
    rw [updateAll] at good
    cases updated : setting.update value with
    | error error =>
      rw [updated] at good
      cases good
    | ok update =>
      rw [updated] at good
      exact (ih others good).trans (Setting.moduleId_update other updated request)

/-! ## Elements -/

/-- What a member of an object gives. -/
def settingOf? (member : Binding String Json) : Option (Setting × Json) :=
  (Setting.ofKey? member.name).map fun setting => (setting, member.value)

/-- **Among the members of an object, the last id counts.** -/
theorem moduleId_updateAll_members {members : List (Binding String Json)} {made : ModuleRequest}
    (good : updateAll {} (members.filterMap settingOf?) = .ok made) :
    made.moduleId
      = (Bindings.last? members Setting.moduleId.key).bind fun member => idOf member.value := by
  induction members using List.reverseRecOn generalizing made with
  | nil =>
    cases good
    rfl
  | append_singleton members member ih =>
    rw [List.filterMap_append, updateAll_append] at good
    cases before : updateAll {} (members.filterMap settingOf?) with
    | error error =>
      rw [before] at good
      cases good
    | ok request =>
      have known := ih before
      rw [before, List.filterMap_cons, List.filterMap_nil, settingOf?] at good
      rw [Bindings.last?_concat]
      by_cases same : member.name = Setting.moduleId.key
      · have found : Setting.ofKey? member.name = some .moduleId := by
          rw [same]
          decide
        rw [found] at good
        cases good
        rw [if_pos same]
        rfl
      · rw [if_neg same, ← known]
        refine moduleId_updateAll ?_ good
        intro entry given
        cases found : Setting.ofKey? member.name with
        | none =>
          rw [found] at given
          cases given
        | some setting =>
          rw [found] at given
          obtain rfl := List.mem_singleton.mp given
          rintro rfl
          exact same (key_of_ofKey?_eq_some found).symm

/-- A request is made of the settings that its element gives. -/
theorem exists_given_of_request {element : Json} {made : ModuleRequest}
    (good : request element = .ok made) :
    ∃ settings, given element = .ok settings ∧ updateAll {} settings = .ok made := by
  rw [request] at good
  cases read : given element with
  | error error =>
    rw [read] at good
    cases good
  | ok settings =>
    refine ⟨settings, rfl, ?_⟩
    cases updated : updateAll {} settings with
    | error error =>
      simp only [read, updated, bind, Except.bind] at good
      cases good
    | ok built =>
      simp only [read, updated, bind, Except.bind] at good
      split at good
      · cases good
      · exact good

/-- **The id of a request is the one that its element gives.** -/
theorem moduleId_of_request {element : Json} {made : ModuleRequest}
    (good : request element = .ok made) : made.moduleId = givenId? element := by
  obtain ⟨settings, read, updated⟩ := exists_given_of_request good
  cases element with
  | object members =>
    cases read
    exact moduleId_updateAll_members updated
  | array items =>
    cases read
    cases items with
    | nil =>
      cases updated
      rfl
    | cons first rest =>
      -- what follows the first item is given for other settings
      have others : ∀ entry ∈ (Setting.all.drop 1).zip rest, entry.1 ≠ .moduleId := by
        intro entry member same
        have inside := (List.of_mem_zip member).1
        rw [same] at inside
        exact absurd inside (by decide)
      exact moduleId_updateAll others updated
  | null | bool value | number value | string value => cases read

/-! ## Lists of elements -/

/-- Whether an element gives no id, or an empty one. -/
def isNameless (element : Json) : Bool := (givenId? element).all (· = "")

/-- **The requests of elements have the ids that the elements give.** -/
theorem map_moduleId_of_requests {elements : List Json} {given : List ModuleRequest}
    (good : requests elements = .ok given) :
    given.map ModuleRequest.moduleId = elements.map givenId? := by
  have pairs := (requests_eq_ok_iff elements given).mp good
  clear good
  induction pairs with
  | nil => rfl
  | cons made _ ih => rw [List.map_cons, List.map_cons, ih, moduleId_of_request made]

/-- A request has no id exactly if its element has none. -/
theorem map_isNone_id_of_requests {elements : List Json} {given : List ModuleRequest}
    (good : requests elements = .ok given) :
    given.map (fun request => request.id.isNone) = elements.map isNameless := by
  have unnamed : (fun request : ModuleRequest => request.id.isNone)
      = (fun moduleId? : Option String => moduleId?.all (· = "")) ∘ ModuleRequest.moduleId := by
    funext request
    simp [ModuleRequest.id, Option.isNone_filter]
  rw [unnamed, ← List.map_map, map_moduleId_of_requests good, List.map_map]
  rfl

end CustomProperties.Options
