import CustomProperties.Options
import Mathlib

/-!
# Options element by element

The elements of an options text do not know of each other.  A list of elements gives
requests exactly if each of them gives one, and these are the requests
(`requests_eq_ok_iff`); the error of the first bad one is the error of the list,
whatever comes behind it (`requests_append_error`).  Lists of elements whose requests look the
same one by one look the same together, whatever it is that one looks at
(`map_requests_congr`).  So a text that holds an array comes
to what the texts come to that hold one of its items each, and a value that is no array
comes to the same whether it stands alone or in brackets.  The main statement,
`parse_elementwise`, says this of whole texts.  How a text is read as a value is left to
`Json.parse`.
-/

namespace CustomProperties.Options

set_option autoImplicit false

/-! ## Results and errors -/

/-- Errors and results are changed apart. -/
theorem map_mapError {ε ε' α β : Type} (read : Except ε α) (relabel : ε → ε') (change : α → β) :
    (read.mapError relabel).map change = (read.map change).mapError relabel := by
  cases read <;> rfl

/-- What a view determines is the same for results that look the same. -/
theorem map_eq_of_map_eq {ε α β γ : Type} {view : α → β} {make : α → γ}
    (determined : ∀ value other, view value = view other → make value = make other)
    {read other : Except ε α} (same : read.map view = other.map view) :
    read.map make = other.map make := by
  cases read with
  | error error =>
    cases other with
    | error error' =>
      cases same
      rfl
    | ok value => cases same
  | ok value =>
    cases other with
    | error error => cases same
    | ok value' => exact congrArg Except.ok (determined value value' (Except.ok.inj same))

/-! ## Lists of elements -/

/-- The requests of a list start with the request of its first element. -/
theorem requests_cons_ok {element : Json} {first : ModuleRequest}
    (good : request element = .ok first) (rest : List Json) :
    requests (element :: rest) = (requests rest).map (first :: ·) := by
  rw [requests, good]
  cases requests rest <;> rfl

/-- A bad first element is the error of its list. -/
theorem requests_cons_error {element : Json} {error : ElementError}
    (bad : request element = .error error) (rest : List Json) :
    requests (element :: rest) = .error error := by
  rw [requests, bad]

/-- **Elements give requests exactly if each of them gives its own.** -/
theorem requests_eq_ok_iff (elements : List Json) (given : List ModuleRequest) :
    requests elements = .ok given
      ↔ List.Forall₂ (fun element made => request element = .ok made) elements given := by
  induction elements generalizing given with
  | nil => cases given <;> simp [requests]
  | cons element rest ih =>
    cases good : request element with
    | error error =>
      rw [requests_cons_error good]
      constructor
      · intro impossible
        cases impossible
      · rintro (_ | ⟨made, _⟩)
        cases good.symm.trans made
    | ok first =>
      rw [requests_cons_ok good]
      constructor
      · intro all
        cases made : requests rest with
        | error error =>
          rw [made] at all
          cases all
        | ok others =>
          rw [made] at all
          cases all
          exact .cons good ((ih others).mp made)
      · rintro (_ | ⟨made, others⟩)
        obtain rfl := Except.ok.inj (good.symm.trans made)
        rw [(ih _).mpr others]
        rfl

/-- **The first bad element decides**, whatever comes behind it. -/
theorem requests_append_error {before : List Json} {element : Json} {error : ElementError}
    (good : ∀ earlier ∈ before, ∃ made, request earlier = .ok made)
    (bad : request element = .error error) (after : List Json) :
    requests (before ++ element :: after) = .error error := by
  induction before with
  | nil => exact requests_cons_error bad after
  | cons earlier before ih =>
    obtain ⟨made, given⟩ := good earlier List.mem_cons_self
    rw [List.cons_append, requests_cons_ok given,
      ih fun other member => good other (List.mem_cons_of_mem _ member)]
    rfl

/-- Elements of which none is bad give requests. -/
theorem exists_requests_eq_ok {elements : List Json}
    (good : ∀ element ∈ elements, ∃ made, request element = .ok made) :
    ∃ given, requests elements = .ok given := by
  induction elements with
  | nil => exact ⟨[], rfl⟩
  | cons element rest ih =>
    obtain ⟨first, given⟩ := good element List.mem_cons_self
    obtain ⟨others, made⟩ := ih fun other member => good other (List.mem_cons_of_mem _ member)
    exact ⟨first :: others, by rw [requests_cons_ok given, made]; rfl⟩

/-- As far as a view of requests goes, an element is the settings that it gives, unless it is too
long. -/
theorem map_request {α : Type} (view : ModuleRequest → α) (element : Json) :
    (request element).map view
      = (given element).bind fun settings =>
          ((updateAll {} settings).map view).bind fun made =>
            (checkLength element).map fun _ => made := by
  rw [request]
  cases given element with
  | error error => rfl
  | ok settings =>
    cases made : updateAll {} settings with
    | error error => simp [made, bind, Except.bind, Except.map]
    | ok made =>
      cases checkLength element <;> simp [made, bind, Except.bind, Except.map, pure, Except.pure]

/-- The first element decides and then the others. -/
theorem map_requests_cons {α : Type} (view : ModuleRequest → α) (element : Json)
    (rest : List Json) :
    (requests (element :: rest)).map (List.map view)
      = ((request element).map view).bind fun first =>
          ((requests rest).map (List.map view)).map (first :: ·) := by
  rw [requests]
  cases request element with
  | error error => rfl
  | ok first => cases requests rest <;> rfl

/-- Elements that look the same one by one look the same together. -/
theorem map_requests_congr {α : Type} {view : ModuleRequest → α} {elements others : List Json}
    (same : List.Forall₂ (fun element other =>
      (request element).map view = (request other).map view) elements others) :
    (requests elements).map (List.map view) = (requests others).map (List.map view) := by
  induction same with
  | nil => rfl
  | cons first _ ih => rw [map_requests_cons, map_requests_cons, first, ih]

/-! ## Whole texts -/

/-- A text comes to what the elements of its value come to. -/
theorem parse_of_value {text : String} {value : Json} (holds : Json.parse text = .ok value) :
    parse text = (requests (elements value)).mapError .element := by
  rw [parse, holds]
  rfl

/-- A text that gives requests holds a value whose elements make them. -/
theorem exists_value_of_parse {text : String} {given : List ModuleRequest}
    (parsed : parse text = .ok given) :
    ∃ value, Json.parse text = .ok value ∧ requests (elements value) = .ok given := by
  rw [parse] at parsed
  cases holds : Json.parse text with
  | error error =>
    rw [holds] at parsed
    cases parsed
  | ok value =>
    rw [holds] at parsed
    refine ⟨value, rfl, ?_⟩
    cases made : requests (elements value) with
    | error error =>
      simp only [ofJson, made] at parsed
      cases parsed
    | ok requests =>
      simp only [ofJson, made] at parsed
      exact congrArg Except.ok (Except.ok.inj parsed)

/-- A text that holds an array comes to what its items come to. -/
theorem parse_of_array {text : String} {items : List Json}
    (holds : Json.parse text = .ok (.array items)) :
    parse text = (requests items).mapError .element :=
  parse_of_value holds

/-- A text that holds one item comes to what this item comes to. -/
theorem parse_of_singleton {text : String} {item : Json}
    (holds : Json.parse text = .ok (.array [item])) :
    parse text = ((request item).map ([·])).mapError .element := by
  rw [parse_of_array holds, requests]
  cases request item <;> rfl

/-- A text that holds one item gives requests exactly if the item gives one. -/
theorem parse_singleton_eq_ok_iff {text : String} {item : Json}
    (holds : Json.parse text = .ok (.array [item])) (given : List ModuleRequest) :
    parse text = .ok given ↔ ∃ made, request item = .ok made ∧ given = [made] := by
  rw [parse_of_singleton holds]
  cases request item with
  | error error => simp [Except.map, Except.mapError]
  | ok made => simp [Except.map, Except.mapError, eq_comm]

/-- A text that holds one item gives an error exactly if the item gives it. -/
theorem parse_singleton_eq_error_iff {text : String} {item : Json}
    (holds : Json.parse text = .ok (.array [item])) (error : OptionsError) :
    parse text = .error error ↔ ∃ bad, request item = .error bad ∧ error = .element bad := by
  rw [parse_of_singleton holds]
  cases request item with
  | error bad => simp [Except.map, Except.mapError, eq_comm]
  | ok made => simp [Except.map, Except.mapError]

/-- Texts that hold the items of a list one by one, each in brackets of its own. -/
def HoldAlone (items : List Json) (alone : Nat → String) : Prop :=
  ∀ index item, items[index]? = some item → Json.parse (alone index) = .ok (.array [item])

/-- An item whose text is accepted gives a request. -/
theorem HoldAlone.exists_request {items : List Json} {alone : Nat → String}
    (each : HoldAlone items alone) {index : Nat} (within : index < items.length)
    (accepted : ∃ given, parse (alone index) = .ok given) :
    ∃ made, request items[index] = .ok made := by
  obtain ⟨given, parsed⟩ := accepted
  have holds := each index _ (List.getElem?_eq_getElem within)
  obtain ⟨made, made_eq, _⟩ := (parse_singleton_eq_ok_iff holds given).mp parsed
  exact ⟨made, made_eq⟩

/-- **Options are read element by element.**  A text that holds an array gives one request for
each item, the one that the item gives alone, unless one of them is bad; then it gives the
error that the first bad one gives alone.  A value that is no array comes to the same with
brackets around it and without. -/
theorem parse_elementwise :
    (∀ (text : String) (items : List Json) (alone : Nat → String),
      Json.parse text = .ok (.array items) → HoldAlone items alone →
        ((∀ index < items.length, ∃ given, parse (alone index) = .ok given) →
          ∃ given, parse text = .ok given ∧ given.length = items.length ∧
            ∀ index made, given[index]? = some made → parse (alone index) = .ok [made]) ∧
        (∀ index < items.length, ∀ error, parse (alone index) = .error error →
          (∀ earlier < index, ∃ given, parse (alone earlier) = .ok given) →
            parse text = .error error)) ∧
    (∀ (text bracketed : String) (value : Json), (∀ items, value ≠ .array items) →
      Json.parse text = .ok value → Json.parse bracketed = .ok (.array [value]) →
        parse text = parse bracketed) := by
  refine ⟨fun text items alone holds each => ⟨fun accepted => ?_, ?_⟩, ?_⟩
  · have good : ∀ item ∈ items, ∃ made, request item = .ok made := by
      intro item member
      obtain ⟨index, within, rfl⟩ := List.getElem_of_mem member
      exact each.exists_request within (accepted index within)
    obtain ⟨given, made⟩ := exists_requests_eq_ok good
    have pairs := (requests_eq_ok_iff items given).mp made
    refine ⟨given, by rw [parse_of_array holds, made]; rfl, pairs.length_eq.symm, ?_⟩
    intro index made present
    obtain ⟨within, rfl⟩ := List.getElem?_eq_some_iff.mp present
    have within' : index < items.length := pairs.length_eq ▸ within
    have holds := each index _ (List.getElem?_eq_getElem within')
    exact (parse_singleton_eq_ok_iff holds _).mpr ⟨_, pairs.get within' within, rfl⟩
  · intro index within error failed accepted
    have alone_holds := each index _ (List.getElem?_eq_getElem within)
    obtain ⟨bad, bad_eq, rfl⟩ := (parse_singleton_eq_error_iff alone_holds error).mp failed
    have good : ∀ earlier ∈ items.take index, ∃ made, request earlier = .ok made := by
      intro item member
      obtain ⟨earlier, before, rfl⟩ := List.mem_take_iff_getElem.mp member
      obtain ⟨before, within⟩ := Nat.lt_min.mp before
      exact each.exists_request within (accepted earlier before)
    have first := requests_append_error good bad_eq (items.drop (index + 1))
    rw [← List.drop_eq_getElem_cons within, List.take_append_drop] at first
    rw [parse_of_array holds, first]
    rfl
  · intro text bracketed value noArray holds holds'
    have alone : elements value = [value] := by
      cases value with
      | array items => exact absurd rfl (noArray items)
      | _ => rfl
    rw [parse, holds, parse_of_array holds']
    simp only [ofJson, alone]

set_option maxRecDepth 20000 in
/-- Of two bad items the first one decides, and a bad value is as bad without brackets. -/
theorem parse_elementwise_two_bad :
    let named : Json := .object ⟨[⟨"moduleId", .string "a"⟩]⟩
    let unindented : Json := .object ⟨[⟨"tabSize", .number (.integer 0)⟩]⟩
    let items : List Json := [named, unindented, .bool true]
    let text := "[\x7b\"moduleId\":\"a\"\x7d, \x7b\"tabSize\":0\x7d, true]"
    let alone : Nat → String := fun index =>
      ["[\x7b\"moduleId\":\"a\"\x7d]", "[\x7b\"tabSize\":0\x7d]", "[true]"].getD index ""
    let error : OptionsError := .element (.invalidValue 0)
    (Json.parse text = .ok (.array items) ∧ HoldAlone items alone) ∧
      ((∃ given, parse (alone 0) = .ok given) ∧ parse (alone 1) = .error error) ∧
      parse text = .error error ∧ parse "true" = parse "[true]" := by
  intro named unindented items text alone error
  have holds : Json.parse text = .ok (.array items) := by cbv
  have first : Json.parse (alone 0) = .ok (.array [named]) := by cbv
  have second : Json.parse (alone 1) = .ok (.array [unindented]) := by cbv
  have third : Json.parse (alone 2) = .ok (.array [.bool true]) := by cbv
  have unbracketed : Json.parse "true" = .ok (.bool true) := by cbv
  have each : HoldAlone items alone := by
    intro index item present
    rcases index with _ | _ | _ | index <;> cases present
    · exact first
    · exact second
    · exact third
  have accepted : ∃ given, parse (alone 0) = .ok given :=
    ⟨_, (parse_singleton_eq_ok_iff first _).mpr ⟨_, rfl, rfl⟩⟩
  have failed : parse (alone 1) = .error error :=
    (parse_singleton_eq_error_iff second _).mpr ⟨_, rfl, rfl⟩
  obtain ⟨ofArrays, ofValues⟩ := parse_elementwise
  have bare := ofValues _ _ _ (fun _ => Json.noConfusion) unbracketed third
  refine ⟨⟨holds, each⟩, ⟨accepted, failed⟩, ?_, bare⟩
  refine (ofArrays text items alone holds each).2 1 (by decide) error failed ?_
  intro earlier before
  obtain rfl : earlier = 0 := Nat.lt_one_iff.mp before
  exact accepted

end CustomProperties.Options
