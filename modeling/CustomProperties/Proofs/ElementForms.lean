import CustomProperties.Proofs.SettingsByName

/-!
# The two forms of an element

An element is an object that gives settings by name, or an array that gives them by position.  The
values of an array can be given by name as well, in the same order (`keyed`), and an array gives the
same settings as this object (`given_array`).  All that is different is that an array may be too
long, which is noticed when its first values have been read (`request_array`).

The main statement, `element_forms_agree`, says this of texts in which one element is given in
either form.
-/

namespace CustomProperties.Options

set_option autoImplicit false

/-! ## Values with their names -/

/-- Values under the names of the settings that they are given for by their positions; values behind
the last setting are left out. -/
def keyed (values : List Json) : List (Binding String Json) :=
  (Setting.all.zip values).map fun entry => ⟨entry.1.key, entry.2⟩

/-- Only the first values have a name. -/
theorem keyed_take {values : List Json} (long : Setting.all.length ≤ values.length) :
    keyed (values.take Setting.all.length) = keyed values := by
  have cut : Setting.all.zip values
      = Setting.all.zip (values.take Setting.all.length) := by
    rw [List.zip_eq_zip_take_min, Nat.min_eq_left long, List.take_length]
  rw [keyed, keyed, cut]

/-- No name is given twice. -/
theorem nodup_names_keyed (values : List Json) : ((keyed values).map Binding.name).Nodup := by
  have keys : (Setting.all.map Setting.key).Nodup := by decide
  have names : (keyed values).map Binding.name
      = ((Setting.all.zip values).map Prod.fst).map Setting.key := by
    rw [keyed, List.map_map, List.map_map]
    rfl
  have front : (Setting.all.zip values).map Prod.fst
      = Setting.all.take (min Setting.all.length values.length) := by
    rw [List.zip_eq_zip_take_min, List.map_fst_zip (by simp)]
  rw [names, front]
  exact keys.sublist ((List.take_sublist _ _).map Setting.key)

/-- **An array gives the settings that the object with its values gives.** -/
theorem given_array (values : List Json) :
    given (.array values) = given (.object (.ofList (keyed values))) := by
  have gives : (Bindings.ofList (keyed values)).toList.filterMap settingOf?
      = Setting.all.zip values := by
    rw [Bindings.toList_ofList_of_nodup (nodup_names_keyed values), keyed, List.filterMap_map]
    refine (List.filterMap_congr fun entry _ => ?_).trans List.filterMap_some
    rw [Function.comp_apply, settingOf?, (ofKey?_eq_some_iff _ entry.1).mpr rfl]
    rfl
  exact congrArg Except.ok gives.symm

/-! ## Elements -/

/-- An element is the settings that it gives, unless it is too long. -/
theorem request_eq_bind (element : Json) :
    request element
      = (given element).bind fun settings =>
          (updateAll {} settings).bind fun made => (checkLength element).map fun _ => made := by
  simpa using map_request id element

/-- **The request of an array is that of the object with its values**, if it is not too long. -/
theorem request_array (values : List Json) :
    request (.array values)
      = (request (.object (.ofList (keyed values)))).bind fun made =>
          (checkLength (.array values)).map fun _ => made := by
  rw [request_eq_bind, request_eq_bind, given_array]
  cases given (.object (.ofList (keyed values))) with
  | error error => rfl
  | ok settings =>
    cases made : updateAll {} settings <;> simp [made, Except.bind, checkLength, Except.map]

/-- An array that is not too long makes the request of the object with its values. -/
theorem request_array_of_length_le {values : List Json}
    (short : values.length ≤ Setting.all.length) :
    request (.array values) = request (.object (.ofList (keyed values))) := by
  have fits : checkLength (.array values) = .ok () := if_neg (Nat.not_lt.mpr short)
  rw [request_array, fits]
  cases request (.object (.ofList (keyed values))) <;> rfl

/-- **An array that is too long** makes no request: its error is that of the object with its first
values, or else its length. -/
theorem request_array_of_lt_length {values : List Json}
    (long : Setting.all.length < values.length) :
    request (.array values)
      = (request (.object (.ofList (keyed (values.take Setting.all.length))))).bind fun _ =>
          .error (.invalidLength values.length) := by
  have exceeds : checkLength (.array values) = .error (.invalidLength values.length) := if_pos long
  rw [request_array, exceeds, keyed_take (Nat.le_of_lt long)]
  rfl

/-! ## Lists of elements -/

/-- The elements of a list are read one part after the other. -/
theorem requests_append (first second : List Json) :
    requests (first ++ second)
      = (requests first).bind fun made => (requests second).map (made ++ ·) := by
  induction first with
  | nil => cases read : requests second <;> simp [read, requests, Except.bind, Except.map]
  | cons element rest ih =>
    cases good : request element with
    | error error => rw [List.cons_append, requests_cons_error good, requests_cons_error good]; rfl
    | ok made =>
      rw [List.cons_append, requests_cons_ok good, requests_cons_ok good, ih]
      cases requests rest with
      | error error => rfl
      | ok others => cases requests second <;> rfl

/-- An element counts for nothing but its own request. -/
theorem requests_append_congr {element other : Json} (same : request element = request other)
    (before after : List Json) :
    requests (before ++ element :: after) = requests (before ++ other :: after) := by
  rw [requests_append, requests_append, requests, requests, same]

/-- An element that is bad in any case ends its list: with an error before it, with the error of
another element, or with its own. -/
theorem requests_append_of_bind_error {element other : Json} {error : ElementError}
    (bad : request element = (request other).bind fun _ => .error error)
    (before after : List Json) :
    requests (before ++ element :: after)
      = (requests (before ++ [other])).bind fun _ => .error error := by
  rw [requests_append, requests_append, requests, bad]
  cases requests before with
  | error error => rfl
  | ok made => cases read : request other <;> simp [read, requests, Except.bind, Except.map]

/-- An error that comes in any case is wrapped like the others. -/
theorem mapError_bind_error {ε ε' α β : Type} (wrap : ε → ε') (read : Except ε α) (error : ε) :
    (read.bind fun _ => (.error error : Except ε β)).mapError wrap
      = (read.mapError wrap).bind fun _ => .error (wrap error) := by
  cases read <;> rfl

/-! ## Texts -/

/-- **The two forms of an element agree.**

A text with an element that is an array of no more values than there are settings comes to what the
text comes to in which this element is the object with the same values, in the order of the
settings: to the same requests or to the same error.  A text with an element that is a longer array
comes to an error: to that of the text that ends with the object with the first values of the array,
if there is one, or else to the length of the array. -/
theorem element_forms_agree :
    (∀ (text other : String) (before values after : List Json),
      values.length ≤ 8 →
      Json.parse text = .ok (.array (before ++ .array values :: after)) →
      Json.parse other = .ok (.array (before ++ .object (.ofList (keyed values)) :: after)) →
        parse text = parse other) ∧
    (∀ (text other : String) (before values after : List Json),
      8 < values.length →
      Json.parse text = .ok (.array (before ++ .array values :: after)) →
      Json.parse other
        = .ok (.array (before ++ [.object (.ofList (keyed (values.take 8)))])) →
        parse text
          = (parse other).bind fun _ => .error (.element (.invalidLength values.length))) := by
  constructor
  · intro text other before values after short holds holds'
    rw [parse_of_array holds, parse_of_array holds',
      requests_append_congr (request_array_of_length_le short)]
  · intro text other before values after long holds holds'
    rw [parse_of_array holds, parse_of_array holds',
      requests_append_of_bind_error (request_array_of_lt_length long), mapError_bind_error]
    rfl

set_option maxRecDepth 20000 in
/-- An array of two values comes to the same request as the object with these values; an array of
nine values, of which the first ones are good, is too long. -/
theorem element_forms_agree_nine :
    let two : List Json := [.string "a", .null]
    let nine : List Json :=
      [.null, .null, .string "", .string "", .bool true, .bool true, .number (.integer 1), .null,
        .null]
    let pair := "[[\"a\",null]]"
    let named := "[\x7b\"moduleId\":\"a\",\"variables\":null\x7d]"
    let long := "[[null,null,\"\",\"\",true,true,1,null,null]]"
    let cut := "[\x7b\"moduleId\":null,\"variables\":null,\"separator\":\"\",\"selector\":\"\","
      ++ "\"pretty\":true,\"useTabs\":true,\"tabSize\":1,\"defaultKey\":null\x7d]"
    (two.length ≤ 8 ∧ Json.parse pair = .ok (.array [.array two]) ∧
      Json.parse named = .ok (.array [.object (.ofList (keyed two))])) ∧
    (8 < nine.length ∧ Json.parse long = .ok (.array [.array nine]) ∧
      Json.parse cut = .ok (.array [.object (.ofList (keyed (nine.take 8)))])) ∧
    parse pair = .ok [{ moduleId := some "a" }] ∧
    parse long = .error (.element (.invalidLength 9)) := by
  intro two nine pair named long cut
  obtain ⟨agree, exceed⟩ := element_forms_agree
  have holdsPair : Json.parse pair = .ok (.array [.array two]) := by
    simp only [pair, two]
    cbv
  have holdsNamed : Json.parse named = .ok (.array [.object (.ofList (keyed two))]) := by
    simp only [named, two]
    cbv
  have holdsLong : Json.parse long = .ok (.array [.array nine]) := by
    simp only [long, nine]
    cbv
  have holdsCut : Json.parse cut
      = .ok (.array [.object (.ofList (keyed (nine.take 8)))]) := by
    simp only [cut, nine]
    cbv
  have accepted : parse pair = .ok [{ moduleId := some "a" }] := by
    rw [agree pair named [] two [] (by decide) holdsPair holdsNamed, parse_of_array holdsNamed]
    rfl
  have refused : parse long = .error (.element (.invalidLength 9)) := by
    rw [exceed long cut [] nine [] (by decide) holdsLong holdsCut, parse_of_array holdsCut]
    rfl
  exact ⟨⟨by decide, holdsPair, holdsNamed⟩, ⟨by decide, holdsLong, holdsCut⟩, accepted, refused⟩

end CustomProperties.Options
