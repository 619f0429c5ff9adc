import CustomProperties.Proofs.IntegerLiterals
import CustomProperties.Proofs.LenientSettings
import CustomProperties.Proofs.MergeLaws
import CustomProperties.Proofs.SettingFields

/-!
# Settings by name

An object gives the settings of a request by name.  What it gives for a setting is the value that
the last of its members with that name has (`valueOf?`); a member with a foreign name gives nothing.
The request of an object says what the object gives, and the default where it gives nothing
(`request_ofList_eq_ok_iff`).  So the order of the members, foreign members and values that later
ones replace do not count (`SameByName.toOption_request`).

The main statement, `objects_are_read_by_name`, says this, which values are accepted, and how the
size of an indent is written.
-/

namespace CustomProperties.Options

set_option autoImplicit false

/-! ## Last members -/

section

variable {ν α : Type} [DecidableEq ν]

/-- A member that is not the last one of its name does not count. -/
theorem last?_insert {member : Binding ν α} {after : List (Binding ν α)} {name : ν}
    (later : member.name = name → name ∈ after.map Binding.name) (before : List (Binding ν α)) :
    Bindings.last? (before ++ member :: after) name = Bindings.last? (before ++ after) name := by
  have tail : Bindings.last? (member :: after) name = Bindings.last? after name := by
    rw [← List.singleton_append, Bindings.last?_append]
    by_cases same : member.name = name
    · have found := (Bindings.mem_names_iff_isSome_last? after name).mp (later same)
      exact Option.or_of_isSome found
    · have none : Bindings.last? [member] name = none := by simp [Bindings.last?, same]
      rw [none, Option.or_none]
  rw [Bindings.last?_append, Bindings.last?_append, tail]

/-- Where names are different, their order does not count. -/
theorem last?_perm {members others : List (Binding ν α)}
    (distinct : (members.map Binding.name).Nodup) (perm : members.Perm others) (name : ν) :
    Bindings.last? members name = Bindings.last? others name := by
  have selected := perm.filter fun member => member.name = name
  rw [Bindings.last?, Bindings.last?]
  cases found : members.filter fun member => member.name = name with
  | nil =>
    rw [found] at selected
    rw [List.nil_perm.mp selected]
  | cons member rest =>
    obtain ⟨present, named⟩ := List.mem_filter.mp (found ▸ List.mem_cons_self)
    have single := Bindings.filter_name_eq_singleton distinct present
    rw [of_decide_eq_true named, found] at single
    rw [found, single] at selected
    rw [single, List.singleton_perm.mp selected]

end

/-! ## Members of an object -/

/-- What the members of an object give for a setting: the value of the last one with its name. -/
def valueOf? (members : List (Binding String Json)) (setting : Setting) : Option Json :=
  (Bindings.last? members setting.key).map Binding.value

/-- A name finds the setting that bears it. -/
theorem ofKey?_eq_some_iff (key : String) (setting : Setting) :
    Setting.ofKey? key = some setting ↔ setting.key = key := by
  constructor
  · exact key_of_ofKey?_eq_some
  · rintro rfl
    cases setting <;> decide

/-- **The settings of an object are given by the last member of each name.** -/
theorem mem_settings_iff (members : List (Binding String Json)) (setting : Setting)
    (value : Json) :
    (setting, value) ∈ (Bindings.ofList members).toList.filterMap settingOf?
      ↔ valueOf? members setting = some value := by
  have merged := Bindings.isOverlay_ofList members
  rw [List.mem_filterMap, valueOf?, Option.map_eq_some_iff]
  constructor
  · rintro ⟨member, present, gives⟩
    obtain ⟨other, found, same⟩ := Option.map_eq_some_iff.mp gives
    cases same
    rw [(ofKey?_eq_some_iff member.name setting).mp found]
    exact ⟨member, (merged.mem_iff member).mp present, rfl⟩
  · rintro ⟨member, last, rfl⟩
    have named := Bindings.name_eq_of_last?_eq_some last
    have found := (ofKey?_eq_some_iff member.name setting).mpr named.symm
    rw [← named] at last
    exact ⟨member, (merged.mem_iff member).mpr last,
      Option.map_eq_some_iff.mpr ⟨setting, found, rfl⟩⟩

/-- An object gives each setting once. -/
theorem nodup_settings (members : List (Binding String Json)) :
    (((Bindings.ofList members).toList.filterMap settingOf?).map Prod.fst).Nodup := by
  have distinct := (Bindings.isOverlay_ofList members).nodup_names
  rw [List.Nodup, List.pairwise_map] at distinct ⊢
  rw [List.pairwise_filterMap]
  refine distinct.imp ?_
  intro member other differ entry gives entry' gives' same
  obtain ⟨setting, found, rfl⟩ := Option.map_eq_some_iff.mp gives
  obtain ⟨setting', found', rfl⟩ := Option.map_eq_some_iff.mp gives'
  cases same
  rw [ofKey?_eq_some_iff] at found found'
  exact differ (found.symm.trans found')

/-- **The request of an object** says what the object gives for a setting, and the default if the
object gives nothing for it. -/
theorem request_ofList_eq_ok_iff (members : List (Binding String Json)) (made : ModuleRequest) :
    request (.object (.ofList members)) = .ok made
      ↔ ∀ setting : Setting,
          (∀ value, valueOf? members setting = some value →
            setting.Reads value (setting.field made)) ∧
          (valueOf? members setting = none → setting.field made = setting.field {}) := by
  have mentioned (setting : Setting) :
      setting ∈ ((Bindings.ofList members).toList.filterMap settingOf?).map Prod.fst
        ↔ valueOf? members setting ≠ none := by
    rw [Option.ne_none_iff_exists', List.mem_map]
    constructor
    · rintro ⟨⟨_, value⟩, given, rfl⟩
      exact ⟨value, (mem_settings_iff members _ value).mp given⟩
    · rintro ⟨value, gives⟩
      exact ⟨(setting, value), (mem_settings_iff members setting value).mpr gives, rfl⟩
  rw [request_object, updateAll_eq_ok_iff (nodup_settings members)]
  constructor
  · intro follows setting
    constructor
    · intro value gives
      exact follows.given _ ((mem_settings_iff members setting value).mpr gives)
    · intro silent
      exact follows.otherwise setting fun member => (mentioned setting).mp member silent
  · intro told
    constructor
    · rintro ⟨setting, value⟩ given
      exact (told setting).1 value ((mem_settings_iff members setting value).mp given)
    · intro setting absent
      exact (told setting).2 (not_not.mp fun gives => absent ((mentioned setting).mpr gives))

/-- **An object is accepted exactly if no setting has a bad value.** -/
theorem exists_request_ofList_iff (members : List (Binding String Json)) :
    (∃ made, request (.object (.ofList members)) = .ok made)
      ↔ ∀ (setting : Setting) (value : Json), valueOf? members setting = some value →
          setting.Accepts value := by
  constructor
  · rintro ⟨made, good⟩ setting value gives
    exact ⟨_, ((request_ofList_eq_ok_iff members made).mp good setting).1 value gives⟩
  · intro accepted
    rw [request_object]
    refine exists_updateAll_eq_ok ?_ {}
    rintro ⟨setting, value⟩ given
    exact accepted setting value ((mem_settings_iff members setting value).mp given)

/-! ## Objects that say the same -/

/-- Lists of members that differ in what does not count: in the order of members with distinct
names, in members with foreign names, and in members that are replaced by later ones. -/
inductive SameByName : List (Binding String Json) → List (Binding String Json) → Prop where
  | reordered {members others : List (Binding String Json)}
      (distinct : (members.map Binding.name).Nodup) (perm : members.Perm others) :
      SameByName members others
  | foreign {member : Binding String Json}
      (unknown : ∀ setting : Setting, member.name ≠ setting.key)
      (before after : List (Binding String Json)) :
      SameByName (before ++ after) (before ++ member :: after)
  | replaced {member : Binding String Json} {after : List (Binding String Json)}
      (later : member.name ∈ after.map Binding.name) (before : List (Binding String Json)) :
      SameByName (before ++ after) (before ++ member :: after)
  | symm {members others : List (Binding String Json)} :
      SameByName members others → SameByName others members
  | trans {first second third : List (Binding String Json)} :
      SameByName first second → SameByName second third → SameByName first third

/-- What does not count changes nothing that an object gives for a setting. -/
theorem SameByName.valueOf?_eq {members others : List (Binding String Json)}
    (same : SameByName members others) (setting : Setting) :
    valueOf? members setting = valueOf? others setting := by
  induction same with
  | reordered distinct perm => rw [valueOf?, valueOf?, last?_perm distinct perm]
  | @foreign member unknown before after =>
    rw [valueOf?, valueOf?, last?_insert fun named => absurd named (unknown setting)]
  | @replaced member after later before =>
    rw [valueOf?, valueOf?, last?_insert fun named => named ▸ later]
  | symm _ ih => exact ih.symm
  | trans _ _ first second => exact first.trans second

/-- Results are the same, errors apart, if they are the same when there is no error. -/
theorem toOption_eq_of_ok_iff {ε α : Type} {read other : Except ε α}
    (same : ∀ made, read = .ok made ↔ other = .ok made) : read.toOption = other.toOption := by
  cases read with
  | ok made =>
    rw [(same made).mp rfl]
  | error error =>
    cases other with
    | ok made => cases (same made).mpr rfl
    | error error' => rfl

/-- **Objects that differ in what does not count** make the same request, or none. -/
theorem SameByName.toOption_request {members others : List (Binding String Json)}
    (same : SameByName members others) :
    (request (.object (.ofList members))).toOption
      = (request (.object (.ofList others))).toOption := by
  refine toOption_eq_of_ok_iff fun made => ?_
  simp only [request_ofList_eq_ok_iff, same.valueOf?_eq]

/-- Elements that are equal, or objects that differ in what does not count. -/
inductive ReadAlike : Json → Json → Prop where
  | refl (element : Json) : ReadAlike element element
  | object {members others : List (Binding String Json)} (same : SameByName members others) :
      ReadAlike (.object (.ofList members)) (.object (.ofList others))

theorem ReadAlike.toOption_request {element other : Json} (alike : ReadAlike element other) :
    (request element).toOption = (request other).toOption := by
  cases alike with
  | refl element => rfl
  | object same => exact same.toOption_request

/-- Errors apart, a list of elements makes the requests that its elements make. -/
theorem toOption_requests_cons (element : Json) (rest : List Json) :
    (requests (element :: rest)).toOption
      = (request element).toOption.bind fun first =>
          (requests rest).toOption.map (first :: ·) := by
  cases good : request element with
  | error error =>
    rw [requests_cons_error good]
    rfl
  | ok first =>
    rw [requests_cons_ok good]
    cases requests rest <;> rfl

/-- **Lists of such elements** make the same requests, or none. -/
theorem toOption_requests_congr {elements others : List Json}
    (alike : List.Forall₂ ReadAlike elements others) :
    (requests elements).toOption = (requests others).toOption := by
  induction alike with
  | nil => rfl
  | cons first _ ih =>
    rw [toOption_requests_cons, toOption_requests_cons, first.toOption_request, ih]

/-! ## Sizes as they are written -/

/-- A size is accepted exactly if it is a positive integer within the limit. -/
theorem Setting.accepts_tabSize_iff (value : Json) :
    Setting.tabSize.Accepts value
      ↔ ∃ size : Nat, 0 < size ∧ size ≤ sizeLimit ∧ value = .number (.integer size) := by
  constructor
  · rintro ⟨_, reads⟩
    cases reads with
    | tabSize size positive fits => exact ⟨size, positive, fits, rfl⟩
  · rintro ⟨size, positive, fits, rfl⟩
    exact ⟨_, .tabSize size positive fits⟩

/-- **An accepted size is written by digits alone**, without sign, fraction and exponent. -/
theorem accepts_literal_iff {literal : Json.Literal} {number : Number}
    (stands : literal.number = .ok number) :
    Setting.tabSize.Accepts (.number number)
      ↔ literal.negative = false ∧ literal.fraction = [] ∧ literal.exponent = none ∧
          0 < literal.wholeValue ∧ literal.wholeValue ≤ sizeLimit := by
  rw [Setting.accepts_tabSize_iff]
  constructor
  · rintro ⟨size, positive, fits, same⟩
    cases same
    obtain ⟨sign, fraction, exponent, rfl, _⟩ :=
      (literal.number_eq_integer_iff positive).mp stands
    exact ⟨sign, fraction, exponent, positive, fits⟩
  · rintro ⟨sign, fraction, exponent, positive, fits⟩
    have written := (literal.number_eq_integer_iff positive).mpr
      ⟨sign, fraction, exponent, rfl, fits⟩
    cases stands.symm.trans written
    exact ⟨_, positive, fits, rfl⟩

/-! ## Objects -/

/-- **Objects are read by name only.**

An object makes a request exactly if none of the values that it gives for a setting is of a kind
that the setting refuses, and the request then says what these values say, and the default where the
object gives nothing.  A size is accepted exactly if it is written by digits alone and within the
limit.  Objects that differ in the order of distinct names, in foreign names and in values that are
replaced by later ones are both accepted, as the same request, or both refused; and so are texts
whose elements differ in this way. -/
theorem objects_are_read_by_name :
    (∀ (members : List (Binding String Json)) (made : ModuleRequest),
      request (.object (.ofList members)) = .ok made
        ↔ ∀ setting : Setting,
            (∀ value, valueOf? members setting = some value →
              setting.Reads value (setting.field made)) ∧
            (valueOf? members setting = none → setting.field made = setting.field {})) ∧
    (∀ members : List (Binding String Json),
      (∃ made, request (.object (.ofList members)) = .ok made)
        ↔ ∀ (setting : Setting) (value : Json), valueOf? members setting = some value →
            setting.Accepts value) ∧
    (∀ (literal : Json.Literal) (number : Number), literal.number = .ok number →
      (Setting.tabSize.Accepts (.number number)
        ↔ literal.negative = false ∧ literal.fraction = [] ∧ literal.exponent = none ∧
            0 < literal.wholeValue ∧ literal.wholeValue ≤ sizeLimit)) ∧
    (∀ members others : List (Binding String Json), SameByName members others →
      (request (.object (.ofList members))).toOption
        = (request (.object (.ofList others))).toOption) ∧
    (∀ (text other : String) (value value' : Json),
      Json.parse text = .ok value → Json.parse other = .ok value' →
      List.Forall₂ ReadAlike (elements value) (elements value') →
        (parse text).toOption = (parse other).toOption) := by
  refine ⟨request_ofList_eq_ok_iff, exists_request_ofList_iff, ?_, ?_, ?_⟩
  · intro literal number stands
    exact accepts_literal_iff stands
  · intro members others same
    exact same.toOption_request
  · intro text other value value' holds holds' alike
    have same := toOption_requests_congr alike
    rw [parse_of_value holds, parse_of_value holds']
    cases made : requests (elements value) <;> cases made' : requests (elements value') <;>
      rw [made, made'] at same <;> cases same <;> rfl

set_option maxRecDepth 20000 in
/-- A bad size that a good one replaces, a foreign name and another order: the request is that of
the two settings that count. -/
theorem objects_are_read_by_name_replaced :
    let size (value : Json) : Binding String Json := ⟨"tabSize", value⟩
    let separator : Binding String Json := ⟨"separator", .string "_"⟩
    let foreign : Binding String Json := ⟨"TabSize", .null⟩
    let members := [size (.bool true), separator, size (.number (.integer 4)), foreign]
    let others := [size (.number (.integer 4)), separator]
    let text := "\x7b\"tabSize\":true,\"separator\":\"_\",\"tabSize\":4,\"TabSize\":null\x7d"
    let other := "\x7b\"tabSize\":4,\"separator\":\"_\"\x7d"
    let made : ModuleRequest :=
      { separator := "_",
        formatting :=
          { pretty := true, useTabs := false, tabSize := 4, tabSize_pos := by decide } }
    (Json.parse text = .ok (.object (.ofList members)) ∧
      Json.parse other = .ok (.object (.ofList others)) ∧ SameByName members others) ∧
    parse other = .ok [made] ∧ (parse text).toOption = some [made] := by
  intro size separator foreign members others text other made
  have holds : Json.parse text = .ok (.object (.ofList members)) := by
    simp only [text, members, size, separator, foreign]
    cbv
  have holds' : Json.parse other = .ok (.object (.ofList others)) := by
    simp only [other, others, size, separator]
    cbv
  have unknown : ∀ setting : Setting, foreign.name ≠ setting.key := by
    intro setting
    cases setting <;> decide
  have same : SameByName members others := by
    have first : SameByName members [size (.bool true), separator, size (.number (.integer 4))] :=
      .symm (.foreign unknown [size (.bool true), separator, size (.number (.integer 4))] [])
    have later : (size (.bool true)).name
        ∈ [separator, size (.number (.integer 4))].map Binding.name := by decide
    have second : SameByName [size (.bool true), separator, size (.number (.integer 4))]
        [separator, size (.number (.integer 4))] := .symm (.replaced later [])
    have third : SameByName [separator, size (.number (.integer 4))] others :=
      .reordered (by decide) (.swap _ _ _)
    exact first.trans (second.trans third)
  obtain ⟨_, _, _, _, texts⟩ := objects_are_read_by_name
  have alike := texts text other _ _ holds holds' (.cons (.object same) .nil)
  have parsed : parse other = .ok [made] := by
    rw [parse_of_value holds']
    rfl
  exact ⟨⟨holds, holds', same⟩, parsed, alike.trans (by rw [parsed]; rfl)⟩

end CustomProperties.Options
