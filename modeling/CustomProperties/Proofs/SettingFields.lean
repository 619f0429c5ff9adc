import CustomProperties.Options

/-!
# What settings say

A request says something for each setting (`Setting.field`), and it is nothing but what it says
(`eq_of_field_eq`).  A value says something for a setting if it is of the kind that the setting
accepts (`Setting.Reads`).  An update by a value makes the request say what the value says for this
setting (`Setting.reads_update`) and leaves what it says for the others alone
(`Setting.field_update_of_ne`).

So settings that are given once each make the request that says what they give and, for the others,
what the request said before (`updateAll_eq_ok_iff`).  Their order does not count.
-/

namespace CustomProperties.Options

set_option autoImplicit false

/-! ## What a value says for a setting -/

/-- The type of what can be said for a setting. -/
def Setting.Field : Setting → Type
  | .moduleId => Option String
  | .sources => List Tree
  | .separator => String
  | .selector => String
  | .pretty => Bool
  | .useTabs => Bool
  | .tabSize => { size : Nat // 0 < size }
  | .defaultKey => Option String

/-- What a request says for a setting. -/
def Setting.field : (setting : Setting) → ModuleRequest → setting.Field
  | .moduleId, request => request.moduleId
  | .sources, request => request.sources
  | .separator, request => request.separator
  | .selector, request => request.selector
  | .pretty, request => request.formatting.pretty
  | .useTabs, request => request.formatting.useTabs
  | .tabSize, request => ⟨request.formatting.tabSize, request.formatting.tabSize_pos⟩
  | .defaultKey, request => request.selfKey

/-- A request is what it says for each setting. -/
theorem eq_of_field_eq {request other : ModuleRequest}
    (same : ∀ setting : Setting, setting.field request = setting.field other) :
    request = other := by
  obtain ⟨moduleId, sources, separator, selector, selfKey, ⟨pretty, useTabs, tabSize, _⟩⟩ := request
  obtain ⟨moduleId', sources', separator', selector', selfKey', ⟨pretty', useTabs', tabSize', _⟩⟩ :=
    other
  obtain rfl : moduleId = moduleId' := same .moduleId
  obtain rfl : sources = sources' := same .sources
  obtain rfl : separator = separator' := same .separator
  obtain rfl : selector = selector' := same .selector
  obtain rfl : selfKey = selfKey' := same .defaultKey
  obtain rfl : pretty = pretty' := same .pretty
  obtain rfl : useTabs = useTabs' := same .useTabs
  obtain rfl : tabSize = tabSize' := congrArg Subtype.val (same .tabSize)
  rfl

/-- What a value of the kind that a setting accepts says for it. -/
inductive Setting.Reads : (setting : Setting) → Json → setting.Field → Prop where
  | moduleId (value : Json) : Reads .moduleId value (idOf value)
  | sources (value : Json) : Reads .sources value (sourcesOf value)
  | separator (text : String) : Reads .separator (.string text) text
  | selector (text : String) : Reads .selector (.string text) text
  | pretty (flag : Bool) : Reads .pretty (.bool flag) flag
  | useTabs (flag : Bool) : Reads .useTabs (.bool flag) flag
  | tabSize (size : Nat) (positive : 0 < size) (fits : size ≤ sizeLimit) :
    Reads .tabSize (.number (.integer size)) ⟨size, positive⟩
  | noDefaultKey : Reads .defaultKey .null none
  | defaultKey (text : String) : Reads .defaultKey (.string text) (some text)

/-- A value says one thing. -/
theorem Setting.Reads.unique {setting : Setting} {value : Json} {content other : setting.Field}
    (reads : setting.Reads value content) (reads' : setting.Reads value other) :
    content = other := by
  cases reads <;> cases reads' <;> rfl

/-- Whether a value is of the kind that a setting accepts. -/
def Setting.Accepts (setting : Setting) (value : Json) : Prop :=
  ∃ content, setting.Reads value content

/-! ## Updates by a value -/

/-- What comes of a value that was read. -/
theorem exists_of_map_eq_ok {ε α β : Type} {read : Except ε α} {make : α → β} {made : β}
    (good : read.map make = .ok made) : ∃ value, read = .ok value ∧ make value = made := by
  cases read with
  | error error => cases good
  | ok value => exact ⟨value, rfl, Except.ok.inj good⟩

/-- Only strings are read as strings. -/
theorem eq_string_of_string {value : Json} {text : String} (good : string value = .ok text) :
    value = .string text := by
  cases value <;> cases good
  rfl

/-- Only booleans are read as booleans. -/
theorem eq_bool_of_boolean {value : Json} {flag : Bool} (good : boolean value = .ok flag) :
    value = .bool flag := by
  cases value <;> cases good
  rfl

/-- Only positive integers within the limit are read as sizes. -/
theorem eq_integer_of_positive {value : Json} {size : { size : Nat // 0 < size }}
    (good : positive value = .ok size) :
    value = .number (.integer size.val) ∧ size.val ≤ sizeLimit := by
  match value, good with
  | .number (.integer number), good =>
    rw [positive] at good
    split at good
    next fits =>
      cases good
      refine ⟨?_, fits.2⟩
      have known : (number.toNat : Int) = number := by omega
      rw [known]
    next => cases good

/-- Only strings and nulls are read as strings or nulls. -/
theorem eq_of_stringOrNull {value : Json} {key : Option String}
    (good : stringOrNull value = .ok key) :
    value = .null ∧ key = none ∨ ∃ text, value = .string text ∧ key = some text := by
  cases value with
  | null =>
    cases good
    exact .inl ⟨rfl, rfl⟩
  | string text =>
    cases good
    exact .inr ⟨text, rfl, rfl⟩
  | bool _ | number _ | array _ | object _ => cases good

/-- **An update by a value makes the request say what the value says.** -/
theorem Setting.reads_update {setting : Setting} {value : Json}
    {update : ModuleRequest → ModuleRequest} (good : setting.update value = .ok update)
    (request : ModuleRequest) : setting.Reads value (setting.field (update request)) := by
  cases setting with
  | moduleId =>
    cases good
    exact .moduleId value
  | sources =>
    cases good
    exact .sources value
  | separator =>
    obtain ⟨text, read, rfl⟩ := exists_of_map_eq_ok good
    obtain rfl := eq_string_of_string read
    exact .separator text
  | selector =>
    obtain ⟨text, read, rfl⟩ := exists_of_map_eq_ok good
    obtain rfl := eq_string_of_string read
    exact .selector text
  | pretty =>
    obtain ⟨flag, read, rfl⟩ := exists_of_map_eq_ok good
    obtain rfl := eq_bool_of_boolean read
    exact .pretty flag
  | useTabs =>
    obtain ⟨flag, read, rfl⟩ := exists_of_map_eq_ok good
    obtain rfl := eq_bool_of_boolean read
    exact .useTabs flag
  | tabSize =>
    obtain ⟨size, read, rfl⟩ := exists_of_map_eq_ok good
    obtain ⟨rfl, fits⟩ := eq_integer_of_positive read
    exact .tabSize size.val size.property fits
  | defaultKey =>
    obtain ⟨key, read, rfl⟩ := exists_of_map_eq_ok good
    rcases eq_of_stringOrNull read with ⟨rfl, rfl⟩ | ⟨text, rfl, rfl⟩
    · exact .noDefaultKey
    · exact .defaultKey text

/-- A value that says something is accepted. -/
theorem Setting.Reads.exists_update {setting : Setting} {value : Json} {content : setting.Field}
    (reads : setting.Reads value content) : ∃ update, setting.update value = .ok update := by
  cases reads with
  | tabSize size size_pos fits =>
    have read : positive (.number (.integer size)) = .ok ⟨size, size_pos⟩ :=
      dif_pos ⟨size_pos, fits⟩
    exact ⟨_, congrArg (Except.map _) read⟩
  | moduleId | sources | separator | selector | pretty | useTabs | noDefaultKey | defaultKey =>
    exact ⟨_, rfl⟩

/-- **An update for one setting leaves the others alone.** -/
theorem Setting.field_update_of_ne {setting other : Setting} {value : Json}
    {update : ModuleRequest → ModuleRequest} (good : setting.update value = .ok update)
    (differs : other ≠ setting) (request : ModuleRequest) :
    other.field (update request) = other.field request := by
  cases setting with
  | moduleId | sources =>
    cases good
    cases other <;> first | rfl | exact absurd rfl differs
  | separator | selector | pretty | useTabs | tabSize | defaultKey =>
    obtain ⟨_, _, rfl⟩ := exists_of_map_eq_ok good
    cases other <;> first | rfl | exact absurd rfl differs

/-! ## Several settings -/

/-- A request that says what is given for some settings, and for the others what another request
says. -/
structure Follows (request : ModuleRequest) (settings : List (Setting × Json))
    (made : ModuleRequest) : Prop where
  given : ∀ entry ∈ settings, entry.1.Reads entry.2 (entry.1.field made)
  otherwise : ∀ setting, setting ∉ settings.map Prod.fst →
    setting.field made = setting.field request

/-- **Updates by settings that are given once each make the request that follows them.** -/
theorem updateAll_eq_ok_iff {settings : List (Setting × Json)}
    (once : (settings.map Prod.fst).Nodup) (request made : ModuleRequest) :
    updateAll request settings = .ok made ↔ Follows request settings made := by
  induction settings generalizing request with
  | nil =>
    rw [updateAll, Except.ok.injEq]
    constructor
    · rintro rfl
      exact ⟨fun _ member => absurd member List.not_mem_nil, fun _ _ => rfl⟩
    · intro follows
      exact eq_of_field_eq fun setting => (follows.otherwise setting List.not_mem_nil).symm
  | cons entry rest ih =>
    obtain ⟨setting, value⟩ := entry
    obtain ⟨fresh, once⟩ := List.nodup_cons.mp once
    rw [updateAll]
    cases good : setting.update value with
    | error error =>
      constructor
      · intro impossible
        cases impossible
      · intro follows
        obtain ⟨update, accepted⟩ := (follows.given _ List.mem_cons_self).exists_update
        cases good.symm.trans accepted
    | ok update =>
      have reads := Setting.reads_update good request
      refine (ih once (update request)).trans ⟨fun follows => ?_, fun follows => ?_⟩
      · have kept := follows.otherwise setting fresh
        constructor
        · exact List.forall_mem_cons.mpr ⟨kept ▸ reads, follows.given⟩
        · intro other absent
          have differs := List.ne_of_not_mem_cons absent
          rw [follows.otherwise other (List.not_mem_of_not_mem_cons absent),
            Setting.field_update_of_ne good differs]
      · obtain ⟨reads', given⟩ := List.forall_mem_cons.mp follows.given
        refine ⟨given, fun other absent => ?_⟩
        by_cases same : other = setting
        · subst same
          exact reads'.unique reads
        · rw [Setting.field_update_of_ne good same]
          exact follows.otherwise other (List.not_mem_cons_of_ne_of_not_mem same absent)

/-- Settings of which none has a bad value make a request. -/
theorem exists_updateAll_eq_ok {settings : List (Setting × Json)}
    (accepted : ∀ entry ∈ settings, entry.1.Accepts entry.2) (request : ModuleRequest) :
    ∃ made, updateAll request settings = .ok made := by
  induction settings generalizing request with
  | nil => exact ⟨request, rfl⟩
  | cons entry rest ih =>
    obtain ⟨⟨_, reads⟩, accepted⟩ := List.forall_mem_cons.mp accepted
    obtain ⟨update, good⟩ := reads.exists_update
    obtain ⟨made, others⟩ := ih accepted (update request)
    refine ⟨made, ?_⟩
    rw [updateAll, good]
    exact others

end CustomProperties.Options
