import CustomProperties.Json.Reader
import CustomProperties.ModuleRequest
import CustomProperties.Text.Quoted

/-!
# Options

Requests are written as JSON: an array with one element for each request, or a
single request that stands alone.  An element is an object that gives settings by
name, or an array that gives them by position (`Setting.all`); settings that are
not given keep their defaults, and unknown names are passed over.

Most settings accept one kind of value only.  The first bad one, in the order in
which the element gives them, is the error of the element, and the first bad
element is the error of the whole.  Two settings accept everything: an id that is
not a string counts as missing, and variables of whatever kind are taken as trees,
to be judged when the module is built.
-/

namespace CustomProperties

set_option autoImplicit false

namespace Options

/-! ## Settings -/

/-- The settings of a request. -/
inductive Setting where
  | moduleId
  | sources
  | separator
  | selector
  | pretty
  | useTabs
  | tabSize
  | defaultKey
  deriving DecidableEq, Repr

/-- The settings, in the order in which an array gives them. -/
def Setting.all : List Setting :=
  [.moduleId, .sources, .separator, .selector, .pretty, .useTabs, .tabSize, .defaultKey]

/-- The name by which an object gives a setting. -/
def Setting.key : Setting → String
  | .moduleId => "moduleId"
  | .sources => "variables"
  | .separator => "separator"
  | .selector => "selector"
  | .pretty => "pretty"
  | .useTabs => "useTabs"
  | .tabSize => "tabSize"
  | .defaultKey => "defaultKey"

/-- The setting with a name. -/
def Setting.ofKey? (key : String) : Option Setting :=
  Setting.all.find? (fun setting => setting.key = key)

/-! ## Errors -/

/-- What was called for where something else was found. -/
inductive Expectation where
  | string
  | boolean
  | positive
  | settings
  deriving DecidableEq, Repr

/-- The name of what was called for. -/
def Expectation.name : Expectation → String
  | .string => "a string"
  | .boolean => "a boolean"
  | .positive => "a nonzero usize"
  | .settings => "struct ModuleOptions"

/-- Why an element is no request. -/
inductive ElementError where
  /-- A value is of the wrong kind. -/
  | invalidType (found : Json) (expected : Expectation)
  /-- A number is zero, negative or too great. -/
  | invalidValue (found : Int)
  /-- An array gives more values than there are settings. -/
  | invalidLength (length : Nat)

/-- How a message names a value. -/
def describe : Json → String
  | .null => "null"
  | .bool true => "boolean `true`"
  | .bool false => "boolean `false`"
  | .number (.integer value) => "integer `" ++ (Number.integer value).text ++ "`"
  | .number (.float value) => "floating point `" ++ (Number.float value).text ++ "`"
  | .string text => "string " ++ Text.quoted text
  | .array _ => "sequence"
  | .object _ => "map"

/-- The wording of an error. -/
def ElementError.message : ElementError → String
  | .invalidType found expected =>
    "invalid type: " ++ describe found ++ ", expected " ++ expected.name
  | .invalidValue found =>
    "invalid value: " ++ describe (.number (.integer found)) ++ ", expected "
      ++ Expectation.positive.name
  | .invalidLength length =>
    "invalid length " ++ toString length ++ ", expected fewer elements in array"

/-! ## Reading settings -/

/-- A string. -/
def string : Json → Except ElementError String
  | .string text => .ok text
  | found => .error (.invalidType found .string)

/-- A string, or `none` for `null`. -/
def stringOrNull : Json → Except ElementError (Option String)
  | .null => .ok none
  | found => (string found).map some

/-- A boolean. -/
def boolean : Json → Except ElementError Bool
  | .bool value => .ok value
  | found => .error (.invalidType found .boolean)

/-- The greatest size that a setting can have, `2 ^ 64 - 1`. -/
def sizeLimit : Nat := 0xFFFFFFFFFFFFFFFF

/-- A positive integer within the limit. -/
def positive : Json → Except ElementError { size : Nat // 0 < size }
  | .number (.integer value) =>
    if fits : 0 < value.toNat ∧ value.toNat ≤ sizeLimit then
      .ok ⟨value.toNat, fits.1⟩
    else .error (.invalidValue value)
  | found => .error (.invalidType found .positive)

/-- An id; what is not a string is none. -/
def idOf : Json → Option String
  | .string text => some text
  | _ => none

/-- The trees that the value of the variables gives: the items of an array, no tree
for `null`, or one tree. -/
def sourcesOf : Json → List Tree
  | .null => []
  | .array items => items.map Tree.ofJson
  | value => [Tree.ofJson value]

/-- What a value does to a request when it is given for a setting. -/
def Setting.update (setting : Setting) (value : Json) :
    Except ElementError (ModuleRequest → ModuleRequest) :=
  match setting with
  | .moduleId => .ok fun request => { request with moduleId := idOf value }
  | .sources => .ok fun request => { request with sources := sourcesOf value }
  | .separator => (string value).map fun text request => { request with separator := text }
  | .selector => (string value).map fun text request => { request with selector := text }
  | .pretty => (boolean value).map fun pretty request =>
    { request with formatting := { request.formatting with pretty } }
  | .useTabs => (boolean value).map fun useTabs request =>
    { request with formatting := { request.formatting with useTabs } }
  | .tabSize => (positive value).map fun size request =>
    { request with
      formatting := { request.formatting with tabSize := size.val, tabSize_pos := size.property } }
  | .defaultKey => (stringOrNull value).map fun key request => { request with selfKey := key }

/-! ## Elements -/

/-- The settings that an element gives, in its order. -/
def given : Json → Except ElementError (List (Setting × Json))
  | .object members => .ok <| members.toList.filterMap fun member =>
    (Setting.ofKey? member.name).map fun setting => (setting, member.value)
  | .array items => .ok (Setting.all.zip items)
  | found => .error (.invalidType found .settings)

/-- Give settings to a request one after another. -/
def updateAll (request : ModuleRequest) :
    List (Setting × Json) → Except ElementError ModuleRequest
  | [] => .ok request
  | (setting, value) :: rest =>
    match setting.update value with
    | .ok update => updateAll (update request) rest
    | .error error => .error error

/-- Refuse an array that is longer than the list of settings. -/
def checkLength : Json → Except ElementError Unit
  | .array items =>
    if Setting.all.length < items.length then .error (.invalidLength items.length) else .ok ()
  | _ => .ok ()

/-- **The request that an element makes.** -/
def request (element : Json) : Except ElementError ModuleRequest := do
  let settings ← given element
  let request ← updateAll {} settings
  checkLength element
  return request

/-- The ids among settings that are neither strings nor `null`, up to the first
setting with a bad value. -/
def oddIds : List (Setting × Json) → List Json
  | [] => []
  | (setting, value) :: rest =>
    match setting.update value with
    | .error _ => []
    | .ok _ =>
      match setting, value with
      | .moduleId, .null => oddIds rest
      | .moduleId, .string _ => oddIds rest
      | .moduleId, other => other :: oddIds rest
      | _, _ => oddIds rest

/-- The ids of an element that are neither strings nor `null`. -/
def ignoredIds (element : Json) : List Json :=
  match given element with
  | .ok settings => oddIds settings
  | .error _ => []

/-! ## Whole texts -/

/-- Why a text gives no requests. -/
inductive OptionsError where
  | syntaxError (error : Json.SyntaxError)
  | element (error : ElementError)

/-- The wording of an error. -/
def OptionsError.message : OptionsError → String
  | .syntaxError error => error.message
  | .element error => error.message

/-- The elements of a value: its items if it is an array, or itself. -/
def elements : Json → List Json
  | .array items => items
  | value => [value]

/-- The requests of several elements, unless one of them is bad. -/
def requests : List Json → Except ElementError (List ModuleRequest)
  | [] => .ok []
  | element :: rest =>
    match request element with
    | .error error => .error error
    | .ok first =>
      match requests rest with
      | .error error => .error error
      | .ok others => .ok (first :: others)

/-- The ids that are passed over while elements are read, up to the first bad element. -/
def passedOver : List Json → List Json
  | [] => []
  | element :: rest =>
    ignoredIds element ++
      match request element with
      | .error _ => []
      | .ok _ => passedOver rest

/-- The requests that a JSON value gives. -/
def ofJson (value : Json) : Except OptionsError (List ModuleRequest) :=
  (requests (elements value)).mapError .element

/-- **The requests that a text gives.** -/
def parse (text : String) : Except OptionsError (List ModuleRequest) :=
  match Json.parse text with
  | .ok value => ofJson value
  | .error error => .error (.syntaxError error)

end Options

end CustomProperties
