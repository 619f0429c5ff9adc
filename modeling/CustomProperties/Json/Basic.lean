import CustomProperties.Bindings
import CustomProperties.Number

/-!
# JSON values

A JSON value, with the members of an object in the order in which their names
first occurred.  The second half of the module writes a value back as compact
text: no blanks, members in their order, and in strings only the quote, the
backslash and the control characters escaped.
-/

namespace CustomProperties

set_option autoImplicit false

/-- A JSON value. -/
inductive Json where
  | null
  | bool (value : Bool)
  | number (value : Number)
  | string (value : String)
  | array (items : List Json)
  | object (members : Bindings String Json)
  deriving Inhabited

namespace Json

/-! ## Compact text -/

/-- A hexadecimal digit, in lower case. -/
def hexDigit (value : Nat) : Char := Nat.digitChar value

/-- How one character stands in a string literal. -/
def escape (char : Char) : List Char :=
  if char = '"' then ['\\', '"']
  else if char = '\\' then ['\\', '\\']
  else if char = '\x08' then ['\\', 'b']
  else if char = '\x0c' then ['\\', 'f']
  else if char = '\n' then ['\\', 'n']
  else if char = '\r' then ['\\', 'r']
  else if char = '\t' then ['\\', 't']
  else if char.toNat < 32 then
    ['\\', 'u', '0', '0', hexDigit (char.toNat / 16), hexDigit (char.toNat % 16)]
  else [char]

/-- A text as a string literal, with its quotes. -/
def quoted (text : String) : String :=
  String.ofList ('"' :: text.toList.flatMap escape ++ ['"'])

mutual
/-- The compact text of a value. -/
def compact : Json → String
  | .null => "null"
  | .bool true => "true"
  | .bool false => "false"
  | .number value => value.text
  | .string value => quoted value
  | .array items => "[" ++ ",".intercalate (compactItems items) ++ "]"
  | .object ⟨members⟩ => "\x7b" ++ ",".intercalate (compactMembers members) ++ "\x7d"

/-- The texts of the items of an array. -/
def compactItems : List Json → List String
  | [] => []
  | item :: rest => compact item :: compactItems rest

/-- The texts of the members of an object. -/
def compactMembers : List (Binding String Json) → List String
  | [] => []
  | ⟨name, value⟩ :: rest => (quoted name ++ ":" ++ compact value) :: compactMembers rest
end

example : compact (.array [.number (.integer 1), .string "a\"b", .object ⟨[⟨"k", .null⟩]⟩])
    = "[1,\"a\\\"b\",\x7b\"k\":null\x7d]" := by decide +kernel

end Json

end CustomProperties
