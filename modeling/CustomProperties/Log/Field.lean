import CustomProperties.Pattern.Check
import CustomProperties.Text.Parts

/-!
# Fields in directives

    name
    name=value

A field narrows a directive to what has a field of that name, or has it with a value.
A value that is written like a number is one, and every other value is a pattern.
What stands behind another equals sign does not count.

The one field of a record is its message.  Values are looked for in spans only, and
no record is inside of one.
-/

namespace CustomProperties.Log

set_option autoImplicit false

/-- What the brackets of a directive narrow it to. -/
inductive Scope where
  /-- Everything that has a message. -/
  | message
  /-- Nothing that the program records. -/
  | elsewhere
  deriving DecidableEq, Repr

/-! ## Numbers -/

/-- A text without the sign in front of it. -/
def withoutSign : List Char → List Char
  | '+' :: rest => rest
  | '-' :: rest => rest
  | text => text

/-- Whether a text is an exponent behind its letter. -/
def isExponent (text : List Char) : Bool :=
  let digits := withoutSign text
  !digits.isEmpty && digits.all Char.isDigit

/-- Whether a text is a decimal number without a sign: digits with or without a point,
and perhaps an exponent. -/
def isDecimal (text : List Char) : Bool :=
  let whole := text.takeWhile Char.isDigit
  let afterWhole := text.dropWhile Char.isDigit
  let fraction := if afterWhole.head? = some '.' then afterWhole.drop 1 else []
  let afterFraction :=
    if afterWhole.head? = some '.' then fraction.dropWhile Char.isDigit else afterWhole
  let hasDigits := !whole.isEmpty || !(fraction.takeWhile Char.isDigit).isEmpty
  match afterFraction with
  | [] => hasDigits
  | letter :: exponent => hasDigits && (letter = 'e' || letter = 'E') && isExponent exponent

/-- The words for what is no finite number. -/
def specialNumbers : List String := ["inf", "infinity", "nan"]

/-- Whether a text is written like a number. -/
def isNumber (text : List Char) : Bool :=
  let unsigned := withoutSign text
  isDecimal unsigned || specialNumbers.contains (String.ofList (unsigned.map Char.toLower))

/-! ## Fields -/

/-- **What a field narrows a directive to**, unless its value is a pattern that cannot
be used. -/
def readField (field : List Char) : Except Pattern.Fault Scope :=
  match Text.parts '=' field with
  | _ :: value :: _ =>
    if isNumber value then .ok .elsewhere
    else
      match Pattern.fault? value with
      | some fault => .error fault
      | none => .ok .elsewhere
  | _ => .ok (if String.ofList field = "message" then .message else .elsewhere)

example : readField ['f', '=', '+', '5'] = .ok .elsewhere := rfl
example : Pattern.fault? ['+', '5'] = some .malformed := by decide +kernel

end CustomProperties.Log
