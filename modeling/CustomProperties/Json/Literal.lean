import CustomProperties.Json.Step
import CustomProperties.Number

/-!
# Number literals

Reading a number has two parts.  The first finds the literal, digit by digit:
an optional minus sign, a whole part without a needless leading zero, and then,
if they are there, a fraction and an exponent, each with at least one digit.  The
second, `Literal.number`, says which number the literal stands for.

A literal without fraction and exponent is an integer if it fits in 64 bits.
Every other one is a floating-point number, found in three roundings at most.
Its digits are gathered into a 64-bit significand until one does not fit; from
there on digits of the whole part only raise the power of ten, and those of the
fraction are ignored.  Then the significand is rounded, and it is multiplied or
divided by the power of ten, in steps of at most `10 ^ 308`.  The result can
differ in its last bit from the nearest number.
-/

namespace CustomProperties.Json

set_option autoImplicit false

open Text (Step Rest)

/-! ## Finding a literal -/

/-- The exponent of a literal. -/
structure Exponent where
  negative : Bool
  digits : List Nat
  deriving DecidableEq, Repr

/-- A number as it is written. -/
structure Literal where
  negative : Bool
  whole : List Nat
  fraction : List Nat
  exponent : Option Exponent
  deriving DecidableEq, Repr

/-- The value of a decimal digit. -/
def digitValue (char : Char) : Nat := char.toNat - '0'.toNat

/-- The run of decimal digits in front, if there is at least one. -/
def digits? : (input : List Char) → Option (Step (List Nat) input)
  | [] => none
  | first :: rest =>
    if first.isDigit then
      some {
        value := (first :: rest.takeWhile Char.isDigit).map digitValue
        rest := rest.dropWhile Char.isDigit
        shorter := Nat.lt_succ_of_le (Text.length_dropWhile_le Char.isDigit rest) }
    else none

/-- The fault of a text that should go on with a digit. -/
def missingDigit (rest : List Char) : Fault :=
  .facing (if rest.isEmpty then .endInValue else .invalidNumber) rest

/-- Read the digits that have to follow. -/
def readDigits : Reader (List Nat) := fun input =>
  match digits? input with
  | some step => .ok step
  | none => .error (missingDigit input)

/-- Read the whole part: a zero standing alone, or digits that start with another one. -/
def readWhole : Reader (List Nat)
  | '0' :: rest =>
    if (digits? rest).isSome then .error (.facing .invalidNumber rest)
    else .ok (.char '0' rest [0])
  | input => readDigits input

/-- Read the optional fraction; no digits mean that there is none. -/
def readFraction (input : List Char) : Except Fault (List Nat × Rest input) :=
  match input with
  | '.' :: after =>
    match readDigits after with
    | .ok step => .ok (step.value, step.left.behind '.')
    | .error fault => .error fault
  | input => .ok ([], .all input)

/-- Read the digits of an exponent after its sign. -/
def readExponentDigits (negative : Bool) : Reader Exponent := fun input =>
  (readDigits input).map (·.map (Exponent.mk negative))

/-- Read an exponent after its letter. -/
def readSignedExponent : Reader Exponent
  | '+' :: after => Reading.behind '+' (readExponentDigits false after)
  | '-' :: after => Reading.behind '-' (readExponentDigits true after)
  | input => readExponentDigits false input

/-- Read the optional exponent. -/
def readExponent (input : List Char) : Except Fault (Option Exponent × Rest input) :=
  match input with
  | [] => .ok (none, .all [])
  | letter :: after =>
    if letter = 'e' || letter = 'E' then
      match readSignedExponent after with
      | .ok step => .ok (some step.value, step.left.behind letter)
      | .error fault => .error fault
    else .ok (none, .all (letter :: after))

/-- Read a literal after its sign. -/
def readUnsigned (negative : Bool) : Reader Literal := fun input => do
  let whole ← readWhole input
  let (fraction, afterFraction) ← readFraction whole.rest
  let (exponent, rest) ← readExponent afterFraction.text
  return {
    value := { negative, whole := whole.value, fraction, exponent }
    rest := rest.text
    shorter := Nat.lt_of_le_of_lt (Nat.le_trans rest.within afterFraction.within)
      whole.shorter }

/-- Read a literal. -/
def readLiteral : Reader Literal
  | '-' :: after => Reading.behind '-' (readUnsigned true after)
  | input => readUnsigned false input

/-! ## The number it stands for -/

/-- The greatest significand, `2 ^ 64 - 1`. -/
def significandLimit : Nat := 0xFFFFFFFFFFFFFFFF

/-- The size of the least integer, `2 ^ 63`. -/
def negativeLimit : Nat := 0x8000000000000000

/-- The greatest size of a written exponent, `2 ^ 31 - 1`. -/
def exponentLimit : Nat := 0x7FFFFFFF

/-- Append digits to a number for as long as it stays within a limit; the digits
from the first one that does not fit on are returned. -/
def gather (limit : Nat) : Nat → List Nat → Nat × List Nat
  | gathered, [] => (gathered, [])
  | gathered, digit :: rest =>
    if limit < gathered * 10 + digit then (gathered, digit :: rest)
    else gather limit (gathered * 10 + digit) rest

/-- A power of ten, correctly rounded. -/
def powerOfTen (exponent : Nat) : Float := Float.ofScientific 1 false exponent

/-- Divide by `10 ^ 308` a number of times, stopping at zero, and then by a last power. -/
def divideDown (last : Nat) : Nat → Float → Float
  | 0, value => value / powerOfTen last
  | times + 1, value =>
    if value == 0 then value else divideDown last times (value / powerOfTen 308)

/-- A significand times a power of ten, unless that is beyond the greatest number. -/
def scaled (significand : Nat) (exponent : Int) : Option Float :=
  let value := Float.ofNat significand
  if exponent < 0 then
    let size := exponent.natAbs
    some (divideDown ((size - 1) % 308 + 1) ((size - 1) / 308) value)
  else if exponent ≤ 308 then
    let product := value * powerOfTen exponent.toNat
    if product.isInf then none else some product
  else if value == 0 then some value
  else none

/-- A number with the sign of its literal. -/
def signed (negative : Bool) (value : Float) : Number := .float (if negative then -value else value)

/-- The number that a literal without fraction and exponent stands for, if its
digits fit: an integer within 64 bits, or else the nearest floating-point number.
A zero after a minus sign is the negative floating-point zero. -/
def wholeNumber (negative : Bool) (value : Nat) : Number :=
  if negative then
    if value = 0 ∨ negativeLimit < value then signed true (Float.ofNat value)
    else .integer (-value)
  else .integer value

/-- What the written exponent amounts to; if it exceeds the limit, the number of
its digits after the first one that does not fit. -/
def Exponent.value (exponent : Exponent) : Except Nat Int :=
  match gather exponentLimit 0 exponent.digits with
  | (size, []) => .ok (if exponent.negative then -size else size)
  | (_, _ :: beyond) => .error beyond.length

/-- **The number a literal stands for.**  If it is out of range, the number of
characters at the end of the literal that do not matter for that. -/
def Literal.number (literal : Literal) : Except Nat Number :=
  let (leading, raised) := gather significandLimit 0 literal.whole
  let (significand, ignored) := gather significandLimit leading literal.fraction
  let power : Int := raised.length - (literal.fraction.length - ignored.length : Nat)
  let scaledBy (exponent : Int) : Except Nat Number :=
    match scaled significand exponent with
    | some value => .ok (signed literal.negative value)
    | none => .error 0
  match literal.exponent with
  | none =>
    if literal.fraction.isEmpty && raised.isEmpty then
      .ok (wholeNumber literal.negative leading)
    else scaledBy power
  | some exponent =>
    match exponent.value with
    | .ok value => scaledBy (power + value)
    | .error beyond =>
      if significand = 0 ∨ exponent.negative then .ok (signed literal.negative 0)
      else .error beyond

/-- Read a number. -/
def readNumber : Reader Number := fun input =>
  match readLiteral input with
  | .error fault => .error fault
  | .ok step =>
    match step.value.number with
    | .ok value => .ok (step.map fun _ => value)
    | .error beyond => .error ⟨.numberOutOfRange, Text.utf8Size step.rest + beyond⟩

end CustomProperties.Json
