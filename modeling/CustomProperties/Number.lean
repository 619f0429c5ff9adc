import CustomProperties.Decimal.Shortest

/-!
# Numbers

A number is an integer or a binary floating-point number, and the two never
compare equal, whatever they stand for: `1` and `1.0` are different numbers and
are written differently.  Two floating-point numbers compare as such, so the two
zeros are equal though their texts differ.

The text of an integer is its decimal digits.  A floating-point number takes its
shortest decimal, laid out by `layout`.
-/

namespace CustomProperties

set_option autoImplicit false

/-- An integer or a binary floating-point number. -/
inductive Number where
  | integer (value : Int)
  | float (value : Float)
  deriving Repr

namespace Number

/-- Equality of numbers: of the same kind and of equal value. -/
def beq : Number → Number → Bool
  | .integer first, .integer second => first == second
  | .float first, .float second => first == second
  | _, _ => false

instance : BEq Number := ⟨beq⟩

/-! ## The text of a number -/

/-- Which powers of ten are written by their position in the number. -/
structure Layout where
  least : Int
  greatest : Int

/-- Numbers from `0.00001` up to `9999999999999999` are written positionally, all
others with an exponent. -/
def layout : Layout := ⟨-5, 15⟩

/-- Digits before and after a point, with at least one on either side. -/
def positional (decimal : Decimal.Digits) : List Char :=
  if 0 ≤ decimal.exponent then
    let whole := decimal.exponent.toNat + 1
    let before := decimal.digits.take whole
    let after := decimal.digits.drop whole
    before ++ List.replicate (whole - before.length) '0' ++ '.'
      :: (if after = [] then ['0'] else after)
  else
    '0' :: '.' :: List.replicate ((-decimal.exponent).toNat - 1) '0' ++ decimal.digits

/-- One digit, a point if more digits follow, and the signed exponent. -/
def scientific (decimal : Decimal.Digits) : List Char :=
  let mantissa :=
    match decimal.digits with
    | first :: next :: rest => first :: '.' :: next :: rest
    | digits => digits
  let exponent :=
    if decimal.exponent < 0 then '-' :: Nat.toDigits 10 (-decimal.exponent).toNat
    else '+' :: Nat.toDigits 10 decimal.exponent.toNat
  mantissa ++ 'e' :: exponent

/-- The bit of a binary64 pattern that tells the sign, `2 ^ 63`. -/
def signBit : Nat := 0x8000000000000000

/-- The text of a finite floating-point number. -/
def floatText (value : Float) : List Char :=
  let bits := value.toBits.toNat
  let sign := if signBit ≤ bits then ['-'] else []
  let size := bits % signBit
  if size = 0 then sign ++ ['0', '.', '0']
  else
    let decimal := (Decimal.Neighbourhood.ofBits size).shortest
    if layout.least ≤ decimal.exponent ∧ decimal.exponent ≤ layout.greatest then
      sign ++ positional decimal
    else sign ++ scientific decimal

/-- The decimal digits of an integer, after a minus sign if it is negative. -/
def integerText (value : Int) : List Char :=
  if value < 0 then '-' :: Nat.toDigits 10 value.natAbs else Nat.toDigits 10 value.natAbs

/-- The text of a number. -/
def text : Number → String
  | .integer value => String.ofList (integerText value)
  | .float value => String.ofList (floatText value)

example : text (.integer (-12)) = "-12" := by decide +kernel
example : text (.float 100000) = "100000.0" := by decide +kernel
example : text (.float 1e16) = "1e+16" := by decide +kernel
example : text (.float 1.5e-7) = "1.5e-7" := by decide +kernel
example : text (.float (-0.0)) = "-0.0" := by decide +kernel

end Number

end CustomProperties
