/-!
# The shortest decimal that reads back

A binary floating-point number stands for a rational, and a whole interval of
reals rounds to it.  Its shortest decimal is the one with the fewest significant
digits inside that interval and, of those, the one nearest to the number; a
number half way between two of them takes the even one.

The search is exact.  The number and the two ends of its interval are kept over
one common denominator, so that every comparison is one of natural numbers.  For
one digit, then two, and so on, the decimals with that many digits form a grid,
and only the two neighbours of the number on the grid have to be tested: if any
point of the grid lies in the interval, so does one of those two.  Seventeen
digits always suffice.
-/

namespace CustomProperties.Decimal

set_option autoImplicit false

/-! ## The interval around a number -/

/-- A positive rational `centre / scale`, and the interval of reals from
`low / scale` to `high / scale` that round to it. -/
structure Neighbourhood where
  low : Nat
  centre : Nat
  high : Nat
  scale : Nat
  /-- Whether the two ends of the interval belong to it. -/
  closed : Bool
  deriving DecidableEq, Repr

/-- The significand of the least normal number, `2 ^ 52`. -/
def leastNormal : Nat := 0x10000000000000

/-- The neighbourhood of the finite positive number with the given binary64
pattern: 52 bits of fraction below 11 bits of exponent.  Below the least number of a
binade the grid is half as wide, so there the lower end is nearer. -/
def Neighbourhood.ofBits (bits : Nat) : Neighbourhood :=
  let fraction := bits % leastNormal
  let biased := bits / leastNormal % 0x800
  let significand := if biased = 0 then fraction else leastNormal + fraction
  let exponent : Int := (if biased = 0 then 1 else biased : Nat) - 1077
  let below := if fraction = 0 ∧ 1 < biased then 1 else 2
  let factor := Nat.pow 2 exponent.toNat
  { low := (4 * significand - below) * factor
    centre := 4 * significand * factor
    high := (4 * significand + 2) * factor
    scale := Nat.pow 2 (-exponent).toNat
    closed := significand % 2 = 0 }

/-- How many decimal digits a natural number is written with. -/
def digitCount (number : Nat) : Nat := (Nat.toDigits 10 number).length

/-- The exponent `e` with `10 ^ e ≤ centre / scale < 10 ^ (e + 1)`. -/
def Neighbourhood.magnitude (near : Neighbourhood) : Int :=
  if near.scale ≤ near.centre then digitCount (near.centre / near.scale) - 1
  else -digitCount ((near.scale - 1) / near.centre)

/-! ## Points of a decimal grid -/

/-- The multiple of `10 ^ exponent` that lies in the interval and is nearest to
its centre, by its factor; of two equally near ones the even one. -/
def Neighbourhood.onGrid? (near : Neighbourhood) (exponent : Int) : Option Nat :=
  let unit := near.scale * Nat.pow 10 exponent.toNat
  let spread := Nat.pow 10 (-exponent).toNat
  let centre := near.centre * spread
  let inside (factor : Nat) : Bool :=
    if near.closed then near.low * spread ≤ factor * unit ∧ factor * unit ≤ near.high * spread
    else near.low * spread < factor * unit ∧ factor * unit < near.high * spread
  let lower := centre / unit
  let upper := lower + 1
  let toLower := centre - lower * unit
  let toUpper := upper * unit - centre
  match inside lower, inside upper with
  | true, true =>
    if toLower < toUpper ∨ toLower = toUpper ∧ lower % 2 = 0 then some lower else some upper
  | true, false => some lower
  | false, true => some upper
  | false, false => none

/-! ## Digits -/

/-- A positive decimal `d.ddd × 10 ^ exponent`, by its significant digits. -/
structure Digits where
  digits : List Char
  exponent : Int
  deriving DecidableEq, Repr

/-- `factor × 10 ^ exponent` without trailing zeros. -/
def Digits.ofMultiple (factor : Nat) (exponent : Int) : Digits :=
  let written := Nat.toDigits 10 factor
  { digits := (written.reverse.dropWhile (· = '0')).reverse
    exponent := exponent + written.length - 1 }

/-- **The shortest decimal in the interval**, nearest to its centre. -/
def Neighbourhood.shortest (near : Neighbourhood) : Digits :=
  let magnitude := near.magnitude
  let hit? := (List.range 17).findSome? fun (extra : Nat) =>
    (near.onGrid? (magnitude - extra)).map fun factor => (factor, magnitude - extra)
  match hit? with
  | some (factor, exponent) => .ofMultiple factor exponent
  | none => .ofMultiple (near.centre / near.scale) 0

/-- The shortest decimal that reads back as a finite positive number. -/
def shortest (number : Float) : Digits :=
  (Neighbourhood.ofBits number.toBits.toNat).shortest

example : shortest 0.1 = ⟨['1'], -1⟩ := by decide +kernel
example : shortest 5e-324 = ⟨['5'], -324⟩ := by decide +kernel
example : shortest 9.5 = ⟨['9', '5'], 0⟩ := by decide +kernel

end CustomProperties.Decimal
