import CustomProperties.Json.Literal

/-!
# Integers as they are written

Whether a number is an integer can be read off its literal.  The digits of the whole part are
gathered as long as they fit, and they all do exactly if the number that they stand for is within
the limit (`gather_eq_nil_iff`).  A fraction, an exponent or a digit that does not fit makes the
number a floating-point number.  So a positive integer is written by digits alone
(`Literal.number_eq_integer_iff`).
-/

namespace CustomProperties.Json

set_option autoImplicit false

/-- The number that decimal digits stand for when they follow others, which stand for a number
themselves. -/
def decimal (leading : Nat) (digits : List Nat) : Nat :=
  digits.foldl (fun value digit => value * 10 + digit) leading

theorem le_decimal (leading : Nat) (digits : List Nat) : leading ≤ decimal leading digits := by
  induction digits generalizing leading with
  | nil => exact Nat.le_refl leading
  | cons digit rest ih =>
    have next : leading ≤ leading * 10 + digit := by omega
    exact Nat.le_trans next (ih _)

/-- **All digits are gathered exactly if their number is within the limit.** -/
theorem gather_eq_nil_iff (limit leading value : Nat) (digits : List Nat) (fits : leading ≤ limit) :
    gather limit leading digits = (value, [])
      ↔ value = decimal leading digits ∧ value ≤ limit := by
  induction digits generalizing leading with
  | nil =>
    rw [gather, decimal, List.foldl_nil, Prod.mk.injEq]
    constructor
    · rintro ⟨rfl, _⟩
      exact ⟨rfl, fits⟩
    · rintro ⟨rfl, _⟩
      exact ⟨rfl, rfl⟩
  | cons digit rest ih =>
    rw [gather]
    split
    next beyond =>
      have grows : leading * 10 + digit ≤ decimal leading (digit :: rest) :=
        le_decimal (leading * 10 + digit) rest
      constructor
      · intro left
        cases left
      · rintro ⟨rfl, within⟩
        omega
    next within => exact ih (leading * 10 + digit) (Nat.le_of_not_lt within)

namespace Literal

/-- The number that the whole part of a literal stands for. -/
def wholeValue (literal : Literal) : Nat := decimal 0 literal.whole

/-- A literal without fraction and exponent is an integer only if its digits fit. -/
theorem number_of_plain {literal : Literal} (fraction : literal.fraction = [])
    (exponent : literal.exponent = none) (value : Int) :
    literal.number = .ok (.integer value)
      ↔ literal.wholeValue ≤ significandLimit ∧
          wholeNumber literal.negative literal.wholeValue = .integer value := by
  obtain ⟨negative, whole, _, _⟩ := literal
  cases fraction
  cases exponent
  have fits (gathered : Nat) := gather_eq_nil_iff significandLimit 0 gathered whole (Nat.zero_le _)
  cases gathered : gather significandLimit 0 whole with
  | mk leading raised =>
    cases raised with
    | nil =>
      obtain ⟨rfl, within⟩ := (fits leading).mp gathered
      simp [number, gathered, wholeValue, within]
    | cons digit rest =>
      have beyond : ¬ decimal 0 whole ≤ significandLimit := by
        intro within
        have complete := (fits _).mpr ⟨rfl, within⟩
        rw [gathered] at complete
        cases complete
      simp only [number, gathered, gather, wholeValue, beyond, false_and, iff_false,
        List.isEmpty_cons, Bool.and_false, Bool.false_eq_true, if_false]
      intro same
      split at same <;> cases same

/-- **A positive integer is written by digits alone**, which stand for it and fit. -/
theorem number_eq_integer_iff (literal : Literal) {size : Nat} (positive : 0 < size) :
    literal.number = .ok (.integer size)
      ↔ literal.negative = false ∧ literal.fraction = [] ∧ literal.exponent = none ∧
          size = literal.wholeValue ∧ size ≤ significandLimit := by
  constructor
  · intro same
    have exponent : literal.exponent = none := by
      cases given : literal.exponent with
      | none => rfl
      | some exponent =>
        simp only [number, given] at same
        split at same
        · split at same <;> cases same
        · split at same <;> cases same
    have fraction : literal.fraction = [] := by
      cases given : literal.fraction with
      | nil => rfl
      | cons digit rest =>
        simp only [number, exponent, given, List.isEmpty_cons, Bool.false_and, Bool.false_eq_true,
          if_false] at same
        split at same <;> cases same
    obtain ⟨within, whole⟩ := (number_of_plain fraction exponent size).mp same
    rw [wholeNumber] at whole
    split at whole
    · -- behind a minus sign there is no positive integer
      split at whole
      · cases whole
      · injection whole with negated
        omega
    next sign =>
      injection whole with value
      have value : size = literal.wholeValue := by omega
      exact ⟨by simpa using sign, fraction, exponent, value, value ▸ within⟩
  · rintro ⟨sign, fraction, exponent, rfl, within⟩
    refine (number_of_plain fraction exponent _).mpr ⟨within, ?_⟩
    rw [wholeNumber, sign]
    rfl

end Literal

end CustomProperties.Json
