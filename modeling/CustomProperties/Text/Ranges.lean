/-!
# Ranges of code points

A property of characters that no rule describes is given as a table: the code points
that have it, as ranges with both ends included, in ascending order.
-/

namespace CustomProperties.Text

set_option autoImplicit false

/-- The code points of a property, as ranges in ascending order. -/
abbrev CodeRanges := List (Nat × Nat)

/-- Whether a character has the property that a table gives. -/
def CodeRanges.has (ranges : CodeRanges) (char : Char) : Bool :=
  ranges.any fun range => range.1 ≤ char.toNat && char.toNat ≤ range.2

/-- **A character has the property exactly if one of the ranges holds it.** -/
theorem CodeRanges.has_iff (ranges : CodeRanges) (char : Char) :
    ranges.has char = true ↔ ∃ range ∈ ranges, range.1 ≤ char.toNat ∧ char.toNat ≤ range.2 := by
  simp [has]

end CustomProperties.Text
