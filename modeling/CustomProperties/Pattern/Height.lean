/-!
# The height of a pattern

Groups, repetitions, sets and everything of several parts raise a pattern above its
parts by one.  Atoms have no height.  A pattern that is too high is not used.
-/

namespace CustomProperties.Pattern

set_option autoImplicit false

/-- The greatest height of a pattern. -/
def heightLimit : Nat := 250

/-- The greatest of several heights. -/
def highest (heights : List Nat) : Nat := heights.foldl max 0

/-- The height of parts side by side, or of alternatives.  A single one stands for
itself. -/
def jointHeight (heights : List Nat) : Nat :=
  match heights with
  | [] => 0
  | [height] => height
  | heights => highest heights + 1

end CustomProperties.Pattern
