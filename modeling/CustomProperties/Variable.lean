import CustomProperties.Tree

/-!
# Variables

A variable is a name and a value.  The name is kept without the two dashes that
a declaration puts in front of it.  Tables of variables are ordered by the first
occurrence of each name and hold the value that came last; `mergeVariables` lays
several lists of variables over one another in that way.
-/

namespace CustomProperties

set_option autoImplicit false

/-- The value of a variable. -/
structure Value where
  text : String
  /-- Whether the text is written as a string literal. -/
  quoted : Bool := false
  deriving DecidableEq, Repr

/-- Whether a value is written as a string literal: an empty one always is, so
that its declaration stays valid. -/
def Value.needsQuotes (value : Value) : Bool := value.quoted || value.text.isEmpty

/-- A value that is written as a string literal is quoted or empty. -/
theorem Value.needsQuotes_iff (value : Value) :
    value.needsQuotes = true ↔ value.quoted = true ∨ value.text = "" := by
  rw [needsQuotes, Bool.or_eq_true, String.isEmpty_iff]

/-- The value of a scalar. -/
def Value.ofScalar (scalar : Scalar) : Value := ⟨scalar.text, scalar.isQuoted⟩

/-- A named value. -/
abbrev Variable := Binding String Value

/-- Variables with distinct names. -/
abbrev VariableTable := Bindings String Value

/-- Lay lists of variables over one another: a name stays where it first occurs
and takes the value of its last occurrence. -/
def mergeVariables (lists : List (List Variable)) : List Variable :=
  (lists.foldl Bindings.extend (Bindings.empty : VariableTable)).toList

end CustomProperties
