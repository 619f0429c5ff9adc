import CustomProperties.Json.Basic

/-!
# Trees of variables

The variables of a stylesheet are given as a tree: branches bind keys to subtrees
in a fixed order, and the leaves are scalars.  What is neither a mapping nor a
scalar is kept as an unsupported node, so that a tree can be made from every JSON
value (`Tree.ofJson`) and the misfit is reported where it stands, beside its
sound neighbours.
-/

namespace CustomProperties

set_option autoImplicit false

/-! ## Scalars -/

/-- The value at a leaf. -/
inductive Scalar where
  /-- Text that is written as it is. -/
  | plain (text : String)
  /-- Text that is written as a string literal. -/
  | quoted (text : String)
  | number (value : Number)
  | bool (value : Bool)
  deriving Repr

namespace Scalar

/-- The text of a scalar. -/
def text : Scalar → String
  | .plain text => text
  | .quoted text => text
  | .number value => value.text
  | .bool true => "true"
  | .bool false => "false"

/-- Whether the text is to be written as a string literal. -/
def isQuoted : Scalar → Bool
  | .quoted _ => true
  | _ => false

/-- Equality of scalars: of the same kind and of equal content. -/
def beq : Scalar → Scalar → Bool
  | .plain first, .plain second => first == second
  | .quoted first, .quoted second => first == second
  | .number first, .number second => first == second
  | .bool first, .bool second => first == second
  | _, _ => false

instance : BEq Scalar := ⟨beq⟩

end Scalar

/-! ## Trees -/

/-- The kinds of value that no variable can have. -/
inductive UnsupportedKind where
  | null
  | array
  deriving DecidableEq, Repr

/-- The name of a kind. -/
def UnsupportedKind.name : UnsupportedKind → String
  | .null => "null"
  | .array => "array"

/-- A tree of variables. -/
inductive Tree where
  | leaf (scalar : Scalar)
  | branch (children : Bindings String Tree)
  | unsupported (kind : UnsupportedKind)
  deriving Repr

namespace Tree

/-- A leaf whose text is written as a string literal. -/
def quoted (text : String) : Tree := .leaf (.quoted text)

/-- The children of a branch. -/
def children? : Tree → Option (Bindings String Tree)
  | .branch children => some children
  | _ => none

mutual
/-- Equality of trees: the same keys in the same order, with equal subtrees. -/
def beq : Tree → Tree → Bool
  | .leaf first, .leaf second => first == second
  | .branch ⟨first⟩, .branch ⟨second⟩ => beqChildren first second
  | .unsupported first, .unsupported second => first == second
  | _, _ => false

/-- Equality of lists of children. -/
def beqChildren : List (Binding String Tree) → List (Binding String Tree) → Bool
  | [], [] => true
  | ⟨key, child⟩ :: rest, ⟨otherKey, other⟩ :: others =>
    key == otherKey && beq child other && beqChildren rest others
  | _, _ => false
end

instance : BEq Tree := ⟨beq⟩

/-! ## From JSON -/

mutual
/-- The tree of a JSON value: objects are branches, strings, numbers and booleans
are leaves, and the rest is unsupported. -/
def ofJson : Json → Tree
  | .null => .unsupported .null
  | .bool value => .leaf (.bool value)
  | .number value => .leaf (.number value)
  | .string text => .leaf (.plain text)
  | .array _ => .unsupported .array
  | .object ⟨members⟩ => .branch ⟨ofMembers members⟩

/-- The children that the members of an object make. -/
def ofMembers : List (Binding String Json) → List (Binding String Tree)
  | [] => []
  | ⟨name, value⟩ :: rest => ⟨name, ofJson value⟩ :: ofMembers rest
end

/-- Members become children one by one. -/
theorem ofMembers_eq_map (members : List (Binding String Json)) :
    ofMembers members = members.map fun member => ⟨member.name, ofJson member.value⟩ := by
  induction members with
  | nil => rfl
  | cons member rest ih => rw [ofMembers, ih, List.map_cons]

end Tree

end CustomProperties
