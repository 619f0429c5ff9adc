import CustomProperties.IndexedBindings
import CustomProperties.Tree

/-!
# Trees with indexed branches

The branches of a tree can keep their children in bindings with an index.  The index takes no part
when such trees are compared: branches are equal if they have the same keys in the same order, with
equal subtrees.

Without its indexes it is a tree of variables (`IndexedTree.tree`).
-/

namespace CustomProperties

set_option autoImplicit false

/-- A tree of variables in which every branch has an index of its keys. -/
inductive IndexedTree where
  | leaf (scalar : Scalar)
  | branch (children : IndexedBindings String IndexedTree)
  | unsupported (kind : UnsupportedKind)

/-- The children of a branch, with an index of their keys. -/
abbrev IndexedMap := IndexedBindings String IndexedTree

namespace IndexedTree

/-! ## Equality -/

mutual
/-- Equality of indexed trees: the same keys in the same order, with equal subtrees. -/
def beq : IndexedTree → IndexedTree → Bool
  | .leaf first, .leaf second => first == second
  | .branch ⟨⟨first⟩, _⟩, .branch ⟨⟨second⟩, _⟩ => beqChildren first second
  | .unsupported first, .unsupported second => first == second
  | _, _ => false

/-- Equality of lists of children. -/
def beqChildren : List (Binding String IndexedTree) → List (Binding String IndexedTree) → Bool
  | [], [] => true
  | ⟨key, child⟩ :: rest, ⟨otherKey, other⟩ :: others =>
    key == otherKey && beq child other && beqChildren rest others
  | _, _ => false
end

instance : BEq IndexedTree := ⟨beq⟩

/-- Maps are equal if their arrays are. -/
instance : BEq IndexedMap :=
  ⟨fun first second => beqChildren first.entries.toList second.entries.toList⟩

/-! ## Without the indexes -/

mutual
/-- The tree that is left without the indexes. -/
def tree : IndexedTree → Tree
  | .leaf scalar => .leaf scalar
  | .branch ⟨⟨children⟩, _⟩ => .branch ⟨trees children⟩
  | .unsupported kind => .unsupported kind

/-- The children that are left without the indexes. -/
def trees : List (Binding String IndexedTree) → List (Binding String Tree)
  | [] => []
  | ⟨key, child⟩ :: rest => ⟨key, child.tree⟩ :: trees rest
end

/-- The indexes of children are left out one by one. -/
theorem trees_eq_map (children : List (Binding String IndexedTree)) :
    trees children = children.map (Binding.map tree) := by
  induction children with
  | nil => rfl
  | cons child rest ih =>
    rw [trees, ih, List.map_cons]
    rfl

/-- The children of a branch without the indexes. -/
def view (map : IndexedMap) : Bindings String Tree := ⟨trees map.entries.toList⟩

theorem tree_branch (map : IndexedMap) : (branch map).tree = .branch (view map) := rfl

theorem view_eq (map : IndexedMap) : view map = ⟨map.bindings.toList.map (Binding.map tree)⟩ :=
  congrArg Bindings.mk (trees_eq_map _)

mutual
/-- **Indexed trees are equal exactly if they are without the indexes.** -/
theorem beq_eq : ∀ first second : IndexedTree,
    first.beq second = first.tree.beq second.tree
  | .leaf _, .leaf _ => rfl
  | .leaf _, .branch _ => rfl
  | .leaf _, .unsupported _ => rfl
  | .branch _, .leaf _ => rfl
  | .branch ⟨⟨first⟩, _⟩, .branch ⟨⟨second⟩, _⟩ => beqChildren_eq first second
  | .branch _, .unsupported _ => rfl
  | .unsupported _, .leaf _ => rfl
  | .unsupported _, .branch _ => rfl
  | .unsupported _, .unsupported _ => rfl

theorem beqChildren_eq : ∀ first second : List (Binding String IndexedTree),
    beqChildren first second = Tree.beqChildren (trees first) (trees second)
  | [], [] => rfl
  | [], _ :: _ => rfl
  | _ :: _, [] => rfl
  | ⟨key, child⟩ :: rest, ⟨otherKey, other⟩ :: others => by
    rw [beqChildren, beq_eq child other, beqChildren_eq rest others]
    rfl
end

/-- Maps are equal exactly if the branches are without the indexes. -/
theorem beq_map_eq (first second : IndexedMap) :
    (first == second) = (Tree.branch (view first) == Tree.branch (view second)) :=
  beqChildren_eq _ _

end IndexedTree

end CustomProperties
