import CustomProperties.Proofs.Descendants

/-!
# The paths of a tree

The nodes below the root of a tree are given with the keys on the way to them.  Here they are
described child by child (`descendantsOf_eq_flatMap`), so that statements about them are proved by
induction on the tree through the children of each branch (`Tree.induct`).

Two things follow.  Above every node there is a branch at each smaller depth
(`exists_branch_above`), so a tree without branch at some depth has nothing below that depth.  And
in a tree that binds no key twice in one branch (`Tree.KeysDistinct`), no path to a leaf is the
beginning of the path to another one (`pairwise_apart`).

The keys that make up the name of a leaf begin the path to it (`segments_prefix_path`).
-/

namespace CustomProperties

set_option autoImplicit false

namespace Tree

/-! ## Induction -/

mutual
/-- What holds of a branch if it holds of its children holds of every tree. -/
@[elab_as_elim]
theorem induct {motive : Tree → Prop} (leaf : ∀ scalar, motive (.leaf scalar))
    (unsupported : ∀ kind, motive (.unsupported kind))
    (branch : ∀ children : List (Binding String Tree),
      (∀ child ∈ children, motive child.value) → motive (.branch ⟨children⟩)) :
    ∀ tree, motive tree
  | .leaf scalar => leaf scalar
  | .unsupported kind => unsupported kind
  | .branch ⟨children⟩ => branch children (induct_children leaf unsupported branch children)

theorem induct_children {motive : Tree → Prop} (leaf : ∀ scalar, motive (.leaf scalar))
    (unsupported : ∀ kind, motive (.unsupported kind))
    (branch : ∀ children : List (Binding String Tree),
      (∀ child ∈ children, motive child.value) → motive (.branch ⟨children⟩)) :
    ∀ children : List (Binding String Tree), ∀ child ∈ children, motive child.value
  | [], _, member => absurd member List.not_mem_nil
  | ⟨_, _⟩ :: rest, child, member => by
    rcases List.mem_cons.mp member with rfl | later
    · exact induct leaf unsupported branch _
    · exact induct_children leaf unsupported branch rest child later
end

/-! ## Child by child -/

/-- A child of a branch, and then the nodes below it. -/
def household (child : Binding String Tree) : List Descendant :=
  ⟨[child.name], child.value⟩ :: child.value.descendants.map (Descendant.below [child.name])

theorem descendantsOf_eq_flatMap (children : List (Binding String Tree)) :
    descendantsOf children = children.flatMap household := by
  induction children with
  | nil => rfl
  | cons child rest ih => rw [descendantsOf, ih, List.flatMap_cons, household]

theorem descendants_branch (children : List (Binding String Tree)) :
    (Tree.branch ⟨children⟩).descendants = children.flatMap household := by
  rw [descendants, descendantsOf_eq_flatMap]

/-- The path to a node begins with the key of its household. -/
theorem exists_path_of_mem_household {child : Binding String Tree} {descendant : Descendant}
    (member : descendant ∈ household child) : ∃ keys, descendant.path = child.name :: keys := by
  rcases List.mem_cons.mp member with rfl | member
  · exact ⟨[], rfl⟩
  · obtain ⟨inner, _, rfl⟩ := List.mem_map.mp member
    exact ⟨inner.path, rfl⟩

/-! ## Branches above a node -/

/-- A tree with nodes below its root is a branch. -/
theorem exists_children_of_mem_descendants {tree : Tree} {descendant : Descendant}
    (member : descendant ∈ tree.descendants) : ∃ children, tree = .branch children := by
  cases tree with
  | leaf scalar => simp only [descendants, List.not_mem_nil] at member
  | unsupported kind => simp only [descendants, List.not_mem_nil] at member
  | branch children => exact ⟨children, rfl⟩

/-- **Above every node there is a branch at each smaller depth.** -/
theorem exists_branch_above (tree : Tree) : ∀ descendant ∈ tree.descendants, ∀ depth,
    0 < depth → depth < descendant.path.length →
      ∃ children, ⟨descendant.path.take depth, .branch children⟩ ∈ tree.descendants := by
  induction tree using induct with
  | leaf scalar =>
    intro descendant member
    simp only [descendants, List.not_mem_nil] at member
  | unsupported kind =>
    intro descendant member
    simp only [descendants, List.not_mem_nil] at member
  | branch children ih =>
    intro descendant member depth positive above
    rw [descendants_branch] at member ⊢
    obtain ⟨child, present, member⟩ := List.mem_flatMap.mp member
    rcases List.mem_cons.mp member with rfl | member
    · rw [List.length_singleton] at above
      omega
    obtain ⟨inner, below, rfl⟩ := List.mem_map.mp member
    cases depth with
    | zero => exact absurd positive (Nat.lt_irrefl 0)
    | succ depth =>
      rcases Nat.eq_zero_or_pos depth with rfl | deeper
      · -- the child itself is a branch, since there is something below it
        obtain ⟨grandchildren, holds⟩ := exists_children_of_mem_descendants below
        refine ⟨grandchildren, List.mem_flatMap.mpr ⟨child, present, ?_⟩⟩
        rw [← holds]
        exact List.mem_cons_self
      · have shorter : depth < inner.path.length := Nat.lt_of_succ_lt_succ above
        obtain ⟨grandchildren, found⟩ := ih child present inner below depth deeper shorter
        refine ⟨grandchildren, List.mem_flatMap.mpr ⟨child, present, ?_⟩⟩
        exact List.mem_cons_of_mem _ (List.mem_map_of_mem found)

/-! ## Distinct keys -/

/-- No branch of a tree binds a key twice. -/
inductive KeysDistinct : Tree → Prop where
  | leaf (scalar : Scalar) : KeysDistinct (.leaf scalar)
  | unsupported (kind : UnsupportedKind) : KeysDistinct (.unsupported kind)
  | branch {children : List (Binding String Tree)}
      (distinct : (children.map Binding.name).Nodup)
      (below : ∀ child ∈ children, KeysDistinct child.value) :
      KeysDistinct (.branch ⟨children⟩)

@[simp]
theorem keysDistinct_leaf (scalar : Scalar) : (Tree.leaf scalar).KeysDistinct := .leaf scalar

@[simp]
theorem keysDistinct_branch_iff (children : List (Binding String Tree)) :
    (Tree.branch ⟨children⟩).KeysDistinct
      ↔ (children.map Binding.name).Nodup ∧ ∀ child ∈ children, child.value.KeysDistinct := by
  constructor
  · intro keys
    cases keys with
    | branch distinct below => exact ⟨distinct, below⟩
  · rintro ⟨distinct, below⟩
    exact .branch distinct below

end Tree

namespace Descendant

/-- A descendant that is a leaf. -/
def IsLeaf (descendant : Descendant) : Prop := ∃ scalar, descendant.node = .leaf scalar

/-- Neither path is the beginning of the other one. -/
def Apart (first second : Descendant) : Prop :=
  ¬ first.path <+: second.path ∧ ¬ second.path <+: first.path

theorem Apart.below {first second : Descendant} (apart : Apart first second) (key : String) :
    Apart (first.below [key]) (second.below [key]) := by
  constructor
  · intro front
    exact apart.1 (List.cons_prefix_cons.mp front).2
  · intro front
    exact apart.2 (List.cons_prefix_cons.mp front).2

/-- Paths that begin with different keys are apart. -/
theorem apart_of_mem_household {child other : Binding String Tree} {first second : Descendant}
    (differ : child.name ≠ other.name) (member : first ∈ Tree.household child)
    (member' : second ∈ Tree.household other) : Apart first second := by
  obtain ⟨keys, path⟩ := Tree.exists_path_of_mem_household member
  obtain ⟨keys', path'⟩ := Tree.exists_path_of_mem_household member'
  rw [Apart, path, path', List.cons_prefix_cons, List.cons_prefix_cons]
  exact ⟨fun front => differ front.1, fun front => differ front.1.symm⟩

end Descendant

open Descendant in
/-- **The paths to any two leaves are apart** if no branch binds a key twice. -/
theorem Tree.KeysDistinct.pairwise_apart {tree : Tree} (keys : tree.KeysDistinct) :
    tree.descendants.Pairwise fun first second =>
      first.IsLeaf → second.IsLeaf → Apart first second := by
  induction keys with
  | leaf scalar => exact .nil
  | unsupported kind => exact .nil
  | @branch children distinct below ih =>
    rw [descendants_branch, List.pairwise_flatMap]
    constructor
    · intro child present
      refine List.pairwise_cons.mpr ⟨?_, ?_⟩
      · -- there is nothing below a child that is a leaf
        rintro second member ⟨scalar, leaf⟩
        obtain ⟨inner, found, _⟩ := List.mem_map.mp member
        obtain ⟨grandchildren, holds⟩ := exists_children_of_mem_descendants found
        cases leaf.symm.trans holds
      · refine List.pairwise_map.mpr ((ih child present).imp ?_)
        intro first second apart leaf leaf'
        exact (apart leaf leaf').below child.name
    · refine (List.pairwise_map.mp distinct).imp ?_
      intro child other differ first member second member' _ _
      exact apart_of_mem_household differ member member'

/-! ## Segments of a path -/

namespace Naming

variable (naming : Naming)

/-- The keys of a name begin the path. -/
theorem segments_prefix_path (path : List String) : naming.segments path <+: path := by
  rw [segments]
  split
  · exact List.dropLast_prefix path
  · exact List.prefix_refl path

theorem segments_ne_nil {path : List String} (some_key : path ≠ []) :
    naming.segments path ≠ [] := by
  rw [segments]
  split
  next shortened =>
    rw [ne_eq, ← List.length_eq_zero_iff, List.length_dropLast]
    omega
  next => exact some_key

end Naming

end CustomProperties
