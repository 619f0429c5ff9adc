import CustomProperties.Flattening

/-!
# The nodes below a root

A tree is flattened by a walk that carries the path walked so far and stops at the
depth limit.  Here the walk is compared with a description that knows neither: the
list of all nodes below the root in document order (`Tree.descendants`), each with
the keys on the way to it, and for one such node, seen by itself, the record that
it leaves (`Naming.recordAt?`).

The records of a tree are the records of its descendants, one after another
(`records_branch`).  So what becomes of a node depends on the node and its path
alone, and nothing is dropped without a record: a scalar or an unsupported value
leaves one exactly if its path is within the limit, a branch exactly if its path
has the length of the limit (`isSome_recordAt?_iff`).  The main statement,
`flatten_accounts`, says this of the variables and of the problems that flattening
returns.
-/

namespace CustomProperties

set_option autoImplicit false

/-! ## Descendants -/

/-- A node below the root of a tree, with the keys on the way to it. -/
structure Descendant where
  path : List String
  node : Tree

namespace Descendant

/-- The descendant as it is seen from further up, where a path leads to its root. -/
def below (path : List String) (descendant : Descendant) : Descendant :=
  ⟨path ++ descendant.path, descendant.node⟩

@[simp] theorem below_mk (path keys : List String) (node : Tree) :
    below path ⟨keys, node⟩ = ⟨path ++ keys, node⟩ := rfl

theorem below_below (first second : List String) (descendant : Descendant) :
    below first (below second descendant) = below (first ++ second) descendant := by
  simp only [below, List.append_assoc]

end Descendant

namespace Tree

mutual
/-- **The nodes below the root in document order**: a child stands before the nodes
below it, and these stand before its later siblings. -/
def descendants : Tree → List Descendant
  | .leaf _ => []
  | .unsupported _ => []
  | .branch ⟨children⟩ => descendantsOf children

/-- The children of a branch, each followed by the nodes below it. -/
def descendantsOf : List (Binding String Tree) → List Descendant
  | [] => []
  | ⟨key, child⟩ :: rest =>
    ⟨[key], child⟩ :: child.descendants.map (Descendant.below [key]) ++ descendantsOf rest
end

/-- A descendant is not the root. -/
theorem path_ne_nil_of_mem_descendants : ∀ (tree : Tree),
    ∀ descendant ∈ tree.descendants, descendant.path ≠ []
  | .leaf _, _, member => by simp only [descendants, List.not_mem_nil] at member
  | .unsupported _, _, member => by simp only [descendants, List.not_mem_nil] at member
  | .branch ⟨children⟩, descendant, member => by
    rw [descendants] at member
    induction children with
    | nil => simp only [descendantsOf, List.not_mem_nil] at member
    | cons binding rest ih =>
      simp only [descendantsOf, List.cons_append, List.mem_cons, List.mem_append,
        List.mem_map] at member
      rcases member with rfl | ⟨inner, _, rfl⟩ | member
      · exact List.cons_ne_nil _ _
      · exact List.cons_ne_nil _ _
      · exact ih member

end Tree

/-! ## The record of one descendant -/

namespace Naming

/-- The record that a descendant leaves, if it leaves one. -/
def recordAt? (naming : Naming) (descendant : Descendant) : Option Record :=
  match descendant.node with
  | .leaf scalar =>
    if descendant.path.length ≤ naming.limit then
      if naming.name descendant.path = "" then
        some (.skipped ⟨dotted descendant.path, .emptyName⟩)
      else some (.declared ⟨naming.name descendant.path, .ofScalar scalar⟩)
    else none
  | .unsupported kind =>
    if descendant.path.length ≤ naming.limit then
      some (.skipped ⟨dotted descendant.path, .unsupportedValue kind⟩)
    else none
  | .branch _ =>
    if descendant.path.length = naming.limit then
      some (.skipped ⟨dotted descendant.path, .tooDeep naming.limit⟩)
    else none

/-- Whether a descendant has to leave a record: a branch if it lies at the depth
limit, anything else if it does not lie deeper. -/
def Accountable (naming : Naming) (descendant : Descendant) : Prop :=
  match descendant.node with
  | .branch _ => descendant.path.length = naming.limit
  | _ => descendant.path.length ≤ naming.limit

instance (naming : Naming) : DecidablePred naming.Accountable := fun descendant =>
  match descendant with
  | ⟨path, .branch _⟩ => inferInstanceAs (Decidable (path.length = naming.limit))
  | ⟨path, .leaf _⟩ => inferInstanceAs (Decidable (path.length ≤ naming.limit))
  | ⟨path, .unsupported _⟩ => inferInstanceAs (Decidable (path.length ≤ naming.limit))

/-- **Exactly the accountable descendants leave a record.** -/
theorem isSome_recordAt?_iff (naming : Naming) (descendant : Descendant) :
    (naming.recordAt? descendant).isSome ↔ naming.Accountable descendant := by
  obtain ⟨path, node⟩ := descendant
  cases node with
  | leaf scalar =>
    simp only [recordAt?, Accountable]
    split
    next visited =>
      split <;> exact iff_of_true rfl visited
    next deep => exact iff_of_false Bool.false_ne_true deep
  | unsupported kind => simp only [recordAt?, Accountable, Option.isSome_ite]
  | branch children => simp only [recordAt?, Accountable, Option.isSome_ite]

/-- What lies deeper than the limit leaves no record. -/
theorem recordAt?_of_limit_lt (naming : Naming) (descendant : Descendant)
    (deep : naming.limit < descendant.path.length) : naming.recordAt? descendant = none := by
  obtain ⟨path, node⟩ := descendant
  cases node with
  | leaf scalar => exact if_neg (Nat.not_le.mpr deep)
  | unsupported kind => exact if_neg (Nat.not_le.mpr deep)
  | branch children => exact if_neg (Nat.ne_of_gt deep)

/-- Nothing below a node that lies at the limit leaves a record. -/
theorem filterMap_recordAt?_below_limit (naming : Naming) (path : List String) (tree : Tree)
    (deepest : naming.limit ≤ path.length) :
    tree.descendants.filterMap (fun descendant => naming.recordAt? (descendant.below path))
      = [] := by
  refine List.filterMap_eq_nil_iff.mpr fun descendant member => ?_
  have further : 0 < descendant.path.length :=
    List.length_pos_iff.mpr (tree.path_ne_nil_of_mem_descendants descendant member)
  refine recordAt?_of_limit_lt naming _ ?_
  simp only [Descendant.below, List.length_append]
  omega

/-- The record of a leaf within the limit. -/
theorem recordAt?_leaf (naming : Naming) (path : List String) (scalar : Scalar)
    (visited : path.length ≤ naming.limit) :
    naming.recordAt? ⟨path, .leaf scalar⟩ = some (naming.leafRecord path scalar) := by
  simp only [recordAt?, leafRecord, if_pos visited, String.isEmpty_iff]
  split <;> rfl

/-- A leaf declares a variable unless its name is empty. -/
theorem declared?_leafRecord (naming : Naming) (path : List String) (scalar : Scalar) :
    (naming.leafRecord path scalar).declared?
      = if naming.name path = "" then none else some ⟨naming.name path, .ofScalar scalar⟩ := by
  simp only [leafRecord, String.isEmpty_iff]
  split <;> rfl

/-! ## The walk -/

-- The walk is at a subtree only if its path is within the limit; that is what both
-- halves of the induction carry, the second one for the paths of the children.
mutual
/-- The walk through a subtree meets its root and then the nodes below it. -/
theorem subtreeRecords_eq (naming : Naming) : ∀ (path : List String) (tree : Tree),
    path.length ≤ naming.limit →
      naming.subtreeRecords path tree
        = (naming.recordAt? ⟨path, tree⟩).toList
          ++ tree.descendants.filterMap fun descendant =>
              naming.recordAt? (descendant.below path)
  | path, .leaf scalar, visited => by
    rw [recordAt?_leaf naming path scalar visited]
    rfl
  | path, .unsupported kind, visited => by
    simp only [subtreeRecords, recordAt?, if_pos visited]
    rfl
  | path, .branch ⟨children⟩, visited => by
    by_cases inside : path.length < naming.limit
    · have shallow : ¬ naming.limit < path.length + 1 := Nat.not_lt.mpr inside
      simp only [subtreeRecords, recordAt?, if_neg shallow, if_neg (Nat.ne_of_lt inside)]
      exact childRecords_eq naming path children inside
    · -- the walk stops here, and all that is left out below lies too deep for a record
      have deepest : path.length = naming.limit :=
        Nat.le_antisymm visited (Nat.not_lt.mp inside)
      rw [filterMap_recordAt?_below_limit naming path _ (Nat.le_of_eq deepest.symm)]
      simp only [subtreeRecords, recordAt?, deepest, Nat.lt_succ_self, if_true]
      rfl

/-- The walk through the children of a branch meets each of them and what is below it. -/
theorem childRecords_eq (naming : Naming) : ∀ (path : List String)
    (children : List (Binding String Tree)), path.length < naming.limit →
      naming.childRecords path children
        = (Tree.descendantsOf children).filterMap fun descendant =>
            naming.recordAt? (descendant.below path)
  | _, [], _ => rfl
  | path, ⟨key, child⟩ :: rest, inside => by
    have visited : (path ++ [key]).length ≤ naming.limit := by
      simpa only [List.length_append, List.length_singleton, Nat.add_one_le_iff] using inside
    have here := subtreeRecords_eq naming (path ++ [key]) child visited
    have there := childRecords_eq naming path rest inside
    rw [childRecords, here, there]
    simp only [Tree.descendantsOf, List.cons_append, List.filterMap_cons, List.filterMap_append,
      List.filterMap_map, Function.comp_def, Descendant.below_below, Descendant.below_mk]
    cases naming.recordAt? ⟨path ++ [key], child⟩ <;> rfl
end

/-- **The records of a branch at the root are those of its descendants**, in document
order. -/
theorem records_branch (naming : Naming) (children : Bindings String Tree) :
    naming.records (.branch children)
      = (Tree.branch children).descendants.filterMap naming.recordAt? := by
  obtain ⟨children⟩ := children
  exact childRecords_eq naming [] children (Nat.le_max_right naming.maxDepth 1)

/-- An empty branch leaves a record at the limit, and none above it. -/
example : ({ maxDepth := 2 } : Naming).records
    (.branch ⟨[⟨"a", .branch ⟨[⟨"b", .branch ⟨[]⟩⟩]⟩⟩, ⟨"c", .branch ⟨[]⟩⟩]⟩)
      = [.skipped ⟨"a.b", .tooDeep 2⟩] := by decide

end Naming

/-! ## Variables and problems -/

namespace Record

/-- Every record is a variable or a problem. -/
theorem length_declared_add_length_skipped (records : List Record) :
    (records.filterMap declared?).length + (records.filterMap skipped?).length
      = records.length := by
  induction records with
  | nil => rfl
  | cons record rest ih =>
    cases record with
    | declared property =>
      simp only [List.filterMap_cons, declared?, skipped?, List.length_cons]
      omega
    | skipped problem =>
      simp only [List.filterMap_cons, declared?, skipped?, List.length_cons]
      omega

end Record

namespace Naming

/-- **Flattening drops nothing silently.**  Every accountable descendant of a branch
leaves its record, no other one does, and the variables and the problems are these
records in document order; a root that is no branch leaves one problem. -/
theorem flatten_accounts (naming : Naming) :
    (∀ children : Bindings String Tree,
      let found := naming.flatten (.branch children)
      let descendants := (Tree.branch children).descendants
      found.declared = (descendants.filterMap naming.recordAt?).filterMap Record.declared? ∧
      found.problems = (descendants.filterMap naming.recordAt?).filterMap Record.skipped? ∧
      (∀ descendant,
        (naming.recordAt? descendant).isSome ↔ naming.Accountable descendant) ∧
      found.declared.length + found.problems.length
        = descendants.countP fun descendant => naming.Accountable descendant) ∧
    (∀ scalar : Scalar, naming.flatten (.leaf scalar) = ⟨[], [⟨"", .rootNotBranch⟩]⟩) ∧
    (∀ kind : UnsupportedKind,
      naming.flatten (.unsupported kind) = ⟨[], [⟨"", .rootNotBranch⟩]⟩) := by
  refine ⟨fun children => ?_, fun _ => rfl, fun _ => rfl⟩
  have records := naming.records_branch children
  refine ⟨congrArg _ records, congrArg _ records, naming.isSome_recordAt?_iff, ?_⟩
  calc ((naming.records (.branch children)).filterMap Record.declared?).length
        + ((naming.records (.branch children)).filterMap Record.skipped?).length
      = ((Tree.branch children).descendants.filterMap naming.recordAt?).length := by
        rw [Record.length_declared_add_length_skipped, records]
    _ = (Tree.branch children).descendants.countP
          fun descendant => naming.Accountable descendant := by
        rw [List.length_filterMap_eq_countP]
        refine List.countP_congr fun descendant _ => ?_
        simpa only [decide_eq_true_eq] using naming.isSome_recordAt?_iff descendant

end Naming

end CustomProperties
