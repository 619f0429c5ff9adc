import CustomProperties.Proofs.StylesheetText
import CustomProperties.Proofs.TreePaths

/-!
# Names under a depth limit

The depth limit counts the keys on the way to a leaf.  The name of the leaf may join one key less,
since a self key at the end of the path is left out, and so the limit is not quite one on the length
of names.  The two counts part at a single place (`limit_lt_length_iff`): a leaf that lies deeper
than the limit although its name is short enough is the own value of a branch at the limit.  The
walk stops at this branch and complains about it (`tooDeep_mem_problems`), and the value is lost.

The main statement, `declared_eq_filter_nameable`, says that nothing else is: apart from the own
values of branches at the limit, the variables of a tree are those that its leaves would give if the
limit counted the segments of their names.
-/

namespace CustomProperties

set_option autoImplicit false

namespace Naming

variable (naming : Naming)

/-! ## Two ways to count -/

/-- Whether a path leads to the own value of a branch that lies at the limit. -/
def OwnValueAtLimit (path : List String) : Prop :=
  path.getLast? = naming.selfKey ∧ path.length = naming.limit + 1

instance : DecidablePred naming.OwnValueAtLimit := fun path =>
  inferInstanceAs (Decidable (path.getLast? = naming.selfKey ∧ path.length = naming.limit + 1))

theorem limit_pos : 0 < naming.limit := Nat.le_max_right naming.maxDepth 1

/-- **What lies deeper than the limit has too long a name**, or is the own value of a branch at the
limit. -/
theorem limit_lt_length_iff (path : List String) :
    naming.limit < path.length
      ↔ naming.limit < (naming.segments path).length ∨ naming.OwnValueAtLimit path := by
  have positive := naming.limit_pos
  rw [OwnValueAtLimit, segments]
  split
  next shortened =>
    rw [List.length_dropLast]
    constructor
    · intro deep
      by_cases next : path.length = naming.limit + 1
      · exact .inr ⟨shortened.1, next⟩
      · left
        omega
    · rintro (long | ⟨_, next⟩) <;> omega
  next =>
    constructor
    · exact .inl
    · rintro (deep | ⟨_, next⟩)
      · exact deep
      · omega

/-! ## Variables by the length of their names -/

/-- The variable that a leaf would give if the limit counted the segments of its name. -/
def nameable? (descendant : Descendant) : Option Variable :=
  match descendant.node with
  | .leaf scalar =>
    if naming.name descendant.path ≠ "" ∧
        (naming.segments descendant.path).length ≤ naming.limit then
      some ⟨naming.name descendant.path, .ofScalar scalar⟩
    else none
  | _ => none

/-- The request that names the leaves of its sources in a given way. -/
def request (naming : Naming) : ModuleRequest :=
  { separator := naming.separator, selfKey := naming.selfKey }

/-- **A leaf gives what its name promises**, unless it is the own value of a branch at the limit. -/
theorem variableAt?_eq_nameable? (descendant : Descendant) :
    naming.request.variableAt? naming.maxDepth descendant
      = if naming.OwnValueAtLimit descendant.path then none else naming.nameable? descendant := by
  obtain ⟨path, node⟩ := descendant
  cases node with
  | leaf scalar =>
    have counts := naming.limit_lt_length_iff path
    have produced : naming.request.variableAt? naming.maxDepth ⟨path, .leaf scalar⟩
        = if path.length ≤ naming.limit ∧ naming.name path ≠ "" then
            some ⟨naming.name path, .ofScalar scalar⟩
          else none := rfl
    rw [produced, nameable?]
    by_cases own : naming.OwnValueAtLimit path
    · have deep : ¬ path.length ≤ naming.limit := Nat.not_le.mpr (counts.mpr (.inr own))
      rw [if_pos own, if_neg fun both => deep both.1]
    · have same : path.length ≤ naming.limit ↔ (naming.segments path).length ≤ naming.limit := by
        rw [← Nat.not_lt, ← Nat.not_lt, counts, or_iff_left own]
      simp only [if_neg own, same, and_comm]
  | unsupported kind => exact (ite_self none).symm
  | branch children => exact (ite_self none).symm

/-- **The branch at the limit above a deeper node is complained about.** -/
theorem tooDeep_mem_problems {tree : Tree} {descendant : Descendant}
    (member : descendant ∈ tree.descendants) (deep : naming.limit < descendant.path.length) :
    ⟨dotted (descendant.path.take naming.limit), .tooDeep naming.limit⟩
      ∈ (naming.flatten tree).problems := by
  obtain ⟨below, root⟩ := Tree.exists_children_of_mem_descendants member
  obtain ⟨children, above⟩ :=
    tree.exists_branch_above descendant member naming.limit naming.limit_pos deep
  have atLimit : (descendant.path.take naming.limit).length = naming.limit := by
    rw [List.length_take]
    exact Nat.min_eq_left (Nat.le_of_lt deep)
  subst root
  rw [flatten, records_branch]
  refine List.mem_filterMap.mpr ⟨.skipped ⟨_, _⟩, List.mem_filterMap.mpr ⟨_, above, ?_⟩, rfl⟩
  exact if_pos atLimit

/-! ## What the limit takes away -/

/-- **A depth limit bounds the length of names, and takes away some own values besides.**

The variables of a tree are those of all leaves whose names are not empty and join no more segments
than the limit, each at its place and as often as it occurs, except that a branch at the limit does
not give its own value.  Such a branch is among the problems instead. -/
theorem declared_eq_filter_nameable (tree : Tree) :
    let found := naming.flatten tree
    found.declared
        = (tree.descendants.filter fun descendant =>
            ¬ naming.OwnValueAtLimit descendant.path).filterMap naming.nameable? ∧
    ∀ descendant ∈ tree.descendants, naming.OwnValueAtLimit descendant.path →
      ⟨dotted descendant.path.dropLast, .tooDeep naming.limit⟩ ∈ found.problems := by
  intro found
  constructor
  · have produced : found.declared = _ := naming.request.declared_flatten naming.maxDepth tree
    rw [produced, List.filterMap_filter]
    refine List.filterMap_congr ?_
    intro descendant _
    rw [variableAt?_eq_nameable?]
    by_cases own : naming.OwnValueAtLimit descendant.path <;> simp [own]
  · intro descendant member own
    have deep : naming.limit < descendant.path.length := by
      rw [own.2]
      exact Nat.lt_succ_self _
    have front : descendant.path.dropLast = descendant.path.take naming.limit := by
      rw [List.dropLast_eq_take, own.2, Nat.add_sub_cancel]
    rw [front]
    exact naming.tooDeep_mem_problems member deep

/-- With room for one key, the own value of a branch at the root is lost, although its name is the
key of this branch alone. -/
theorem own_value_lost_at_limit :
    let tree : Tree := .branch ⟨[⟨"a", .branch ⟨[⟨"default", .leaf (.plain "x")⟩]⟩⟩]⟩
    let naming : Naming := { separator := "-", selfKey := some "default", maxDepth := 1 }
    naming.flatten tree = ⟨[], [⟨"a", .tooDeep 1⟩]⟩ ∧
    ¬ ∀ path scalar, ⟨path, .leaf scalar⟩ ∈ tree.descendants → naming.name path ≠ "" →
        (naming.segments path).length ≤ naming.maxDepth →
          ⟨naming.name path, .ofScalar scalar⟩ ∈ (naming.flatten tree).declared := by
  intro tree naming
  have lost : naming.flatten tree = ⟨[], [⟨"a", .tooDeep 1⟩]⟩ := by decide
  refine ⟨lost, ?_⟩
  intro promised
  have present : (⟨["a", "default"], .leaf (.plain "x")⟩ : Descendant) ∈ tree.descendants :=
    List.mem_cons_of_mem _ List.mem_cons_self
  have declared := promised ["a", "default"] (.plain "x") present (by decide) (by decide)
  rw [lost] at declared
  cases declared

end Naming

end CustomProperties
