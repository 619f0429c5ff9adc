import CustomProperties.Proofs.StylesheetText
import CustomProperties.Proofs.TreePaths

/-!
# Depth limits

A tree is flattened under a depth limit.  What a node leaves under a limit, unless that is the
complaint that the node lies too deep, it leaves under every greater limit as well
(`recordAt?_withMaxDepth`), so a greater limit only reveals more (`records_sublist`).  And if no
branch lies at the limit, then there is nothing below it, and no greater limit makes a difference
(`records_eq_of_not_tooDeep`).

The main statement, `flatten_reveals_more`, says both of the variables and the problems of a tree,
and that a variable comes from a leaf within the limit.
-/

namespace CustomProperties

set_option autoImplicit false

/-! ## Complaints about depth -/

/-- Whether a problem is that a branch lies at the limit. -/
def Problem.isTooDeep (problem : Problem) : Bool :=
  match problem.kind with
  | .tooDeep _ => true
  | _ => false

namespace Record

/-- Whether a record is the problem of a branch that lies at the limit. -/
def isTooDeep : Record → Bool
  | .declared _ => false
  | .skipped problem => problem.isTooDeep

/-- No variable is lost with the complaints about depth. -/
theorem filterMap_declared?_filter (records : List Record) :
    (records.filter (!·.isTooDeep)).filterMap declared? = records.filterMap declared? := by
  rw [List.filterMap_filter]
  refine List.filterMap_congr ?_
  intro record _
  cases record with
  | declared property => rfl
  | skipped problem => cases problem.isTooDeep <;> simp [isTooDeep, declared?]

/-- The other problems are the problems of the other records. -/
theorem filterMap_skipped?_filter (records : List Record) :
    (records.filter (!·.isTooDeep)).filterMap skipped?
      = (records.filterMap skipped?).filter (!·.isTooDeep) := by
  rw [List.filterMap_filter, List.filter_filterMap]
  refine List.filterMap_congr ?_
  intro record _
  cases record with
  | declared property => rfl
  | skipped problem =>
    cases deep : problem.isTooDeep <;> simp [isTooDeep, skipped?, Option.filter_some, deep]

end Record

/-! ## Two limits -/

/-- What is made of members in more cases makes a longer list. -/
theorem filterMap_sublist_of_imp {α β : Type} {make more : α → Option β}
    (same : ∀ value made, make value = some made → more value = some made) (list : List α) :
    (list.filterMap make).Sublist (list.filterMap more) := by
  induction list with
  | nil => exact .slnil
  | cons value rest ih =>
    cases found : make value with
    | none =>
      rw [List.filterMap_cons_none found, List.filterMap_cons]
      split
      next => exact ih
      next made _ => exact ih.cons made
    | some made =>
      rw [List.filterMap_cons_some found, List.filterMap_cons_some (same value made found)]
      exact ih.cons_cons made

namespace Naming

/-- The same way to name leaves, under another depth limit. -/
def withMaxDepth (naming : Naming) (maxDepth : Nat) : Naming := { naming with maxDepth }

variable (naming : Naming) {low high : Nat}

theorem limit_withMaxDepth_le (le : low ≤ high) :
    (naming.withMaxDepth low).limit ≤ (naming.withMaxDepth high).limit := by
  simp only [limit, withMaxDepth]
  omega

/-- **What a node leaves it leaves under a greater limit as well**, unless it lies too deep. -/
theorem recordAt?_withMaxDepth (le : low ≤ high) {descendant : Descendant} {record : Record}
    (found : (naming.withMaxDepth low).recordAt? descendant = some record)
    (shallow : record.isTooDeep = false) :
    (naming.withMaxDepth high).recordAt? descendant = some record := by
  have limits := naming.limit_withMaxDepth_le le
  obtain ⟨path, node⟩ := descendant
  cases node with
  | leaf scalar =>
    by_cases visited : path.length ≤ (naming.withMaxDepth low).limit
    · rw [recordAt?_leaf _ path scalar visited] at found
      rw [recordAt?_leaf _ path scalar (Nat.le_trans visited limits), ← found]
      rfl
    · rw [recordAt?_of_limit_lt _ _ (Nat.lt_of_not_le visited)] at found
      cases found
  | unsupported kind =>
    simp only [recordAt?] at found ⊢
    split at found
    next visited => rw [if_pos (Nat.le_trans visited limits), ← found]
    next => cases found
  | branch children =>
    simp only [recordAt?] at found
    split at found
    next =>
      cases found
      cases shallow
    next => cases found

/-- **A greater limit only adds records**, apart from the complaints about depth. -/
theorem records_sublist (le : low ≤ high) (tree : Tree) :
    (((naming.withMaxDepth low).records tree).filter (!·.isTooDeep)).Sublist
      (((naming.withMaxDepth high).records tree).filter (!·.isTooDeep)) := by
  cases tree with
  | leaf scalar => exact .refl _
  | unsupported kind => exact .refl _
  | branch children =>
    rw [records_branch, records_branch, List.filter_filterMap, List.filter_filterMap]
    refine filterMap_sublist_of_imp ?_ _
    intro descendant record found
    obtain ⟨left, shallow⟩ := Option.filter_eq_some_iff.mp found
    refine Option.filter_eq_some_iff.mpr ⟨?_, shallow⟩
    exact naming.recordAt?_withMaxDepth le left (by simpa using shallow)

/-! ## Nothing at the limit -/

/-- If no branch lies at the limit, then branches lie above it, and nothing lies below it. -/
theorem length_path_of_not_tooDeep {children : Bindings String Tree}
    (shallow : ∀ record ∈ naming.records (.branch children), record.isTooDeep = false)
    {descendant : Descendant} (member : descendant ∈ (Tree.branch children).descendants) :
    descendant.path.length ≤ naming.limit ∧
      ((∃ below, descendant.node = .branch below) → descendant.path.length < naming.limit) := by
  have no_branch (path : List String) (below : Bindings String Tree)
      (present : ⟨path, .branch below⟩ ∈ (Tree.branch children).descendants) :
      path.length ≠ naming.limit := by
    intro deepest
    have left : Record.skipped ⟨dotted path, .tooDeep naming.limit⟩
        ∈ naming.records (.branch children) := by
      rw [records_branch]
      exact List.mem_filterMap.mpr ⟨_, present, if_pos deepest⟩
    cases shallow _ left
  have within : descendant.path.length ≤ naming.limit := by
    refine Nat.le_of_not_lt ?_
    intro deep
    obtain ⟨below, above⟩ := Tree.exists_branch_above (.branch children) descendant member
      naming.limit (Nat.le_max_right _ _) deep
    refine no_branch _ below above ?_
    rw [List.length_take]
    exact Nat.min_eq_left (Nat.le_of_lt deep)
  refine ⟨within, ?_⟩
  rintro ⟨below, node⟩
  refine Nat.lt_of_le_of_ne within (no_branch _ below ?_)
  rw [← node]
  exact member

/-- **Without complaints about depth, a greater limit makes no difference.** -/
theorem records_eq_of_not_tooDeep (le : low ≤ high) (tree : Tree)
    (shallow : ∀ record ∈ (naming.withMaxDepth low).records tree, record.isTooDeep = false) :
    (naming.withMaxDepth low).records tree = (naming.withMaxDepth high).records tree := by
  cases tree with
  | leaf scalar => rfl
  | unsupported kind => rfl
  | branch children =>
    have limits := naming.limit_withMaxDepth_le le
    rw [records_branch, records_branch]
    refine List.filterMap_congr ?_
    intro descendant member
    obtain ⟨within, inside⟩ := (naming.withMaxDepth low).length_path_of_not_tooDeep shallow member
    obtain ⟨path, node⟩ := descendant
    cases node with
    | leaf scalar =>
      rw [recordAt?_leaf _ path scalar within,
        recordAt?_leaf _ path scalar (Nat.le_trans within limits)]
      rfl
    | unsupported kind =>
      simp only [recordAt?, if_pos within, if_pos (Nat.le_trans within limits)]
    | branch below =>
      have above := inside ⟨below, rfl⟩
      simp only [recordAt?, if_neg (Nat.ne_of_lt above),
        if_neg (Nat.ne_of_lt (Nat.lt_of_lt_of_le above limits))]

/-! ## What flattening reveals -/

/-- **A greater depth limit only reveals more.**

The variables under a limit are among those under a greater one, in the same order, and so are the
problems other than that a branch lies at the limit.  A variable under a limit comes from a leaf
whose path is within it, and its name joins the keys of the path or all but the last of them.  If no
branch lies at a limit, then greater limits give the same variables and the same problems. -/
theorem flatten_reveals_more (separator : String) (selfKey : Option String) (tree : Tree)
    {low high : Nat} (positive : 1 ≤ low) (le : low ≤ high) :
    let narrow := ({ separator, selfKey, maxDepth := low } : Naming).flatten tree
    let wide := ({ separator, selfKey, maxDepth := high } : Naming).flatten tree
    narrow.declared.Sublist wide.declared ∧
    (narrow.problems.filter (!·.isTooDeep)).Sublist (wide.problems.filter (!·.isTooDeep)) ∧
    (∀ property ∈ narrow.declared, ∃ path segments scalar,
      ⟨path, .leaf scalar⟩ ∈ tree.descendants ∧ path.length ≤ low ∧
      segments <+: path ∧ segments.length ≤ low ∧
      property = ⟨separator.intercalate segments, .ofScalar scalar⟩) ∧
    ((∀ problem ∈ narrow.problems, problem.isTooDeep = false) → narrow = wide) := by
  intro narrow wide
  let naming : Naming := { separator, selfKey }
  have fewer := naming.records_sublist le tree
  refine ⟨?_, ?_, ?_, ?_⟩
  · have declared := fewer.filterMap Record.declared?
    rwa [Record.filterMap_declared?_filter, Record.filterMap_declared?_filter] at declared
  · have skipped := fewer.filterMap Record.skipped?
    rwa [Record.filterMap_skipped?_filter, Record.filterMap_skipped?_filter] at skipped
  · intro property member
    let request : ModuleRequest := { separator, selfKey }
    have listed : narrow.declared = _ := request.declared_flatten low tree
    rw [listed] at member
    obtain ⟨⟨path, node⟩, present, made⟩ := List.mem_filterMap.mp member
    obtain ⟨scalar, rfl, visited, _, rfl⟩ := (request.variableAt?_eq_some_iff low _ _).mp made
    rw [Nat.max_eq_left positive] at visited
    have front := (request.naming low).segments_prefix_path path
    exact ⟨path, _, scalar, present, visited, front, Nat.le_trans front.length_le visited, rfl⟩
  · intro shallow
    have same := naming.records_eq_of_not_tooDeep le tree ?_
    · exact congrArg (fun records =>
        (⟨records.filterMap Record.declared?, records.filterMap Record.skipped?⟩ : Flattened)) same
    · intro record member
      cases record with
      | declared property => rfl
      | skipped problem => exact shallow problem (List.mem_filterMap.mpr ⟨_, member, rfl⟩)

/-- A value of a branch at the limit, and a branch that lies there: the second one opens under the
greater limit. -/
theorem flatten_reveals_more_at_limit :
    let number (digit : Char) : Tree := .leaf (.plain (String.singleton digit))
    let tree : Tree := .branch ⟨[⟨"a", .branch ⟨[⟨"default", number '1'⟩,
      ⟨"b", .branch ⟨[⟨"c", number '2'⟩]⟩⟩, ⟨"d", .unsupported .null⟩]⟩⟩]⟩
    let naming : Naming := { separator := "-", selfKey := some "default" }
    let narrow := (naming.withMaxDepth 2).flatten tree
    let wide := (naming.withMaxDepth 3).flatten tree
    (1 ≤ 2 ∧ 2 ≤ 3) ∧
    narrow.declared.map Binding.name = ["a"] ∧ wide.declared.map Binding.name = ["a", "a-b-c"] ∧
    narrow.declared.Sublist wide.declared ∧
    narrow.problems = [⟨"a.b", .tooDeep 2⟩, ⟨"a.d", .unsupportedValue .null⟩] ∧
    (narrow.problems.filter (!·.isTooDeep)).Sublist (wide.problems.filter (!·.isTooDeep)) := by
  intro number tree naming narrow wide
  obtain ⟨declared, problems, _⟩ :=
    flatten_reveals_more "-" (some "default") tree (by decide : 1 ≤ 2) (by decide : 2 ≤ 3)
  exact ⟨by decide, by decide, by decide, declared, by decide, problems⟩

end Naming

end CustomProperties
