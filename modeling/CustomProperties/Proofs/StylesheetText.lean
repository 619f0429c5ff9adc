import CustomProperties.Compilation
import CustomProperties.Proofs.Descendants
import CustomProperties.Proofs.Overlay

/-!
# What a stylesheet declares

The text of a stylesheet is described from the leaves of the sources alone.  A leaf
produces a variable if the path to it is within the depth limit and its keys join to
a name that is not empty (`ModuleRequest.variableAt?`); the sources produce the
variables of their leaves in turn (`ModuleRequest.produced`).  A built stylesheet is
the rule block that declares the overlay of these variables, each name at the place
of the first leaf that produced it and with the value of the last one, and has no
text if the overlay is empty (`build_eq_ruleBlock`).
-/

namespace CustomProperties

set_option autoImplicit false

namespace ModuleRequest

/-- The name of the leaf at a path: the keys joined by the separator, of which the
last is left out if it is the self key and not the only one. -/
def leafName (request : ModuleRequest) (path : List String) : String :=
  request.separator.intercalate
    (if path.getLast? = request.selfKey ∧ 1 < path.length then path.dropLast else path)

/-- The variable that a node below the root of a source produces: a leaf does if the path
to it is within the depth limit and its name is not empty. -/
def variableAt? (request : ModuleRequest) (maxDepth : Nat) (descendant : Descendant) :
    Option Variable :=
  match descendant.node with
  | .leaf scalar =>
    if descendant.path.length ≤ max maxDepth 1 ∧ request.leafName descendant.path ≠ "" then
      some ⟨request.leafName descendant.path, ⟨scalar.text, scalar.isQuoted⟩⟩
    else none
  | _ => none

/-- Variables come from leaves within the limit, and bear the names of these. -/
theorem variableAt?_eq_some_iff (request : ModuleRequest) (maxDepth : Nat)
    (descendant : Descendant) (property : Variable) :
    request.variableAt? maxDepth descendant = some property
      ↔ ∃ scalar, descendant.node = .leaf scalar ∧ descendant.path.length ≤ max maxDepth 1 ∧
          request.leafName descendant.path ≠ "" ∧
          property = ⟨request.leafName descendant.path, .ofScalar scalar⟩ := by
  obtain ⟨path, node⟩ := descendant
  cases node with
  | leaf scalar =>
    by_cases produces : path.length ≤ max maxDepth 1 ∧ request.leafName path ≠ ""
    · have made : request.variableAt? maxDepth ⟨path, .leaf scalar⟩
          = some ⟨request.leafName path, .ofScalar scalar⟩ := if_pos produces
      rw [made, Option.some.injEq]
      constructor
      · rintro rfl
        exact ⟨scalar, rfl, produces.1, produces.2, rfl⟩
      · rintro ⟨_, same, _, _, rfl⟩
        cases same
        rfl
    · have made : request.variableAt? maxDepth ⟨path, .leaf scalar⟩ = none := if_neg produces
      rw [made]
      constructor
      · intro impossible
        cases impossible
      · rintro ⟨_, _, visited, named, _⟩
        exact absurd ⟨visited, named⟩ produces
  | unsupported kind => simp [variableAt?]
  | branch children => simp [variableAt?]

/-- The variables that the leaves of the sources produce, source by source and each in
document order. -/
def produced (request : ModuleRequest) (maxDepth : Nat) : List Variable :=
  request.sources.flatMap fun source =>
    source.descendants.filterMap (request.variableAt? maxDepth)

/-! ## Flattened sources -/

/-- The name that the walk gives to a leaf is the one described. -/
theorem name_naming (request : ModuleRequest) (maxDepth : Nat) (path : List String) :
    (request.naming maxDepth).name path = request.leafName path := rfl

/-- A descendant produces the variable of its record. -/
theorem bind_declared?_recordAt? (request : ModuleRequest) (maxDepth : Nat)
    (descendant : Descendant) :
    ((request.naming maxDepth).recordAt? descendant).bind Record.declared?
      = request.variableAt? maxDepth descendant := by
  obtain ⟨path, node⟩ := descendant
  cases node with
  | leaf scalar =>
    by_cases visited : path.length ≤ max maxDepth 1
    · have record := (request.naming maxDepth).recordAt?_leaf path scalar visited
      rw [record, Option.bind_some, Naming.declared?_leafRecord, name_naming]
      by_cases unnamed : request.leafName path = ""
      · rw [if_pos unnamed]
        exact (if_neg fun both => both.2 unnamed).symm
      · rw [if_neg unnamed]
        exact (if_pos ⟨visited, unnamed⟩).symm
    · have record := (request.naming maxDepth).recordAt?_of_limit_lt ⟨path, .leaf scalar⟩
        (Nat.lt_of_not_le visited)
      rw [record]
      exact (if_neg fun both => visited both.1).symm
  | unsupported kind =>
    simp only [Naming.recordAt?, variableAt?]
    split <;> rfl
  | branch children =>
    simp only [Naming.recordAt?, variableAt?]
    split <;> rfl

/-- The variables of a flattened source are those that its leaves produce. -/
theorem declared_flatten (request : ModuleRequest) (maxDepth : Nat) (source : Tree) :
    ((request.naming maxDepth).flatten source).declared
      = source.descendants.filterMap (request.variableAt? maxDepth) := by
  cases source with
  | leaf scalar => rfl
  | unsupported kind => rfl
  | branch children =>
    have records := (request.naming maxDepth).records_branch children
    rw [Naming.flatten, records, List.filterMap_filterMap]
    exact congrArg (fun produce => List.filterMap produce _)
      (funext (request.bind_declared?_recordAt? maxDepth))

/-- All flattened sources together declare what the leaves produce. -/
theorem flatten_declared (request : ModuleRequest) (maxDepth : Nat) :
    ((request.flattened maxDepth).map Flattened.declared).flatten = request.produced maxDepth := by
  rw [flattened, List.map_map, ← List.flatMap_def]
  exact List.flatMap_congr fun source _ => request.declared_flatten maxDepth source

/-! ## The text -/

/-- What a request declares is the overlay of what its leaves produce. -/
theorem isOverlay_declared (request : ModuleRequest) (maxDepth : Nat) :
    Bindings.IsOverlay (request.produced maxDepth) (request.declared maxDepth) := by
  rw [← flatten_declared]
  exact isOverlay_mergeVariables _

/-- **A stylesheet is the rule block of the overlay of all produced variables**, and has
no text if nothing is produced. -/
theorem build_eq_ruleBlock (request : ModuleRequest) (maxDepth : Nat) (moduleId : String)
    (found : List Diagnostic) :
    ∃ overlaid : List Variable,
      Bindings.IsOverlay (request.produced maxDepth) overlaid ∧
      (∀ other, Bindings.IsOverlay (request.produced maxDepth) other → other = overlaid) ∧
      (request.build maxDepth moduleId found).1
        = ⟨moduleId, if overlaid = [] then none
            else some (ruleBlock request.selector request.formatting overlaid)⟩ := by
  have overlay := request.isOverlay_declared maxDepth
  refine ⟨request.declared maxDepth, overlay, fun other => overlay.unique, ?_⟩
  simp only [build, stylesheet, css, List.isEmpty_iff]

end ModuleRequest

end CustomProperties
