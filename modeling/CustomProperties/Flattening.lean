import CustomProperties.Variable

/-!
# From trees to variables

A leaf of a tree is named by the keys on the way to it, joined by a separator.
One key, the self key, is special: a leaf under it gives a value to the branch
that holds it, and the key itself is left out of the name, unless it is the whole
path.

Every leaf, every unsupported node and every branch at the depth limit leaves one
record, in document order: a variable, or a problem that says why there is none.
Nothing is dropped without a record.  `Naming.flatten` sorts the records into
variables and problems, each still in document order.
-/

namespace CustomProperties

set_option autoImplicit false

/-! ## Problems -/

/-- Why a part of a tree yields no variable. -/
inductive ProblemKind where
  /-- The root is not a branch. -/
  | rootNotBranch
  /-- The value is neither a scalar nor a branch. -/
  | unsupportedValue (kind : UnsupportedKind)
  /-- The branch lies at the depth limit. -/
  | tooDeep (limit : Nat)
  /-- The keys join to an empty name. -/
  | emptyName
  deriving DecidableEq, Repr

/-- A part of a tree that yields no variable. -/
structure Problem where
  /-- The keys on the way to it, joined by points. -/
  path : String
  kind : ProblemKind
  deriving DecidableEq, Repr

/-- The wording of a problem. -/
def Problem.message (problem : Problem) : String :=
  (if problem.path.isEmpty then "<root>" else problem.path) ++
    match problem.kind with
    | .rootNotBranch => ": root must be a mapping"
    | .unsupportedValue kind => ": unsupported " ++ kind.name ++ " value"
    | .tooDeep limit => ": nesting deeper than " ++ toString limit ++ " levels"
    | .emptyName => ": empty variable name"

/-! ## Naming -/

/-- The default separator. -/
def defaultSeparator : String := "-"

/-- The default self key. -/
def defaultSelfKey : String := "default"

/-- The default depth limit. -/
def defaultMaxDepth : Nat := 64

/-- How leaves are named and how deep they may lie. -/
structure Naming where
  separator : String := defaultSeparator
  /-- The key that names the value of its own branch. -/
  selfKey : Option String := some defaultSelfKey
  /-- The greatest number of keys on the way to a leaf; zero counts as one. -/
  maxDepth : Nat := defaultMaxDepth
  deriving DecidableEq, Repr

namespace Naming

/-- The depth limit, which is at least one. -/
def limit (naming : Naming) : Nat := max naming.maxDepth 1

/-- The keys that make up the name of the leaf at a path. -/
def segments (naming : Naming) (path : List String) : List String :=
  if path.getLast? = naming.selfKey ∧ 1 < path.length then path.dropLast else path

/-- The name of the leaf at a path. -/
def name (naming : Naming) (path : List String) : String :=
  naming.separator.intercalate (naming.segments path)

end Naming

/-- A path as problems quote it. -/
def dotted (path : List String) : String := ".".intercalate path

/-! ## Records -/

/-- What one part of a tree comes to. -/
inductive Record where
  | declared (property : Variable)
  | skipped (problem : Problem)
  deriving DecidableEq, Repr

namespace Record

/-- The variable of a record. -/
def declared? : Record → Option Variable
  | .declared property => some property
  | .skipped _ => none

/-- The problem of a record. -/
def skipped? : Record → Option Problem
  | .declared _ => none
  | .skipped problem => some problem

end Record

namespace Naming

/-- The record of a leaf. -/
def leafRecord (naming : Naming) (path : List String) (scalar : Scalar) : Record :=
  let name := naming.name path
  if name.isEmpty then .skipped ⟨dotted path, .emptyName⟩
  else .declared ⟨name, .ofScalar scalar⟩

mutual
/-- The records of the subtree at a path. -/
def subtreeRecords (naming : Naming) (path : List String) : Tree → List Record
  | .leaf scalar => [naming.leafRecord path scalar]
  | .unsupported kind => [.skipped ⟨dotted path, .unsupportedValue kind⟩]
  | .branch ⟨children⟩ =>
    if naming.limit < path.length + 1 then [.skipped ⟨dotted path, .tooDeep naming.limit⟩]
    else childRecords naming path children

/-- The records of the children of the branch at a path, one child after another. -/
def childRecords (naming : Naming) (path : List String) : List (Binding String Tree) → List Record
  | [] => []
  | ⟨key, child⟩ :: rest =>
    subtreeRecords naming (path ++ [key]) child ++ childRecords naming path rest
end

/-- The records of a tree, in document order. -/
def records (naming : Naming) : Tree → List Record
  | .branch ⟨children⟩ => naming.childRecords [] children
  | _ => [.skipped ⟨"", .rootNotBranch⟩]

end Naming

/-- What a tree comes to. -/
structure Flattened where
  declared : List Variable
  problems : List Problem
  deriving DecidableEq, Repr

/-- **The variables and the problems of a tree**, each in document order. -/
def Naming.flatten (naming : Naming) (tree : Tree) : Flattened :=
  { declared := (naming.records tree).filterMap Record.declared?
    problems := (naming.records tree).filterMap Record.skipped? }

end CustomProperties
