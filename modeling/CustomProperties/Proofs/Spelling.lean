import CustomProperties.Proofs.Descendants
import Mathlib.Data.List.Basic

/-!
# The spelling of names

The separator is used to spell names, and for nothing else.  To say so, a tree is flattened without
any separator: its outline (`Tree.outline`) lists the leaves that have a name, each with the keys
that make it up, and the problems, in document order.  Under a separator the keys of each leaf are
joined, and the problems stay as they are.

One thing depends on whether the separator is empty.  Several keys, all of them empty, have a name
only if something stands between them (`intercalate_eq_empty_iff`), so under the empty separator
leaves with such keys are problems, too.  The main statement, `flatten_eq_spell_outline`, says both.
-/

namespace CustomProperties

set_option autoImplicit false

/-! ## Joined texts -/

/-- **Joined texts are empty exactly if all of them are** and nothing stands between two of them. -/
theorem intercalate_eq_empty_iff (separator : String) (texts : List String) :
    separator.intercalate texts = ""
      ↔ (∀ text ∈ texts, text = "") ∧ (separator = "" ∨ texts.length ≤ 1) := by
  induction texts with
  | nil => simp
  | cons text rest ih =>
    cases rest with
    | nil => simp
    | cons next rest =>
      have several : ¬ (text :: next :: rest).length ≤ 1 := by simp
      rw [String.intercalate_cons_cons, String.append_eq_empty_iff, String.append_eq_empty_iff, ih,
        or_iff_left several, List.forall_mem_cons (a := text)]
      constructor
      · rintro ⟨⟨first, bare⟩, others, _⟩
        exact ⟨⟨first, others⟩, bare⟩
      · rintro ⟨⟨first, others⟩, bare⟩
        exact ⟨⟨first, bare⟩, others, .inl bare⟩

/-! ## Outlines -/

/-- A leaf that has a name, which is not spelled yet. -/
structure NamedLeaf where
  path : List String
  /-- The keys that make up the name. -/
  segments : List String
  value : Value
  segments_ne_nil : segments ≠ []
  /-- A single empty key is no name under any separator. -/
  segments_ne_blank : segments ≠ [""]

namespace NamedLeaf

/-- The variable of a leaf under a separator. -/
def spell (separator : String) (leaf : NamedLeaf) : Variable :=
  ⟨separator.intercalate leaf.segments, leaf.value⟩

/-- Whether a name has several segments and all of them are empty. -/
def IsBlank (leaf : NamedLeaf) : Prop :=
  2 ≤ leaf.segments.length ∧ ∀ segment ∈ leaf.segments, segment = ""

instance : DecidablePred IsBlank := fun leaf =>
  inferInstanceAs (Decidable (2 ≤ leaf.segments.length ∧ ∀ segment ∈ leaf.segments, segment = ""))

/-- **Only under the empty separator is a name empty**, and only if it is blank. -/
theorem intercalate_segments_eq_empty_iff (leaf : NamedLeaf) (separator : String) :
    separator.intercalate leaf.segments = "" ↔ separator = "" ∧ leaf.IsBlank := by
  obtain ⟨_, segments, _, some_segment, not_blank⟩ := leaf
  rw [intercalate_eq_empty_iff, IsBlank]
  match segments with
  | [] => exact absurd rfl some_segment
  | [segment] =>
    have named : segment ≠ "" := fun empty => not_blank (empty ▸ rfl)
    simp [named]
  | first :: second :: rest => simp [and_comm]

end NamedLeaf

/-- What a part of a tree comes to before names are spelled. -/
inductive Outline where
  | leaf (named : NamedLeaf)
  | problem (found : Problem)

namespace Outline

/-- The leaf with a name, if it is one. -/
def leaf? : Outline → Option NamedLeaf
  | .leaf named => some named
  | .problem _ => none

/-- The problem, if it is one. -/
def problem? : Outline → Option Problem
  | .leaf _ => none
  | .problem found => some found

/-- What becomes of a part if nothing stands between segments: there are no blank names then. -/
def unseparated : Outline → Outline
  | .leaf named =>
    if named.IsBlank then .problem ⟨dotted named.path, .emptyName⟩ else .leaf named
  | .problem found => .problem found

/-- What becomes of a part under a separator. -/
def under (separator : String) (part : Outline) : Outline :=
  if separator = "" then part.unseparated else part

/-- The record of a part. -/
def record (separator : String) : Outline → Record
  | .leaf named => .declared (named.spell separator)
  | .problem found => .skipped found

/-- **Spell the names of an outline.** -/
def spell (separator : String) (outline : List Outline) : Flattened :=
  { declared := (outline.filterMap leaf?).map (NamedLeaf.spell separator)
    problems := outline.filterMap problem? }

/-- Spelling an outline sorts the records of its parts. -/
theorem spell_eq (separator : String) (outline : List Outline) :
    spell separator outline
      = { declared := (outline.map (record separator)).filterMap Record.declared?
          problems := (outline.map (record separator)).filterMap Record.skipped? } := by
  rw [spell, List.map_filterMap, List.filterMap_map, List.filterMap_map, Flattened.mk.injEq]
  constructor
  · refine List.filterMap_congr ?_
    rintro (named | found) _ <;> rfl
  · refine List.filterMap_congr ?_
    rintro (named | found) _ <;> rfl

/-- A problem stays what it is. -/
theorem record_under_problem (separator : String) (found : Problem) :
    ((Outline.problem found).under separator).record separator = .skipped found := by
  rw [under]
  split <;> rfl

/-- A named leaf leaves a variable, unless its name comes out empty. -/
theorem record_under_leaf (separator : String) (named : NamedLeaf) :
    ((Outline.leaf named).under separator).record separator
      = if separator.intercalate named.segments = "" then
          .skipped ⟨dotted named.path, .emptyName⟩
        else .declared (named.spell separator) := by
  have empty := named.intercalate_segments_eq_empty_iff separator
  rw [under]
  by_cases bare : separator = ""
  · by_cases blank : named.IsBlank
    · rw [if_pos bare, if_pos (empty.mpr ⟨bare, blank⟩), unseparated, if_pos blank, record]
    · rw [if_pos bare, if_neg fun none => blank (empty.mp none).2, unseparated, if_neg blank,
        record]
  · rw [if_neg bare, if_neg fun none => bare (empty.mp none).1, record]

end Outline

-- Neither the segments of a path nor the limit look at the separator, so none is given here.
section

variable (selfKey : Option String) (maxDepth : Nat)

/-- What the leaf at a path comes to before its name is spelled. -/
def leafOutline (path : List String) (value : Value) : Outline :=
  let segments := ({ selfKey } : Naming).segments path
  if named : segments ≠ [] ∧ segments ≠ [""] then
    .leaf ⟨path, segments, value, named.1, named.2⟩
  else .problem ⟨dotted path, .emptyName⟩

/-- What a node below the root comes to before names are spelled. -/
def Descendant.outline? (descendant : Descendant) : Option Outline :=
  let path := descendant.path
  let limit := ({ maxDepth } : Naming).limit
  match descendant.node with
  | .leaf scalar =>
    if path.length ≤ limit then some (leafOutline selfKey path (.ofScalar scalar)) else none
  | .unsupported kind =>
    if path.length ≤ limit then some (.problem ⟨dotted path, .unsupportedValue kind⟩) else none
  | .branch _ =>
    if path.length = limit then some (.problem ⟨dotted path, .tooDeep limit⟩) else none

/-- **The leaves that have a name and the problems of a tree**, in document order. -/
def Tree.outline : Tree → List Outline
  | .branch children =>
    (Tree.branch children).descendants.filterMap (Descendant.outline? selfKey maxDepth)
  | _ => [.problem ⟨"", .rootNotBranch⟩]

end

/-! ## The records of an outline -/

namespace Naming

variable (naming : Naming)

/-- A leaf without segments, or with a single empty one, has no name. -/
theorem name_eq_empty_of_not_named {path : List String}
    (unnamed : ¬ (naming.segments path ≠ [] ∧ naming.segments path ≠ [""])) :
    naming.name path = "" := by
  rw [name]
  rcases not_and_or.mp unnamed with none | blank
  · rw [not_not.mp none, String.intercalate_nil]
  · rw [not_not.mp blank, String.intercalate_singleton]

/-- **The record of a leaf is made by spelling its name.** -/
theorem leafRecord_eq_outline (path : List String) (scalar : Scalar) :
    naming.leafRecord path scalar
      = ((leafOutline naming.selfKey path (.ofScalar scalar)).under naming.separator).record
          naming.separator := by
  have made : naming.leafRecord path scalar
      = if naming.name path = "" then .skipped ⟨dotted path, .emptyName⟩
        else .declared ⟨naming.name path, .ofScalar scalar⟩ := by
    simp only [leafRecord, String.isEmpty_iff]
  have segments : ({ selfKey := naming.selfKey } : Naming).segments path = naming.segments path :=
    rfl
  rw [made, leafOutline]
  simp only [segments]
  by_cases named : naming.segments path ≠ [] ∧ naming.segments path ≠ [""]
  · rw [dif_pos named]
    exact (Outline.record_under_leaf naming.separator ⟨path, _, _, named.1, named.2⟩).symm
  · rw [dif_neg named, if_pos (naming.name_eq_empty_of_not_named named),
      Outline.record_under_problem]

/-- **The record of a node is made by spelling its part of the outline.** -/
theorem recordAt?_eq_outline (descendant : Descendant) :
    naming.recordAt? descendant
      = (descendant.outline? naming.selfKey naming.maxDepth).map fun part =>
          (part.under naming.separator).record naming.separator := by
  obtain ⟨path, node⟩ := descendant
  have limit : ({ maxDepth := naming.maxDepth } : Naming).limit = naming.limit := rfl
  cases node with
  | leaf scalar =>
    by_cases visited : path.length ≤ naming.limit
    · rw [recordAt?_leaf naming path scalar visited, leafRecord_eq_outline]
      simp only [Descendant.outline?, limit, if_pos visited, Option.map_some]
    · rw [recordAt?_of_limit_lt naming _ (Nat.lt_of_not_le visited)]
      simp only [Descendant.outline?, limit, if_neg visited, Option.map_none]
  | unsupported kind =>
    simp only [recordAt?, Descendant.outline?, limit]
    split
    · rw [Option.map_some, Outline.record_under_problem]
    · rfl
  | branch children =>
    simp only [recordAt?, Descendant.outline?, limit]
    split
    · rw [Option.map_some, Outline.record_under_problem]
    · rfl

/-- **The records of a tree are made by spelling its outline.** -/
theorem records_eq_outline (tree : Tree) :
    naming.records tree
      = ((tree.outline naming.selfKey naming.maxDepth).map (Outline.under naming.separator)).map
          (Outline.record naming.separator) := by
  cases tree with
  | leaf scalar | unsupported kind =>
    simp only [records, Tree.outline, List.map_singleton, Outline.record_under_problem]
  | branch children =>
    rw [records_branch, Tree.outline, List.map_map, List.map_filterMap]
    exact List.filterMap_congr fun descendant _ => naming.recordAt?_eq_outline descendant

/-- **The separator affects nothing but the spelling of names.**

For every tree, self key and depth limit there is one outline.  Under every separator that is not
empty, the problems of the tree are those of the outline, and its variables are the leaves of the
outline in their order, each with its value and with its segments joined by the separator.  Under
the empty separator this holds as well, once the leaves with several segments, all of them empty,
have become problems where they stand. -/
theorem flatten_eq_spell_outline (selfKey : Option String) (maxDepth : Nat) (tree : Tree) :
    let outline := tree.outline selfKey maxDepth
    (∀ separator, separator ≠ "" →
      ({ separator, selfKey, maxDepth } : Naming).flatten tree
        = Outline.spell separator outline) ∧
    ({ separator := "", selfKey, maxDepth } : Naming).flatten tree
      = Outline.spell "" (outline.map Outline.unseparated) := by
  intro outline
  have spelled (separator : String) :
      ({ separator, selfKey, maxDepth } : Naming).flatten tree
        = Outline.spell separator (outline.map (Outline.under separator)) := by
    rw [flatten, records_eq_outline, Outline.spell_eq]
  constructor
  · intro separator some_separator
    have kept : Outline.under separator = id := funext fun part => if_neg some_separator
    rw [spelled, kept, List.map_id]
  · have bare : Outline.under "" = Outline.unseparated := funext fun part => if_pos rfl
    rw [spelled, bare]

/-- Two empty keys have a name as long as something stands between them. -/
example :
    let tree : Tree := .branch ⟨[⟨"", .branch ⟨[⟨"", .leaf (.bool true)⟩]⟩⟩]⟩
    ({ separator := "-" } : Naming).flatten tree = ⟨[⟨"-", ⟨"true", false⟩⟩], []⟩ ∧
    ({ separator := "" } : Naming).flatten tree = ⟨[], [⟨".", .emptyName⟩]⟩ := by decide

end Naming

end CustomProperties
