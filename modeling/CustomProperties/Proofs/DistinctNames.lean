import CustomProperties.Proofs.StylesheetText
import CustomProperties.Proofs.TreePaths

/-!
# Names do not collide

Two leaves of one tree have different names, if no branch binds a key twice and the separator is a
single character that no key contains.  The keys can then be read back from a name
(`intercalate_inj`), so leaves of one name have the same segments.  The segments of a leaf are its
path, or all but the last key of it, and so the path to one of the two leaves would begin the path
to the other one (`prefix_or_prefix_of_segments_eq`).  No path to a leaf does that.

The main statement, `declares_each_leaf_once`, says what follows for the variables of a tree and
for the stylesheet that is made of it alone.  A separator of several characters is another matter:
the ends of two keys around it may make a further one.
-/

namespace CustomProperties

set_option autoImplicit false

/-! ## Reading names back -/

/-- **Keys that are joined by a character that none of them contains can be told apart again.** -/
theorem intercalate_inj {separator : Char} {first second : List String} (some_first : first ≠ [])
    (some_second : second ≠ []) (unused : ∀ key ∈ first, separator ∉ key.toList)
    (unused' : ∀ key ∈ second, separator ∉ key.toList)
    (same : (String.singleton separator).intercalate first
      = (String.singleton separator).intercalate second) : first = second := by
  have split (keys : List String) (some_keys : keys ≠ [])
      (unused : ∀ key ∈ keys, separator ∉ key.toList) :
      List.splitOn separator ((String.singleton separator).intercalate keys).toList
        = keys.map String.toList := by
    rw [String.toList_intercalate, String.toList_singleton]
    refine List.splitOn_intercalate separator ?_ (by simpa using some_keys)
    intro part member
    obtain ⟨key, present, rfl⟩ := List.mem_map.mp member
    exact unused key present
  have parts := split first some_first unused
  rw [same, split second some_second unused'] at parts
  exact List.map_injective_iff.mpr (fun _ _ => String.toList_inj.mp) parts.symm

namespace Naming

variable (naming : Naming) {first second : List String}

/-- **Of two paths with the same segments, one begins the other.** -/
theorem prefix_or_prefix_of_segments_eq (same : naming.segments first = naming.segments second) :
    first <+: second ∨ second <+: first := by
  by_cases shortened : first.getLast? = naming.selfKey ∧ 1 < first.length
  · by_cases shortened' : second.getLast? = naming.selfKey ∧ 1 < second.length
    · -- both end with the self key, so they are equal
      rw [segments, segments, if_pos shortened, if_pos shortened'] at same
      have last : first.getLast? = second.getLast? := shortened.1.trans shortened'.1.symm
      cases key : first.getLast? with
      | none => exact .inl (List.getLast?_eq_none_iff.mp key ▸ List.nil_prefix)
      | some own =>
        rw [← List.dropLast_append_getLast? own key,
          ← List.dropLast_append_getLast? own (last.symm.trans key), same]
        exact .inl (List.prefix_refl _)
    · refine .inr ?_
      have whole : naming.segments second = second := if_neg shortened'
      rw [← whole, ← same]
      exact naming.segments_prefix_path first
  · refine .inl ?_
    have whole : naming.segments first = first := if_neg shortened
    rw [← whole, same]
    exact naming.segments_prefix_path second

/-- The names of two paths that are apart differ. -/
theorem name_ne_of_apart {separator : Char} (single : naming.separator = String.singleton separator)
    {first second : Descendant} (apart : Descendant.Apart first second)
    (some_first : first.path ≠ []) (some_second : second.path ≠ [])
    (unused : ∀ key ∈ first.path, separator ∉ key.toList)
    (unused' : ∀ key ∈ second.path, separator ∉ key.toList) :
    naming.name first.path ≠ naming.name second.path := by
  intro same
  rw [name, name, single] at same
  have segments : naming.segments first.path = naming.segments second.path :=
    intercalate_inj (naming.segments_ne_nil some_first) (naming.segments_ne_nil some_second)
      (fun key member => unused key ((naming.segments_prefix_path _).subset member))
      (fun key member => unused' key ((naming.segments_prefix_path _).subset member)) same
  rcases naming.prefix_or_prefix_of_segments_eq segments with front | front
  · exact apart.1 front
  · exact apart.2 front

end Naming

/-! ## The variables of one tree -/

namespace ModuleRequest

variable (request : ModuleRequest) (maxDepth : Nat)

/-- **The variables of one tree have different names**, if its keys are distinct and none of them
contains the separator. -/
theorem nodup_names_declared {separator : Char}
    (single : request.separator = String.singleton separator) {tree : Tree}
    (keys : tree.KeysDistinct)
    (unused : ∀ descendant ∈ tree.descendants, ∀ key ∈ descendant.path, separator ∉ key.toList) :
    (((request.naming maxDepth).flatten tree).declared.map Binding.name).Nodup := by
  rw [declared_flatten, List.Nodup, List.pairwise_map, List.pairwise_filterMap]
  refine keys.pairwise_apart.imp_of_mem ?_
  intro first second member member' apart property made other made'
  obtain ⟨scalar, leaf, _, _, rfl⟩ := (request.variableAt?_eq_some_iff maxDepth _ _).mp made
  obtain ⟨scalar', leaf', _, _, rfl⟩ := (request.variableAt?_eq_some_iff maxDepth _ _).mp made'
  exact (request.naming maxDepth).name_ne_of_apart single (apart ⟨scalar, leaf⟩ ⟨scalar', leaf'⟩)
    (tree.path_ne_nil_of_mem_descendants first member)
    (tree.path_ne_nil_of_mem_descendants second member') (unused first member)
    (unused second member')

end ModuleRequest

/-- **Flattening one tree makes no two variables collide.**

Let the keys of a tree be distinct within each branch, and let the separator be a single character
that none of them contains.  Then the variables of the tree have different names, whatever the self
key and the depth limit are, so merging them changes nothing.  The stylesheet that is made of the
tree alone declares just these variables, among them each leaf that lies within the limit and has a
name, once and with its own value. -/
theorem declares_each_leaf_once (children : Bindings String Tree) (separator : Char)
    (selfKey : Option String) (maxDepth : Nat) (keys : (Tree.branch children).KeysDistinct)
    (unused : ∀ descendant ∈ (Tree.branch children).descendants, ∀ key ∈ descendant.path,
      separator ∉ key.toList) :
    let naming : Naming := { separator := String.singleton separator, selfKey, maxDepth }
    let entries := (naming.flatten (.branch children)).declared
    (entries.map Binding.name).Nodup ∧
    mergeVariables [entries] = entries ∧
    ∀ (selector : String) (formatting : Formatting) (moduleId : String) (found : List Diagnostic),
      let request : ModuleRequest :=
        { sources := [.branch children], separator := naming.separator, selfKey, selector,
          formatting }
      (request.build maxDepth moduleId found).1
        = ⟨moduleId, if entries = [] then none
            else some (ruleBlock selector formatting entries)⟩ ∧
      ∀ path scalar, ⟨path, .leaf scalar⟩ ∈ (Tree.branch children).descendants →
        path.length ≤ naming.limit → naming.name path ≠ "" →
          entries.filter (fun entry => entry.name = naming.name path)
            = [⟨naming.name path, .ofScalar scalar⟩] := by
  intro naming entries
  have distinct : (entries.map Binding.name).Nodup :=
    ModuleRequest.nodup_names_declared { separator := naming.separator, selfKey } maxDepth rfl keys
      unused
  have merged : mergeVariables [entries] = entries := by
    rw [mergeVariables, List.foldl_cons, List.foldl_nil]
    exact Bindings.toList_ofList_of_nodup distinct
  refine ⟨distinct, merged, ?_⟩
  intro selector formatting moduleId found request
  constructor
  · have declared : request.declared maxDepth = entries := merged
    rw [ModuleRequest.build, ModuleRequest.stylesheet, ModuleRequest.css, declared]
    simp only [List.isEmpty_iff]
    rfl
  · intro path scalar member visited named
    have produced : (⟨naming.name path, .ofScalar scalar⟩ : Variable) ∈ entries := by
      have listed : entries = _ := request.declared_flatten maxDepth (.branch children)
      rw [listed]
      refine List.mem_filterMap.mpr ⟨_, member, ?_⟩
      exact (request.variableAt?_eq_some_iff maxDepth _ _).mpr ⟨scalar, rfl, visited, named, rfl⟩
    exact Bindings.filter_name_eq_singleton distinct produced

/-- Empty keys, a self key that names its branch, and one that is the only key: each of the four
leaves has its own name. -/
theorem declares_each_leaf_once_blank_keys :
    let number (digit : Char) : Tree := .leaf (.plain (String.singleton digit))
    let children : Bindings String Tree :=
      ⟨[⟨"", .branch ⟨[⟨"", number '1'⟩, ⟨"default", .branch ⟨[⟨"default", number '2'⟩]⟩⟩]⟩⟩,
        ⟨"a", .branch ⟨[⟨"", number '3'⟩]⟩⟩, ⟨"default", number '4'⟩]⟩
    let naming : Naming := { separator := "-", selfKey := some "default", maxDepth := 3 }
    let entries := (naming.flatten (.branch children)).declared
    (Tree.branch children).KeysDistinct ∧
    entries.map Binding.name = ["-", "-default", "a-", "default"] ∧
    (entries.map Binding.name).Nodup ∧ mergeVariables [entries] = entries := by
  intro number children naming entries
  have keys : (Tree.branch children).KeysDistinct := by simp [children, number]
  have unused : ∀ descendant ∈ (Tree.branch children).descendants, ∀ key ∈ descendant.path,
      '-' ∉ key.toList := by decide
  obtain ⟨distinct, merged, _⟩ :=
    declares_each_leaf_once children '-' (some "default") 3 keys unused
  exact ⟨keys, by decide, distinct, merged⟩

/-- With two characters as the separator, two paths may have one name. -/
example :
    ({ separator := "--" } : Naming).name ["a-", "b"]
      = ({ separator := "--" } : Naming).name ["a", "-b"] := by decide

end CustomProperties
