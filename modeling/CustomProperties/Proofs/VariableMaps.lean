import CustomProperties.IndexedTree
import CustomProperties.Proofs.IndexAgreement

/-!
# Maps of variables with an index

A map of variables starts without children and changes in steps (`MapStep`).  As for a table, what
it holds follows from the children that were inserted since it was last collected anew
(`MapStep.leadsTo_run`).

Maps are compared without their indexes.  This is sound: maps that compare equal cannot be told
apart by asking them, nor can the maps inside them (`Alike`), if all of them were built in such
steps (`Built`).  They need not have been built in the same steps.  The same steps on both of them
leave maps that compare equal again (`equal_after_run`).

This is said of trees without floating-point numbers (`Tree.Integral`), which equal only themselves
(`Tree.Integral.beq_iff_eq`).  The two floating-point zeros compare equal, but their texts differ.
The main statement is `map_laws`.
-/

namespace CustomProperties

set_option autoImplicit false

/-! ## Bindings -/

namespace Bindings

variable {ν α : Type} [DecidableEq ν]

/-- What is bound after an insertion was inserted or bound before. -/
theorem eq_or_mem_of_mem_bindIn {name : ν} {value : α} {bindings : List (Binding ν α)}
    {binding : Binding ν α} (member : binding ∈ bindIn name value bindings) :
    binding = ⟨name, value⟩ ∨ binding ∈ bindings := by
  induction bindings with
  | nil => exact .inl (List.mem_singleton.mp member)
  | cons head rest ih =>
    rw [bindIn] at member
    split at member
    next =>
      exact (List.mem_cons.mp member).imp_right (List.mem_cons_of_mem head)
    next =>
      rcases List.mem_cons.mp member with rfl | later
      · exact .inr List.mem_cons_self
      · exact (ih later).imp_right (List.mem_cons_of_mem head)

/-- What a list leaves when it is inserted is in it. -/
theorem mem_of_mem_ofList {added : List (Binding ν α)} {binding : Binding ν α}
    (member : binding ∈ (ofList added).toList) : binding ∈ added :=
  mem_of_last?_eq_some (((isOverlay_ofList added).mem_iff binding).mp member)

/-- What a name stands for is bound to it. -/
theorem mem_of_get?_eq_some {bindings : Bindings ν α} {name : ν} {value : α}
    (found : bindings.get? name = some value) : ⟨name, value⟩ ∈ bindings.toList := by
  obtain ⟨binding, first, rfl⟩ := Option.map_eq_some_iff.mp found
  obtain rfl : binding.name = name := by simpa using List.find?_some first
  exact List.mem_of_find?_eq_some first

/-- Values may be changed before they are looked up or after it. -/
theorem map_get? {β : Type} (change : α → β) (bindings : Bindings ν α) (name : ν) :
    (bindings.get? name).map change
      = get? ⟨bindings.toList.map (Binding.map change)⟩ name := by
  rw [get?, get?, List.find?_map, Option.map_map, Option.map_map]
  rfl

end Bindings

/-! ## Trees of integers -/

/-- No floating-point number is in a scalar. -/
def Scalar.Integral : Scalar → Prop
  | .number (.float _) => False
  | _ => True

/-- An integer equals only itself. -/
theorem Number.integer_beq_iff_eq (value : Int) (other : Number) :
    (Number.integer value == other) = true ↔ Number.integer value = other := by
  change beq (.integer value) other = true ↔ _
  cases other <;> simp [beq]

/-- A scalar without a floating-point number equals only itself. -/
theorem Scalar.Integral.beq_iff_eq {first : Scalar} (integral : first.Integral)
    (second : Scalar) : (first == second) = true ↔ first = second := by
  change beq first second = true ↔ _
  cases first with
  | number value =>
    cases value with
    | float value => exact integral.elim
    | integer value => cases second <;> simp [beq, Number.integer_beq_iff_eq]
  | _ => cases second <;> simp [beq]

namespace Tree

/-- No floating-point number is in a tree. -/
inductive Integral : Tree → Prop where
  | leaf {scalar : Scalar} (integral : scalar.Integral) : Integral (.leaf scalar)
  | unsupported (kind : UnsupportedKind) : Integral (.unsupported kind)
  | branch {children : List (Binding String Tree)}
      (below : ∀ child ∈ children, Integral child.value) : Integral (.branch ⟨children⟩)

theorem Integral.of_mem {children : Bindings String Tree}
    (integral : (Tree.branch children).Integral) :
    ∀ child ∈ children.toList, child.value.Integral := by
  cases integral with
  | branch below => exact below

/-- Lists of children are equal if their keys are and their subtrees are. -/
theorem beqChildren_iff_eq {children : List (Binding String Tree)}
    (below : ∀ child ∈ children, ∀ other, child.value.beq other = true ↔ child.value = other)
    (others : List (Binding String Tree)) :
    beqChildren children others = true ↔ children = others := by
  induction children generalizing others with
  | nil => cases others <;> simp [beqChildren]
  | cons child rest ih =>
    cases others with
    | nil => simp [beqChildren]
    | cons other others =>
      obtain ⟨key, child⟩ := child
      obtain ⟨otherKey, other⟩ := other
      have child_iff := below ⟨key, child⟩ List.mem_cons_self other
      have rest_iff := ih (fun child later => below child (List.mem_cons_of_mem _ later)) others
      simp only [beqChildren, Bool.and_eq_true, beq_iff_eq, child_iff, rest_iff,
        List.cons.injEq, Binding.mk.injEq]

/-- **A tree without a floating-point number equals only itself.** -/
theorem Integral.beq_iff_eq {first : Tree} (integral : first.Integral) (second : Tree) :
    first.beq second = true ↔ first = second := by
  induction integral generalizing second with
  | @leaf scalar integral =>
    cases second with
    | leaf other => simpa [beq] using integral.beq_iff_eq other
    | branch _ => simp [beq]
    | unsupported _ => simp [beq]
  | unsupported kind => cases second <;> simp [beq]
  | branch _ ih =>
    cases second with
    | leaf _ => simp [beq]
    | branch others =>
      obtain ⟨others⟩ := others
      simp only [beq, beqChildren_iff_eq ih others, branch.injEq, Bindings.mk.injEq]
    | unsupported _ => simp [beq]

end Tree

/-! ## Steps -/

open IndexedTree (tree view tree_branch view_eq)

/-- A step that changes a map or collects a new one. -/
inductive MapStep where
  | insert (key : String) (node : IndexedTree)
  | inserting (key : String) (node : IndexedTree)
  | collect (children : List (Binding String IndexedTree))

namespace MapStep

/-- A step on a map with an index. -/
def apply (map : IndexedMap) : MapStep → Except Misplaced IndexedMap
  | .insert key node => do
    let (_, next) ← map.insert key node
    return next
  | .inserting key node => map.inserting key node
  | .collect children => IndexedBindings.collect children

/-- A step on a map that is searched. -/
def change (map : Bindings String IndexedTree) : MapStep → Bindings String IndexedTree
  | .insert key node => map.insert key node
  | .inserting key node => map.insert key node
  | .collect children => .ofList children

/-- The children that a step inserts, in turn. -/
def inserted : MapStep → List (Binding String IndexedTree)
  | .insert key node => [⟨key, node⟩]
  | .inserting key node => [⟨key, node⟩]
  | .collect children => children

/-- The children that were inserted since the map was collected, after one more step. -/
def remember (history : List (Binding String IndexedTree)) :
    MapStep → List (Binding String IndexedTree)
  | .insert key node => history ++ [⟨key, node⟩]
  | .inserting key node => history ++ [⟨key, node⟩]
  | .collect children => children

/-- The children that were inserted in the steps since the map was collected, in turn. -/
def history (steps : List MapStep) : List (Binding String IndexedTree) := steps.foldl remember []

theorem change_ofList (children : List (Binding String IndexedTree)) (step : MapStep) :
    step.change (.ofList children) = .ofList (step.remember children) := by
  cases step with
  | insert key node => exact (Bindings.extend_append .empty children [⟨key, node⟩]).symm
  | inserting key node => exact (Bindings.extend_append .empty children [⟨key, node⟩]).symm
  | collect children => rfl

theorem foldl_change_eq_ofList (steps : List MapStep) :
    steps.foldl change .empty = .ofList (history steps) := by
  suffices extended : ∀ children, steps.foldl change (.ofList children)
      = .ofList (steps.foldl remember children) from extended []
  induction steps with
  | nil => exact fun _ => rfl
  | cons step rest ih =>
    intro children
    rw [List.foldl_cons, change_ofList, ih, List.foldl_cons]

/-- **A step keeps the agreement of the index**, and does to the array what it does to a map that is
searched. -/
theorem leadsTo_apply {map : IndexedMap} (agrees : map.Agrees) (step : MapStep) :
    IndexedBindings.LeadsTo (step.apply map) (step.change map.bindings) := by
  cases step with
  | insert key node =>
    obtain ⟨next, inserted, agrees', holds⟩ := agrees.insert key node
    exact ⟨next, by rw [apply, inserted]; rfl, agrees', holds⟩
  | inserting key node => exact agrees.leadsTo_inserting key node
  | collect children => exact IndexedBindings.leadsTo_collect children

theorem leadsTo_run {map : IndexedMap} (agrees : map.Agrees) (steps : List MapStep) :
    IndexedBindings.LeadsTo (steps.foldlM apply map) (steps.foldl change map.bindings) :=
  agrees.run (fun _ step agrees => leadsTo_apply agrees step) steps

/-- What is in a map after a step was there before or was inserted. -/
theorem mem_change {map : Bindings String IndexedTree} {step : MapStep}
    {child : Binding String IndexedTree} (member : child ∈ (step.change map).toList) :
    child ∈ map.toList ∨ child ∈ step.inserted := by
  cases step with
  | collect children => exact .inr (Bindings.mem_of_mem_ofList member)
  | _ => exact (Bindings.eq_or_mem_of_mem_bindIn member).symm.imp_right List.mem_singleton.mpr

theorem mem_foldl_change {steps : List MapStep} {map : Bindings String IndexedTree}
    {child : Binding String IndexedTree} (member : child ∈ (steps.foldl change map).toList) :
    child ∈ map.toList ∨ child ∈ steps.flatMap inserted := by
  induction steps generalizing map with
  | nil => exact .inl member
  | cons step rest ih =>
    rw [List.flatMap_cons, List.mem_append]
    rcases ih member with before | later
    · exact (mem_change before).imp_right .inl
    · exact .inr (.inr later)

/-- A map that was reached from the empty one has an index that agrees with its array. -/
theorem agrees_of_run {steps : List MapStep} {map : IndexedMap}
    (run : steps.foldlM apply .empty = .ok map) : map.Agrees :=
  ((leadsTo_run IndexedBindings.agrees_empty steps).of_eq_ok run).1

/-- What is in it was inserted. -/
theorem mem_inserted_of_run {steps : List MapStep} {map : IndexedMap}
    (run : steps.foldlM apply .empty = .ok map) :
    ∀ child ∈ map.bindings.toList, child ∈ steps.flatMap inserted := by
  obtain ⟨-, holds⟩ := (leadsTo_run IndexedBindings.agrees_empty steps).of_eq_ok run
  intro child member
  rw [holds] at member
  exact (mem_foldl_change member).resolve_left List.not_mem_nil

/-- Steps cannot tell apart maps that are the same without the indexes of what is in them. -/
theorem map_tree_foldl_change {first second : Bindings String IndexedTree}
    (same : first.toList.map (Binding.map tree) = second.toList.map (Binding.map tree))
    (steps : List MapStep) :
    (steps.foldl change first).toList.map (Binding.map tree)
      = (steps.foldl change second).toList.map (Binding.map tree) := by
  induction steps generalizing first second with
  | nil => exact same
  | cons step rest ih =>
    refine ih ?_
    cases step with
    | collect children => rfl
    | _ => simp only [change, Bindings.toList_insert, Bindings.map_bindIn, same]

end MapStep

/-! ## What cannot be told apart -/

/-- Maps are the same without their indexes if their nodes are, one by one. -/
theorem view_eq_iff {first second : IndexedMap} : view first = view second
    ↔ first.bindings.toList.map (Binding.map tree)
      = second.bindings.toList.map (Binding.map tree) := by
  rw [view_eq, view_eq, Bindings.mk.injEq]

/-- A node in which every map was built from the empty one in such steps. -/
inductive Built : IndexedTree → Prop where
  | leaf (scalar : Scalar) : Built (.leaf scalar)
  | unsupported (kind : UnsupportedKind) : Built (.unsupported kind)
  | branch (steps : List MapStep) (map : IndexedMap)
      (nodes : ∀ child ∈ steps.flatMap MapStep.inserted, Built child.value)
      (run : steps.foldlM MapStep.apply .empty = .ok map) : Built (.branch map)

/-- Nodes that answer alike, as often as they are asked: scalars are the same, and maps have the
same size, go through the same keys, and come to alike nodes at every key. -/
inductive Alike : IndexedTree → IndexedTree → Prop where
  | leaf (scalar : Scalar) : Alike (.leaf scalar) (.leaf scalar)
  | unsupported (kind : UnsupportedKind) : Alike (.unsupported kind) (.unsupported kind)
  | branch {first second : IndexedMap}
      (size : first.size = second.size)
      (keys : first.names = second.names)
      (values : ∀ (place : Nat) (child other : Binding String IndexedTree),
        first.entries[place]? = some child → second.entries[place]? = some other →
          Alike child.value other.value)
      (finds : ∀ key, ∃ found other, first.get? key = .ok found ∧ second.get? key = .ok other ∧
        found.isSome = other.isSome)
      (get : ∀ key found other, first.get? key = .ok (some found) →
        second.get? key = .ok (some other) → Alike found other) :
      Alike (.branch first) (.branch second)

/-- Maps are alike whose indexes agree with their arrays and whose arrays hold alike nodes. -/
theorem Alike.of_agrees {first second : IndexedMap} (agrees : first.Agrees)
    (agrees' : second.Agrees)
    (same : first.bindings.toList.map (Binding.map tree)
      = second.bindings.toList.map (Binding.map tree))
    (alike : ∀ child ∈ first.bindings.toList, ∀ other ∈ second.bindings.toList,
      child.value.tree = other.value.tree → Alike child.value other.value) :
    Alike (.branch first) (.branch second) := by
  have found_eq (key : String) : (first.bindings.get? key).map tree
      = (second.bindings.get? key).map tree := by
    rw [Bindings.map_get?, Bindings.map_get?, same]
  refine .branch ?_ ?_ ?_ ?_ ?_
  · have lengths := congrArg List.length same
    rwa [List.length_map, List.length_map] at lengths
  · have names := congrArg (List.map Binding.name) same
    rwa [List.map_map, List.map_map] at names
  · intro place child other here there
    replace here : first.bindings.toList[place]? = some child := Array.getElem?_toList.trans here
    replace there : second.bindings.toList[place]? = some other := Array.getElem?_toList.trans there
    refine alike child (List.mem_of_getElem? here) other (List.mem_of_getElem? there) ?_
    have place_eq := congrArg (fun children => children[place]?) same
    simp only [List.getElem?_map, here, there, Option.map_some, Option.some.injEq] at place_eq
    exact congrArg Binding.value place_eq
  · intro key
    refine ⟨_, _, agrees.get?_eq key, agrees'.get?_eq key, ?_⟩
    have some_eq := congrArg Option.isSome (found_eq key)
    rwa [Option.isSome_map, Option.isSome_map] at some_eq
  · intro key found other here there
    rw [agrees.get?_eq, Except.ok.injEq] at here
    rw [agrees'.get?_eq, Except.ok.injEq] at there
    have tree_eq := found_eq key
    rw [here, there] at tree_eq
    exact alike _ (Bindings.mem_of_get?_eq_some here) _ (Bindings.mem_of_get?_eq_some there)
      (Option.some.inj tree_eq)

namespace Built

theorem agrees {map : IndexedMap} (built : Built (.branch map)) : map.Agrees := by
  cases built with
  | branch _ _ _ run => exact MapStep.agrees_of_run run

/-- More steps build another map. -/
theorem foldlM {first next : IndexedMap} (built : Built (.branch first)) {steps : List MapStep}
    (nodes : ∀ child ∈ steps.flatMap MapStep.inserted, Built child.value)
    (run : steps.foldlM MapStep.apply first = .ok next) : Built (.branch next) := by
  cases built with
  | branch steps' _ nodes' run' =>
    refine .branch (steps' ++ steps) next ?_ ?_
    · intro child member
      rw [List.flatMap_append] at member
      exact (List.mem_append.mp member).elim (nodes' child) (nodes child)
    · rw [List.foldlM_append, run']
      exact run

/-- **Nodes that were built and are the same without their indexes cannot be told apart.** -/
theorem alike {first : IndexedTree} (built : Built first) {second : IndexedTree}
    (built' : Built second) (same : first.tree = second.tree) : Alike first second := by
  induction built generalizing second with
  | leaf scalar =>
    cases built' with
    | leaf other =>
      cases same
      exact .leaf scalar
    | _ => cases same
  | unsupported kind =>
    cases built' with
    | unsupported other =>
      cases same
      exact .unsupported kind
    | _ => cases same
  | branch steps map nodes run ih =>
    cases built' with
    | branch steps' map' nodes' run' =>
      have inserted := MapStep.mem_inserted_of_run run
      have inserted' := MapStep.mem_inserted_of_run run'
      refine Alike.of_agrees (MapStep.agrees_of_run run) (MapStep.agrees_of_run run') ?_
        fun child member other member' same => ?_
      · rw [tree_branch, tree_branch, Tree.branch.injEq] at same
        exact view_eq_iff.mp same
      · exact ih child (inserted child member) (nodes' other (inserted' other member')) same
    | _ => cases same

end Built

/-! ## The laws of maps -/

/-- A map of integers equals another one exactly if they are the same without their indexes. -/
theorem beq_iff_view_eq {first : IndexedMap} (integral : (Tree.branch (view first)).Integral)
    (second : IndexedMap) : (first == second) = true ↔ view first = view second := by
  rw [IndexedTree.beq_map_eq]
  exact (integral.beq_iff_eq (.branch (view second))).trans (Tree.branch.injEq _ _).to_iff

/-- Steps that insert trees of integers leave a map of integers such. -/
theorem integral_view_of_run {steps : List MapStep} {first next : IndexedMap}
    (integral : (Tree.branch (view first)).Integral)
    (nodes : ∀ child ∈ steps.flatMap MapStep.inserted, child.value.tree.Integral)
    (holds : next.bindings = steps.foldl MapStep.change first.bindings) :
    (Tree.branch (view next)).Integral := by
  rw [view_eq] at integral ⊢
  refine .branch fun child member => ?_
  obtain ⟨stored, present, rfl⟩ := List.mem_map.mp member
  rw [holds] at present
  rcases MapStep.mem_foldl_change present with before | inserted
  · exact integral.of_mem (stored.map tree) (List.mem_map_of_mem before)
  · exact nodes stored inserted

/-- **The same steps leave equal maps equal**, and alike. -/
theorem equal_after_run {first second : IndexedMap} (built : Built (.branch first))
    (built' : Built (.branch second)) (integral : (Tree.branch (view first)).Integral)
    (same : view first = view second) {steps : List MapStep}
    (nodes : ∀ child ∈ steps.flatMap MapStep.inserted,
      Built child.value ∧ child.value.tree.Integral) :
    ∃ next next', steps.foldlM MapStep.apply first = .ok next ∧
      steps.foldlM MapStep.apply second = .ok next' ∧ (next == next') = true ∧
      Alike (.branch next) (.branch next') := by
  obtain ⟨next, run, -, holds⟩ := MapStep.leadsTo_run built.agrees steps
  obtain ⟨next', run', -, holds'⟩ := MapStep.leadsTo_run built'.agrees steps
  have same' : view next = view next' := by
    rw [view_eq_iff] at same ⊢
    rw [holds, holds']
    exact MapStep.map_tree_foldl_change same steps
  have integral' := integral_view_of_run integral (fun child member => (nodes child member).2) holds
  have built_nodes := fun child member => (nodes child member).1
  refine ⟨next, next', run, run', (beq_iff_view_eq integral' next').mpr same', ?_⟩
  exact (built.foldlM built_nodes run).alike (built'.foldlM built_nodes run')
    (congrArg Tree.branch same')

/-- **What a map holds follows from what was inserted into it, and equal maps cannot be told
apart.**  However children are inserted into the empty map, one by one or collected anew, no step
fails, and the map stores what a map that is searched comes to.

Its keys are different and stand in the order in which they were first inserted; the index holds
just these keys, each with its place.  Another insertion gives back what the key stood for, and
binds the key; other keys, nodes and places stay as they were, and there is one child more if
nothing was given back.

Maps that were built in any such steps and compare equal answer alike, and so do the maps inside
them.  If the same steps are made on both, they compare equal again.  Their numbers are to be
integers. -/
theorem map_laws :
    (∀ steps : List MapStep, ∃ map : IndexedMap, steps.foldlM MapStep.apply .empty = .ok map ∧
      map.Stores (steps.foldl MapStep.change .empty) ∧
      map.Remembers (MapStep.history steps) ∧
      view map = .ofList ((MapStep.history steps).map (Binding.map tree)) ∧
      ∀ key node, ∃ replaced next, map.insert key node = .ok (replaced, next) ∧
        map.Inserts key node replaced next) ∧
    ∀ first second : IndexedMap,
      (first == second) = (Tree.branch (view first) == Tree.branch (view second)) ∧
      (Built (.branch first) → Built (.branch second) → (Tree.branch (view first)).Integral →
        (first == second) = true →
          Alike (.branch first) (.branch second) ∧
          ∀ steps : List MapStep,
            (∀ child ∈ steps.flatMap MapStep.inserted,
              Built child.value ∧ child.value.tree.Integral) →
            ∃ next next', steps.foldlM MapStep.apply first = .ok next ∧
              steps.foldlM MapStep.apply second = .ok next' ∧ (next == next') = true ∧
              Alike (.branch next) (.branch next')) := by
  refine ⟨fun steps => ?_, fun first second => ⟨IndexedTree.beq_map_eq first second, ?_⟩⟩
  · obtain ⟨map, run, agrees, holds⟩ := MapStep.leadsTo_run IndexedBindings.agrees_empty steps
    have holds' : map.bindings = .ofList (MapStep.history steps) :=
      holds.trans (MapStep.foldl_change_eq_ofList steps)
    refine ⟨map, run, holds ▸ agrees.stores, agrees.remembers holds', ?_, agrees.inserts⟩
    rw [view_eq, holds', Bindings.map_toList_ofList]
  · intro built built' integral equal
    have same := (beq_iff_view_eq integral second).mp equal
    exact ⟨built.alike built' (congrArg Tree.branch same),
      fun steps nodes => equal_after_run built built' integral same nodes⟩

/-- A map with one size, inserted once and inserted after another value, inside a map that is
inserted and one that is collected.  After one more step on both the outer maps are equal still. -/
theorem map_laws_sizes :
    ∃ inner inner' outer outer' : IndexedMap,
      [MapStep.insert "sm" (.leaf (.plain "1rem"))].foldlM MapStep.apply .empty = .ok inner ∧
      [MapStep.insert "sm" (.leaf (.bool true)),
        .inserting "sm" (.leaf (.plain "1rem"))].foldlM MapStep.apply .empty = .ok inner' ∧
      [MapStep.insert "size" (.branch inner)].foldlM MapStep.apply .empty = .ok outer ∧
      [MapStep.collect [⟨"size", .branch inner'⟩]].foldlM MapStep.apply .empty = .ok outer' ∧
      (outer == outer') = true ∧ Alike (.branch outer) (.branch outer') ∧
      ∃ next next',
        [MapStep.insert "depth" (.leaf (.number (.integer 3)))].foldlM MapStep.apply outer
          = .ok next ∧
        [MapStep.insert "depth" (.leaf (.number (.integer 3)))].foldlM MapStep.apply outer'
          = .ok next' ∧
        (next == next') = true ∧ Alike (.branch next) (.branch next') := by
  obtain ⟨inner, runInner, -, -, viewInner, -⟩ := map_laws.1
    [.insert "sm" (.leaf (.plain "1rem"))]
  obtain ⟨inner', runInner', -, -, viewInner', -⟩ := map_laws.1
    [.insert "sm" (.leaf (.bool true)), .inserting "sm" (.leaf (.plain "1rem"))]
  obtain ⟨outer, run, -, -, viewOuter, -⟩ := map_laws.1 [.insert "size" (.branch inner)]
  obtain ⟨outer', run', -, -, viewOuter', -⟩ := map_laws.1
    [.collect [⟨"size", .branch inner'⟩]]
  have built : Built (.branch outer) := by
    refine .branch _ _ (List.forall_mem_singleton.mpr ?_) run
    exact .branch _ _ (List.forall_mem_singleton.mpr (.leaf _)) runInner
  have built' : Built (.branch outer') := by
    refine .branch _ _ (List.forall_mem_singleton.mpr ?_) run'
    refine .branch _ _ (List.forall_mem_cons.mpr ⟨.leaf _, ?_⟩) runInner'
    exact List.forall_mem_singleton.mpr (.leaf _)
  have same : view inner = view inner' := viewInner.trans viewInner'.symm
  have viewed : view outer = ⟨[⟨"size", .branch ⟨[⟨"sm", .leaf (.plain "1rem")⟩]⟩⟩]⟩ :=
    calc view outer = ⟨[⟨"size", .branch (view inner)⟩]⟩ := viewOuter
      _ = _ := by rw [viewInner]; rfl
  have viewed' : view outer' = view outer :=
    calc view outer' = ⟨[⟨"size", .branch (view inner')⟩]⟩ := viewOuter'
      _ = ⟨[⟨"size", .branch (view inner)⟩]⟩ := by rw [same]
      _ = view outer := viewOuter.symm
  have integral : (Tree.branch (view outer)).Integral := by
    rw [viewed]
    exact .branch (List.forall_mem_singleton.mpr
      (.branch (List.forall_mem_singleton.mpr (.leaf trivial))))
  have equal : (outer == outer') = true := by
    rw [(map_laws.2 outer outer').1, viewed', viewed]
    decide
  obtain ⟨alike, after⟩ := (map_laws.2 outer outer').2 built built' integral equal
  refine ⟨inner, inner', outer, outer', runInner, runInner', run, run', equal, alike, after _ ?_⟩
  exact List.forall_mem_singleton.mpr ⟨.leaf _, .leaf trivial⟩

end CustomProperties
