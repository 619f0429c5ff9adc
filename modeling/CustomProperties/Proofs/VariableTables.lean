import CustomProperties.Proofs.IndexAgreement

/-!
# Tables of variables with an index

A table of variables starts without any and changes in steps, each of which inserts one variable or
several in turn (`TableStep`).  What it holds in the end follows from the variables that were
inserted, one after another in all the steps (`foldl_change_eq_ofList`), and so does its index
(`table_remembers_insertions`).

Merging lists of variables is such a run (`exists_table_mergeVariables`).
-/

namespace CustomProperties

set_option autoImplicit false

/-- Variables with distinct names, and an index of their places. -/
abbrev IndexedTable := IndexedBindings String Value

/-- A step that changes a table of variables. -/
inductive TableStep where
  | insert (entry : Variable)
  | extend (entries : List Variable)

namespace TableStep

/-- The variables that a step inserts, in turn. -/
def inserted : TableStep → List Variable
  | .insert entry => [entry]
  | .extend entries => entries

/-- A step on a table that is searched. -/
def change (table : VariableTable) : TableStep → VariableTable
  | .insert entry => table.insert entry.name entry.value
  | .extend entries => table.extend entries

/-- A step on a table with an index. -/
def apply (table : IndexedTable) : TableStep → Except Misplaced IndexedTable
  | .insert entry => table.inserting entry.name entry.value
  | .extend entries => table.extend entries

theorem change_eq_extend (table : VariableTable) (step : TableStep) :
    step.change table = table.extend step.inserted := by
  cases step <;> rfl

/-- Steps in turn leave what all their variables leave that are inserted in turn. -/
theorem foldl_change (steps : List TableStep) (table : VariableTable) :
    steps.foldl change table = table.extend (steps.flatMap inserted) := by
  induction steps generalizing table with
  | nil => rfl
  | cons step rest ih =>
    rw [List.foldl_cons, ih, change_eq_extend, List.flatMap_cons, Bindings.extend_append]

theorem foldl_change_eq_ofList (steps : List TableStep) :
    steps.foldl change .empty = Bindings.ofList (steps.flatMap inserted) :=
  foldl_change steps .empty

/-- **A step keeps the agreement of the index**, and does to the array what it does to a table that
is searched. -/
theorem leadsTo_apply {table : IndexedTable} (agrees : table.Agrees) (step : TableStep) :
    IndexedBindings.LeadsTo (step.apply table) (step.change table.bindings) := by
  cases step with
  | insert entry => exact agrees.leadsTo_inserting entry.name entry.value
  | extend entries => exact agrees.leadsTo_extend entries

/-- A run of steps from the empty table keeps it. -/
theorem leadsTo_run (steps : List TableStep) :
    IndexedBindings.LeadsTo (steps.foldlM apply .empty) (steps.foldl change .empty) :=
  IndexedBindings.agrees_empty.run (fun _ step agrees => leadsTo_apply agrees step) steps

/-- Extending a table takes as many steps as there are variables. -/
theorem extend_eq_foldlM (table : IndexedTable) (entries : List Variable) :
    table.extend entries = (entries.map TableStep.insert).foldlM apply table := by
  rw [List.foldlM_map]
  rfl

end TableStep

/-- **A table can be filled with an index as well as without one**: merging comes to the same. -/
theorem exists_table_mergeVariables (lists : List (List Variable)) :
    ∃ table : IndexedTable, (lists.map TableStep.extend).foldlM TableStep.apply .empty = .ok table ∧
      table.entries.toList = mergeVariables lists := by
  obtain ⟨table, run, -, holds⟩ := TableStep.leadsTo_run (lists.map TableStep.extend)
  refine ⟨table, run, ?_⟩
  rw [mergeVariables]
  rw [List.foldl_map] at holds
  exact congrArg Bindings.toList holds

/-- **What a table holds follows from what was inserted into it.**  However variables are inserted
into the empty table, one by one or several at once, no step fails, and the table stores what a
table that is searched comes to.

Its names are different and stand in the order in which they were first inserted; the index holds
just these names, each with its place; a name stands for the value that was inserted last, and for
nothing if none was; and there are as many variables as different names that were inserted.

Another insertion binds its name and leaves everything else as it was, and extending the table is
inserting the variables one by one. -/
theorem table_remembers_insertions (steps : List TableStep) :
    ∃ table : IndexedTable, steps.foldlM TableStep.apply .empty = .ok table ∧
      table.Stores (steps.foldl TableStep.change .empty) ∧
      table.Remembers (steps.flatMap TableStep.inserted) ∧
      (∀ name value, ∃ replaced next, table.insert name value = .ok (replaced, next) ∧
        table.Inserts name value replaced next) ∧
      ∀ entries, ∃ next, table.extend entries = .ok next ∧
        (entries.map TableStep.insert).foldlM TableStep.apply table = .ok next := by
  obtain ⟨table, run, agrees, holds⟩ := TableStep.leadsTo_run steps
  refine ⟨table, run, holds ▸ agrees.stores, ?_, agrees.inserts, fun entries => ?_⟩
  · exact agrees.remembers (holds.trans (TableStep.foldl_change_eq_ofList steps))
  · obtain ⟨next, extended, -⟩ := agrees.leadsTo_extend entries
    exact ⟨next, extended, TableStep.extend_eq_foldlM table entries ▸ extended⟩

end CustomProperties
