/-!
# Bindings in insertion order

Several things in this library bind names to values and care about the order in
which the names arrived: the members of a JSON object, the children of a branch of
a variable tree, the table of variables that a rule block declares, the index of
the modules of a build, the items of a file system.  This module holds the one
container that all of them use.

Bindings answer a look-up by the first binding of the name, and inserting a name
that is already bound replaces the value where it stands: the name keeps its place
and no other binding moves (`names_bindIn`).  Inserting a new name appends it.  So
bindings that are built by insertion alone bind each name once, in the order in
which the names were first met, to the value that came last.
-/

namespace CustomProperties

set_option autoImplicit false

/-- A name and what it stands for. -/
structure Binding (ν α : Type) where
  name : ν
  value : α
  deriving DecidableEq, Repr

/-- The binding of the same name to what its value is changed into. -/
def Binding.map {ν α β : Type} (change : α → β) (binding : Binding ν α) : Binding ν β :=
  ⟨binding.name, change binding.value⟩

/-- Bindings in the order in which their names were first inserted. -/
structure Bindings (ν α : Type) where
  toList : List (Binding ν α)
  deriving DecidableEq, Repr

namespace Bindings

variable {ν α : Type}

/-- No bindings. -/
def empty : Bindings ν α := ⟨[]⟩

instance : Inhabited (Bindings ν α) := ⟨empty⟩

/-- The bound names, in order. -/
def names (bindings : Bindings ν α) : List ν := bindings.toList.map Binding.name

/-- How many names are bound. -/
def size (bindings : Bindings ν α) : Nat := bindings.toList.length

/-- Whether nothing is bound. -/
def isEmpty (bindings : Bindings ν α) : Bool := bindings.toList.isEmpty

variable [DecidableEq ν]

/-! ## Building -/

/-- The list with `name` bound to `value`: where `name` is bound first, or at the end. -/
def bindIn (name : ν) (value : α) : List (Binding ν α) → List (Binding ν α)
  | [] => [⟨name, value⟩]
  | binding :: rest =>
    if binding.name = name then ⟨name, value⟩ :: rest
    else binding :: bindIn name value rest

/-- Bind `name` to `value`, in the place of an earlier binding of `name` if there is one. -/
def insert (bindings : Bindings ν α) (name : ν) (value : α) : Bindings ν α :=
  ⟨bindIn name value bindings.toList⟩

/-- Insert a list of bindings one after another. -/
def extend (bindings : Bindings ν α) (added : List (Binding ν α)) : Bindings ν α :=
  added.foldl (fun bound binding => bound.insert binding.name binding.value) bindings

/-- The bindings that a list leaves when it is inserted from its first to its last. -/
def ofList (added : List (Binding ν α)) : Bindings ν α := empty.extend added

/-! ## Asking -/

/-- The place of a name in the insertion order, counted from zero. -/
def position? (bindings : Bindings ν α) (name : ν) : Option Nat :=
  bindings.toList.findIdx? (fun binding => binding.name = name)

/-- The value that a name stands for. -/
def get? (bindings : Bindings ν α) (name : ν) : Option α :=
  (bindings.toList.find? (fun binding => binding.name = name)).map Binding.value

/-- Whether a name is bound. -/
def contains (bindings : Bindings ν α) (name : ν) : Bool :=
  bindings.toList.any (fun binding => binding.name = name)

/-! ## The operations seen through the list -/

omit [DecidableEq ν] in
@[simp] theorem toList_empty : (empty : Bindings ν α).toList = [] := rfl

@[simp] theorem toList_insert (bindings : Bindings ν α) (name : ν) (value : α) :
    (bindings.insert name value).toList = bindIn name value bindings.toList := rfl

@[simp] theorem extend_nil (bindings : Bindings ν α) : bindings.extend [] = bindings := rfl

@[simp] theorem extend_cons (bindings : Bindings ν α) (binding : Binding ν α)
    (rest : List (Binding ν α)) :
    bindings.extend (binding :: rest)
      = (bindings.insert binding.name binding.value).extend rest := rfl

/-- Inserting two lists in turn is inserting them joined. -/
theorem extend_append (bindings : Bindings ν α) (first second : List (Binding ν α)) :
    bindings.extend (first ++ second) = (bindings.extend first).extend second :=
  List.foldl_append

/-- **A bound name stays where it is, and a new one goes to the end.** -/
theorem names_bindIn (name : ν) (value : α) (bindings : List (Binding ν α)) :
    (bindIn name value bindings).map Binding.name
      = if name ∈ bindings.map Binding.name then bindings.map Binding.name
        else bindings.map Binding.name ++ [name] := by
  induction bindings with
  | nil => simp [bindIn]
  | cons binding rest ih =>
    by_cases here : binding.name = name
    · simp [bindIn, here]
    · have elsewhere : name ≠ binding.name := fun equal => here equal.symm
      simp only [bindIn, if_neg here, List.map_cons, ih, List.mem_cons, elsewhere, false_or]
      split <;> rfl

/-- **The value inserted last is the one that is found**, and other names keep theirs. -/
theorem get?_insert (bindings : Bindings ν α) (name other : ν) (value : α) :
    (bindings.insert name value).get? other
      = if other = name then some value else bindings.get? other := by
  obtain ⟨bindings⟩ := bindings
  simp only [get?, toList_insert]
  induction bindings with
  | nil => by_cases same : other = name <;> simp [bindIn, same, eq_comm]
  | cons binding rest ih =>
    by_cases here : binding.name = name
    · by_cases same : other = name
      · simp [bindIn, here, same]
      · have differs : name ≠ other := fun equal => same equal.symm
        simp [bindIn, here, same, differs]
    · by_cases found : binding.name = other
      · have differs : other ≠ name := fun equal => here (found.trans equal)
        simp [bindIn, found, differs]
      · simpa [bindIn, here, found] using ih

/-- **Inserting what a name stands for changes nothing.** -/
theorem insert_of_get? {bindings : Bindings ν α} {name : ν} {value : α}
    (bound : bindings.get? name = some value) : bindings.insert name value = bindings := by
  obtain ⟨bindings⟩ := bindings
  refine congrArg Bindings.mk ?_
  rw [get?] at bound
  induction bindings with
  | nil => cases bound
  | cons binding rest ih =>
    by_cases here : binding.name = name
    · simp only [List.find?_cons, here, decide_true, Option.map_some, Option.some.injEq] at bound
      rw [bindIn, if_pos here, ← bound, ← here]
    · simp only [List.find?_cons, here, decide_false] at bound
      rw [bindIn, if_neg here, ih bound]

/-- A name is bound exactly if it stands for something. -/
theorem contains_eq_isSome_get? (bindings : Bindings ν α) (name : ν) :
    bindings.contains name = (bindings.get? name).isSome := by
  rw [contains, get?, Option.isSome_map, List.isSome_find?]

/-- Where names are different, each of them stands for the value of its binding. -/
theorem get?_of_mem {bindings : Bindings ν α} {binding : Binding ν α}
    (distinct : (bindings.toList.map Binding.name).Nodup) (member : binding ∈ bindings.toList) :
    bindings.get? binding.name = some binding.value := by
  obtain ⟨bindings⟩ := bindings
  rw [get?]
  induction bindings with
  | nil => cases member
  | cons head rest ih =>
    obtain ⟨fresh, distinct⟩ := List.nodup_cons.mp distinct
    rcases List.mem_cons.mp member with rfl | later
    · simp only [List.find?_cons, decide_true, Option.map_some]
    · have other : head.name ≠ binding.name := by
        intro same
        exact fresh (same ▸ List.mem_map_of_mem later)
      simp only [List.find?_cons, other, decide_false]
      exact ih distinct later

/-- A name that is not bound yet goes to the end. -/
theorem bindIn_of_not_mem {name : ν} (value : α) {bindings : List (Binding ν α)}
    (unbound : name ∉ bindings.map Binding.name) :
    bindIn name value bindings = bindings ++ [⟨name, value⟩] := by
  induction bindings with
  | nil => rfl
  | cons binding rest ih =>
    have here : binding.name ≠ name := by
      intro same
      exact unbound (same ▸ List.mem_cons_self)
    have elsewhere : name ∉ rest.map Binding.name := fun later =>
      unbound (List.mem_cons_of_mem _ later)
    rw [bindIn, if_neg here, ih elsewhere, List.cons_append]

/-- **Bindings of different names are kept as they are.** -/
theorem toList_extend_of_nodup (bindings : Bindings ν α) {added : List (Binding ν α)}
    (distinct : ((bindings.toList ++ added).map Binding.name).Nodup) :
    (bindings.extend added).toList = bindings.toList ++ added := by
  induction added generalizing bindings with
  | nil => rw [extend_nil, List.append_nil]
  | cons binding rest ih =>
    have unbound : binding.name ∉ bindings.toList.map Binding.name := by
      intro member
      rw [List.map_append, List.nodup_append] at distinct
      exact distinct.2.2 _ member _ List.mem_cons_self rfl
    have inserted : (bindings.insert binding.name binding.value).toList
        = bindings.toList ++ [binding] := bindIn_of_not_mem binding.value unbound
    rw [extend_cons, ih, inserted, List.append_assoc, List.singleton_append]
    rwa [inserted, List.append_assoc, List.singleton_append]

/-- A list of bindings of different names is what its bindings hold. -/
theorem toList_ofList_of_nodup {added : List (Binding ν α)}
    (distinct : (added.map Binding.name).Nodup) : (ofList added).toList = added :=
  toList_extend_of_nodup empty distinct

/-! ## Changing values -/

theorem map_bindIn {β : Type} (change : α → β) (name : ν) (value : α)
    (bindings : List (Binding ν α)) :
    (bindIn name value bindings).map (Binding.map change)
      = bindIn name (change value) (bindings.map (Binding.map change)) := by
  induction bindings with
  | nil => rfl
  | cons binding rest ih =>
    by_cases here : binding.name = name
    · simp only [bindIn, List.map_cons, Binding.map, if_pos here]
    · simp only [bindIn, List.map_cons, Binding.map, if_neg here, ih]

/-- **Values may be changed before they are inserted or after it.** -/
theorem map_toList_ofList {β : Type} (change : α → β) (added : List (Binding ν α)) :
    (ofList added).toList.map (Binding.map change)
      = (ofList (added.map (Binding.map change))).toList := by
  suffices extended : ∀ (first : Bindings ν α) (second : Bindings ν β),
      first.toList.map (Binding.map change) = second.toList →
      (first.extend added).toList.map (Binding.map change)
        = (second.extend (added.map (Binding.map change))).toList from extended empty empty rfl
  induction added with
  | nil => exact fun _ _ same => same
  | cons binding rest ih =>
    intro first second same
    refine ih _ _ ?_
    rw [toList_insert, toList_insert, map_bindIn, same]
    rfl

end Bindings

end CustomProperties
