import CustomProperties.Bindings
import Std.Data.HashMap

/-!
# Bindings with an index

Bindings can be stored as an array and an index that tells the place of every name in it.  A name is
looked up in the index and the array is read or changed at the place that is found; a name without a
place is appended and noted in the index.  No search is needed, and what the array holds are
`Bindings` (`IndexedBindings.bindings`).  Where all bindings are there from the beginning, the index
can be made at once (`IndexedBindings.index`).

The index repeats what the array says, and nothing in the type makes the two agree.  So reading and
changing may fail, at a place beyond the array.
-/

namespace CustomProperties

set_option autoImplicit false

/-- The index gives a place at which the array has no binding. -/
structure Misplaced where
  place : Nat
  deriving DecidableEq, Repr

/-- Bindings in an array, with an index of the places of their names. -/
structure IndexedBindings (ν α : Type) [DecidableEq ν] [Hashable ν] where
  entries : Array (Binding ν α)
  places : Std.HashMap ν Nat

namespace IndexedBindings

variable {ν α : Type} [DecidableEq ν] [Hashable ν]

/-- No bindings. -/
def empty : IndexedBindings ν α := ⟨#[], {}⟩

/-- What the array holds. -/
def bindings (table : IndexedBindings ν α) : Bindings ν α := ⟨table.entries.toList⟩

/-- The bound names, in order. -/
def names (table : IndexedBindings ν α) : List ν := table.bindings.names

/-- How many names are bound. -/
def size (table : IndexedBindings ν α) : Nat := table.entries.size

/-- The binding at a place that the index gives. -/
def entryAt (table : IndexedBindings ν α) (place : Nat) : Except Misplaced (Binding ν α) :=
  match table.entries[place]? with
  | some binding => .ok binding
  | none => .error ⟨place⟩

/-- The value that a name stands for. -/
def get? (table : IndexedBindings ν α) (name : ν) : Except Misplaced (Option α) :=
  match table.places[name]? with
  | some place => (table.entryAt place).map fun binding => some binding.value
  | none => .ok none

/-- The value at a place exchanged for another one. -/
def replaceAt (table : IndexedBindings ν α) (place : Nat) (binding : Binding ν α) (value : α) :
    IndexedBindings ν α :=
  { table with entries := table.entries.setIfInBounds place ⟨binding.name, value⟩ }

/-- A binding added at the end and noted in the index. -/
def append (table : IndexedBindings ν α) (name : ν) (value : α) : IndexedBindings ν α :=
  { entries := table.entries.push ⟨name, value⟩
    places := table.places.insert name table.entries.size }

/-- Bind `name` to `value`, in the place of an earlier binding of `name` if there is one, and give
the value that was replaced. -/
def insert (table : IndexedBindings ν α) (name : ν) (value : α) :
    Except Misplaced (Option α × IndexedBindings ν α) :=
  match table.places[name]? with
  | some place => (table.entryAt place).map fun binding =>
      (some binding.value, table.replaceAt place binding value)
  | none => .ok (none, table.append name value)

/-- The bindings that an insertion leaves. -/
def inserting (table : IndexedBindings ν α) (name : ν) (value : α) :
    Except Misplaced (IndexedBindings ν α) :=
  (table.insert name value).map Prod.snd

/-- Insert a list of bindings one after another. -/
def extend (table : IndexedBindings ν α) (added : List (Binding ν α)) :
    Except Misplaced (IndexedBindings ν α) :=
  added.foldlM (fun grown binding => grown.inserting binding.name binding.value) table

/-- The bindings that a list leaves when it is inserted from its first to its last. -/
def collect (added : List (Binding ν α)) : Except Misplaced (IndexedBindings ν α) :=
  empty.extend added

/-- Bindings as they come, with an index that is made at once.  A name that is repeated keeps its
places in the array, and the index gives the last of them. -/
def index (entries : List (Binding ν α)) : IndexedBindings ν α :=
  { entries := entries.toArray
    places := .ofList (entries.map Binding.name).zipIdx }

end IndexedBindings

end CustomProperties
