import CustomProperties.Bindings

/-!
# Files and directories

An item is a file with its bytes, or a directory that binds names to items.  A
location is the list of names that leads from a directory to an item below it.

A place is an item together with the way to it: for every step from the start, the
directory that it leaves and the name that it takes.  So one can go up from a place
as well as down.  A place that is reached from a directory in this way lies where
its location says (`Place.get?_location`).
-/

namespace CustomProperties

set_option autoImplicit false

/-- The names on the way to an item. -/
abbrev Location := List String

/-- A file or a directory. -/
inductive Item where
  | file (content : ByteArray)
  | directory (entries : Bindings String Item)

namespace Item

/-- A directory without entries. -/
def emptyDirectory : Item := .directory .empty

/-- Whether an item is a directory. -/
def isDirectory : Item → Bool
  | .file _ => false
  | .directory _ => true

/-- The entries of a directory; a file has none. -/
def entries : Item → Bindings String Item
  | .file _ => .empty
  | .directory entries => entries

/-- The entry of a directory with a name. -/
def child? (item : Item) (name : String) : Option Item := item.entries.get? name

/-- What is at a location. -/
def get? : Item → Location → Option Item
  | item, [] => some item
  | item, name :: rest => (item.child? name).bind (get? · rest)

/-- A directory with an item put at a location below it, and directories on the way. -/
def put (added : Item) : Location → Item → Item
  | [], _ => added
  | name :: rest, above =>
    .directory (above.entries.insert name (put added rest ((above.child? name).getD emptyDirectory)))

/-- Following two locations in turn is following them joined. -/
theorem get?_append (item : Item) (first second : Location) :
    item.get? (first ++ second) = (item.get? first).bind (get? · second) := by
  induction first generalizing item with
  | nil => rfl
  | cons name rest ih =>
    rw [List.cons_append, get?, get?]
    cases item.child? name with
    | none => rfl
    | some child => exact ih child

/-- **What was put at a location is there.** -/
theorem get?_put (added above : Item) (location : Location) :
    (put added location above).get? location = some added := by
  induction location generalizing above with
  | nil => rfl
  | cons name rest ih =>
    rw [put, get?, child?, entries, Bindings.get?_insert, if_pos rfl]
    exact ih _

/-- **Putting an item where it is changes nothing.** -/
theorem put_of_get? {added above : Item} {location : Location}
    (there : above.get? location = some added) : put added location above = above := by
  induction location generalizing above with
  | nil => exact (Option.some.inj there).symm
  | cons name rest ih =>
    rw [get?] at there
    obtain ⟨child, found, below⟩ := Option.bind_eq_some_iff.mp there
    cases above with
    | file content => cases found
    | directory entries =>
      rw [put, found, Option.getD_some, ih below]
      exact congrArg directory (Bindings.insert_of_get? found)

end Item

/-! ## Places -/

/-- An item and the way to it. -/
structure Place where
  item : Item
  /-- The steps to the item, the last one first: the name, and the directory it was
  looked up in. -/
  way : List (String × Item)

namespace Place

/-- The place one step up; at the start there is no other. -/
def up (place : Place) : Place :=
  match place.way with
  | [] => place
  | (_, above) :: rest => ⟨above, rest⟩

/-- The place one step down. -/
def down? (place : Place) (name : String) : Option Place :=
  (place.item.child? name).map fun child => ⟨child, (name, place.item) :: place.way⟩

/-- The location of a place. -/
def location (place : Place) : Location := (place.way.map Prod.fst).reverse

/-- Whether steps, the last one first, lead from a directory to an item. -/
def Leads (top : Item) : Item → List (String × Item) → Prop
  | item, [] => item = top
  | item, (name, above) :: rest => above.child? name = some item ∧ Leads top above rest

/-- A place is reached from a directory if its way starts there. -/
def ReachedFrom (place : Place) (top : Item) : Prop := Leads top place.item place.way

/-- The start is reached. -/
theorem reachedFrom_start (top : Item) : ReachedFrom ⟨top, []⟩ top := rfl

/-- Going up keeps a place within reach. -/
theorem ReachedFrom.up {place : Place} {top : Item} (reached : place.ReachedFrom top) :
    place.up.ReachedFrom top := by
  obtain ⟨item, way⟩ := place
  cases way with
  | nil => exact reached
  | cons step rest => exact reached.2

/-- Going down keeps a place within reach. -/
theorem ReachedFrom.down {place lower : Place} {top : Item} {name : String}
    (reached : place.ReachedFrom top) (down : place.down? name = some lower) :
    lower.ReachedFrom top := by
  obtain ⟨child, found, rfl⟩ := Option.map_eq_some_iff.mp down
  exact ⟨found, reached⟩

/-- The item at the end of steps is the one at their location. -/
theorem get?_of_leads {top : Item} (way : List (String × Item)) (item : Item)
    (leads : Leads top item way) : top.get? (way.map Prod.fst).reverse = some item := by
  induction way generalizing item with
  | nil => rw [leads]; rfl
  | cons step rest ih =>
    obtain ⟨name, above⟩ := step
    rw [List.map_cons, List.reverse_cons, Item.get?_append, ih above leads.2, Option.bind_some,
      Item.get?, leads.1]
    rfl

/-- **A place within reach lies where its location says.** -/
theorem get?_location {place : Place} {top : Item} (reached : place.ReachedFrom top) :
    top.get? place.location = some place.item :=
  get?_of_leads place.way place.item reached

end Place

end CustomProperties
