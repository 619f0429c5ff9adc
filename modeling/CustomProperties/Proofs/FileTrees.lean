import CustomProperties.FileSystem.Basic
import Mathlib.Data.List.TakeWhile

/-!
# What operations on files change

A file system is seen here through what is at its locations: a file with its content, a
directory, or nothing (`kindAt?`).  Putting a file or an empty directory in a place where
no directory is changes what is seen at one location only (`kindAt?_put`).  A path to a
directory leads to the same location in every file system that has the same directories
and perhaps more (`DirectoryAt.keeps`), and so does a path to a file that is still there
(`DirectoriesStay.locate`).

From this follows what the operations do.  Making directories adds directories and touches
nothing that is there (`addsDirectories_makeDirectories`), and if it succeeds then the path
leads to a directory (`directoryAt_makeDirectories`).  Writing a file whose directory is
there fails for its name or because a directory has that name already, and otherwise puts
the file there (`writeText_eq`).
-/

namespace CustomProperties

set_option autoImplicit false

/-! ## Kinds -/

/-- What an item is by itself: a file with its content, or a directory, whatever it holds. -/
inductive Kind where
  | file (content : ByteArray)
  | directory

namespace Item

/-- What an item is by itself. -/
def kind : Item → Kind
  | .file content => .file content
  | .directory _ => .directory

/-- What the item at a location is by itself. -/
def kindAt? (item : Item) (location : Location) : Option Kind := (item.get? location).map kind

/-- An item without entries. -/
def IsBare (item : Item) : Prop := ∀ name, item.child? name = none

theorem isBare_file (content : ByteArray) : (file content).IsBare := fun _ => rfl

theorem isBare_emptyDirectory : emptyDirectory.IsBare := fun _ => rfl

theorem kind_eq_directory_iff (item : Item) : item.kind = .directory ↔ item.isDirectory = true := by
  cases item <;> simp [kind, isDirectory]

theorem kind_of_child? {item child : Item} {name : String} (found : item.child? name = some child) :
    item.kind = .directory := by
  cases item with
  | file content => cases found
  | directory entries => rfl

theorem isBare_of_kind_ne {item : Item} (kind_ne : item.kind ≠ .directory) : item.IsBare := by
  cases item with
  | file content => exact isBare_file content
  | directory entries => exact absurd rfl kind_ne

theorem kindAt?_nil (item : Item) : item.kindAt? [] = some item.kind := rfl

theorem kindAt?_cons (item : Item) (name : String) (rest : Location) :
    item.kindAt? (name :: rest) = (item.child? name).bind (kindAt? · rest) := by
  rw [kindAt?, get?]
  cases item.child? name <;> rfl

theorem IsBare.kindAt?_cons {item : Item} (bare : item.IsBare) (name : String) (rest : Location) :
    item.kindAt? (name :: rest) = none := by
  rw [Item.kindAt?_cons, bare name, Option.bind_none]

/-- The entries of an item after something was put below it. -/
theorem child?_put (added above : Item) (name : String) (rest : Location) (other : String) :
    (put added (name :: rest) above).child? other
      = if other = name then some (put added rest ((above.child? name).getD emptyDirectory))
        else above.child? other := by
  rw [put, child?, entries, Bindings.get?_insert]
  rfl

/-- **Putting a bare item where no directory is changes what is seen at its location, and
nowhere else.** -/
theorem kindAt?_put {added above : Item} {base : Location} {name : String} (bare : added.IsBare)
    (inside : above.kindAt? base = some .directory)
    (free : above.kindAt? (base ++ [name]) ≠ some .directory) (location : Location) :
    (put added (base ++ [name]) above).kindAt? location
      = if location = base ++ [name] then some added.kind else above.kindAt? location := by
  induction base generalizing above location with
  | nil =>
    cases location with
    | nil => exact inside.symm
    | cons other rest =>
      rw [List.nil_append, kindAt?_cons, kindAt?_cons, child?_put]
      by_cases same : other = name
      · subst same
        rw [if_pos rfl, Option.bind_some, put]
        cases rest with
        | nil => rw [if_pos rfl, kindAt?_nil]
        | cons next rest =>
          -- neither the new item nor the one it replaces has anything below it
          rw [bare.kindAt?_cons, if_neg (by simp)]
          cases found : above.child? other with
          | none => rfl
          | some child =>
            have noDirectory : child.kind ≠ .directory := by
              simpa [kindAt?_cons, found, kindAt?_nil] using free
            exact ((isBare_of_kind_ne noDirectory).kindAt?_cons next rest).symm
      · rw [if_neg same, if_neg (by simp [same])]
  | cons step base ih =>
    rw [kindAt?_cons] at inside
    obtain ⟨child, found, below⟩ := Option.bind_eq_some_iff.mp inside
    rw [List.cons_append, kindAt?_cons, found, Option.bind_some] at free
    cases location with
    | nil => exact congrArg some (kind_of_child? found).symm
    | cons other rest =>
      rw [List.cons_append, kindAt?_cons, child?_put]
      by_cases same : other = step
      · subst same
        rw [if_pos rfl, Option.bind_some, found, Option.getD_some, ih below free, kindAt?_cons,
          found, Option.bind_some]
        simp only [List.cons.injEq, true_and]
      · rw [if_neg same, if_neg (by simp [same]), kindAt?_cons]

end Item

/-! ## Places -/

namespace Place

/-- What a place within reach is can be seen at its location. -/
theorem ReachedFrom.kindAt? {place : Place} {top : Item} (reached : place.ReachedFrom top) :
    top.kindAt? place.location = some place.item.kind := by
  rw [Item.kindAt?, get?_location reached, Option.map_some]

/-- What is seen one step below a place within reach is an entry of it. -/
theorem ReachedFrom.kindAt?_below {place : Place} {top : Item} (reached : place.ReachedFrom top)
    (name : String) :
    top.kindAt? (place.location ++ [name]) = (place.item.child? name).map Item.kind := by
  rw [Item.kindAt?, Item.get?_append, get?_location reached, Option.bind_some, Item.get?]
  cases place.item.child? name <;> rfl

/-- What is seen one step below a place within reach can be reached by that step. -/
theorem ReachedFrom.exists_down? {place : Place} {top : Item} {name : String} {kind : Kind}
    (reached : place.ReachedFrom top)
    (seen : top.kindAt? (place.location ++ [name]) = some kind) :
    ∃ lower, place.down? name = some lower ∧ lower.item.kind = kind := by
  rw [reached.kindAt?_below] at seen
  obtain ⟨child, entry, same⟩ := Option.map_eq_some_iff.mp seen
  exact ⟨_, Option.map_eq_some_iff.mpr ⟨child, entry, rfl⟩, same⟩

theorem location_up (place : Place) : place.up.location = place.location.dropLast := by
  obtain ⟨item, way⟩ := place
  cases way with
  | nil => rfl
  | cons step rest =>
    simp only [up, location, List.map_cons, List.reverse_cons, List.dropLast_concat]

theorem location_down {place lower : Place} {name : String} (down : place.down? name = some lower) :
    lower.location = place.location ++ [name] := by
  obtain ⟨child, _, rfl⟩ := Option.map_eq_some_iff.mp down
  simp only [location, List.map_cons, List.reverse_cons]

end Place

namespace FileSystem

/-- What the item at a location is by itself. -/
def kindAt? (files : FileSystem) (location : Location) : Option Kind := files.top.kindAt? location

/-- **Putting a bare item into a directory, where no directory is, changes what is seen at its
location, and nowhere else.** -/
theorem kindAt?_put {files : FileSystem} {item : Item} {base : Location} {name : String}
    (bare : item.IsBare) (inside : files.kindAt? base = some .directory)
    (free : files.kindAt? (base ++ [name]) ≠ some .directory) (location : Location) :
    (files.put (base ++ [name]) item).kindAt? location
      = if location = base ++ [name] then some item.kind else files.kindAt? location := by
  have top : (files.put (base ++ [name]) item).top = Item.put item (base ++ [name]) files.top := by
    cases base <;> rfl
  rw [kindAt?, top]
  exact Item.kindAt?_put bare inside free location

/-- A file is at a location exactly if it is seen there. -/
theorem get?_eq_file_iff (files : FileSystem) (location : Location) (content : ByteArray) :
    files.get? location = some (.file content)
      ↔ files.kindAt? location = some (.file content) := by
  rw [kindAt?, Item.kindAt?, ← get?, Option.map_eq_some_iff]
  constructor
  · intro found
    exact ⟨_, found, rfl⟩
  · rintro ⟨item, found, same⟩
    cases item with
    | file other =>
      cases same
      exact found
    | directory entries => cases same

/-! ## Walks -/

theorem walk_append (place : Place) (first second : List String) :
    walk place (first ++ second) = (walk place first).bind (walk · second) := by
  induction first generalizing place with
  | nil => rfl
  | cons name rest ih =>
    rw [List.cons_append, walk, walk]
    split
    · rfl
    · split
      · exact ih place
      · split
        · exact ih place.up
        · split
          · rfl
          · split
            · rfl
            · next lower _ => exact ih lower

/-- What a step leaves is a directory. -/
theorem isDirectory_of_walk_cons {place last : Place} {name : String} {rest : List String}
    (walked : walk place (name :: rest) = .ok last) : place.item.isDirectory = true := by
  rw [walk] at walked
  split at walked
  · cases walked
  · next inside => simpa using inside

/-- A walk that ends in a directory starts in one. -/
theorem isDirectory_of_walk {place last : Place} {names : List String}
    (walked : walk place names = .ok last) (directory : last.item.isDirectory = true) :
    place.item.isDirectory = true := by
  cases names with
  | nil =>
    cases walked
    exact directory
  | cons name rest => exact isDirectory_of_walk_cons walked

/-- A name that leads down from a directory: neither empty nor made of points alone. -/
def LeadsDown (name : String) : Prop := isHere name = false ∧ name ≠ ".."

/-- One more name that leads down. -/
theorem walk_down {place lower : Place} {name : String} (directory : place.item.isDirectory = true)
    (leads : LeadsDown name) (short : name.utf8ByteSize ≤ nameLimit)
    (down : place.down? name = some lower) : walk place [name] = .ok lower := by
  simp only [walk, directory, leads.1, leads.2, Nat.not_lt.mpr short, down, Bool.not_true,
    Bool.false_eq_true, if_false]

/-- A name that leads down is followed downwards, if it can be followed. -/
theorem down?_of_walk {place last : Place} {name : String} (leads : LeadsDown name)
    (walked : walk place [name] = .ok last) : place.down? name = some last := by
  simp only [walk, leads.1, leads.2, Bool.false_eq_true, if_false] at walked
  split at walked
  · cases walked
  · split at walked
    · cases walked
    · cases down : place.down? name with
      | none =>
        rw [down] at walked
        cases walked
      | some lower =>
        rw [down] at walked
        cases walked
        rfl

/-- Names that stay where they are lead nowhere else. -/
theorem walk_of_isHere {place : Place} (directory : place.item.isDirectory = true)
    {names : List String} (here : ∀ name ∈ names, isHere name = true) :
    walk place names = .ok place := by
  induction names with
  | nil => rfl
  | cons name rest ih =>
    have rest_here := fun other member => here other (List.mem_cons_of_mem _ member)
    simp only [walk, directory, here name List.mem_cons_self, ih rest_here, Bool.not_true,
      Bool.false_eq_true, if_false, if_true]

/-- Where a walk from the start ends can be seen at its location. -/
theorem kindAt?_of_walk {files : FileSystem} {names : List String} {place : Place}
    (walked : walk files.start names = .ok place) :
    files.kindAt? place.location = some place.item.kind :=
  (reachedFrom_of_walk (Place.reachedFrom_start files.top) walked).kindAt?

/-! ## Directories that stay -/

section Staying

variable {files later : FileSystem}

/-- Every directory of one file system is one of the other. -/
def DirectoriesStay (files later : FileSystem) : Prop :=
  ∀ location, files.kindAt? location = some .directory → later.kindAt? location = some .directory

theorem DirectoriesStay.trans {last : FileSystem} (first : DirectoriesStay files later)
    (second : DirectoriesStay later last) : DirectoriesStay files last :=
  fun location seen => second location (first location seen)

/-- What a walk starts from stays if directories and the end of the walk do. -/
theorem DirectoriesStay.kindAt?_of_walk (stay : DirectoriesStay files later) {names : List String}
    {place last : Place} (reached : place.ReachedFrom files.top)
    (walked : FileSystem.walk place names = .ok last)
    (kept : later.kindAt? last.location = some last.item.kind) :
    later.kindAt? place.location = some place.item.kind := by
  cases names with
  | nil =>
    cases walked
    exact kept
  | cons name rest =>
    have directory := (Item.kind_eq_directory_iff _).mpr (isDirectory_of_walk_cons walked)
    have seen : files.kindAt? place.location = some place.item.kind := reached.kindAt?
    rw [directory] at seen ⊢
    exact stay _ seen

/-- **A walk can be repeated where directories stay**, step by step, if its end stays too. -/
theorem DirectoriesStay.walk (stay : DirectoriesStay files later) {names : List String}
    {place place' last : Place} (reached : place.ReachedFrom files.top)
    (reached' : place'.ReachedFrom later.top) (same : place'.location = place.location)
    (walked : FileSystem.walk place names = .ok last)
    (kept : later.kindAt? last.location = some last.item.kind) :
    ∃ last', FileSystem.walk place' names = .ok last' ∧ last'.item.kind = last.item.kind ∧
      last'.location = last.location := by
  induction names generalizing place place' with
  | nil =>
    cases walked
    rw [← same, kindAt?, reached'.kindAt?] at kept
    exact ⟨place', rfl, Option.some.inj kept, same⟩
  | cons name rest ih =>
    have inside := isDirectory_of_walk_cons walked
    have start := stay.kindAt?_of_walk reached walked kept
    rw [← same, kindAt?, reached'.kindAt?, (Item.kind_eq_directory_iff _).mpr inside] at start
    have inside' := (Item.kind_eq_directory_iff _).mp (Option.some.inj start)
    rw [FileSystem.walk] at walked ⊢
    simp only [inside, inside', Bool.not_true, Bool.false_eq_true, if_false] at walked ⊢
    by_cases here : isHere name = true
    · rw [if_pos here] at walked ⊢
      exact ih reached reached' same walked
    by_cases up : name = ".."
    · rw [if_neg here, if_pos up] at walked ⊢
      exact ih reached.up reached'.up (by rw [Place.location_up, Place.location_up, same]) walked
    by_cases long : nameLimit < name.utf8ByteSize
    · rw [if_neg here, if_neg up, if_pos long] at walked
      cases walked
    rw [if_neg here, if_neg up, if_neg long] at walked ⊢
    cases down : place.down? name with
    | none =>
      rw [down] at walked
      cases walked
    | some lower =>
      rw [down] at walked
      -- what the walk goes down to stays, whether the walk ends there or goes on
      have seen := stay.kindAt?_of_walk (reached.down down) walked kept
      rw [Place.location_down down, ← same] at seen
      obtain ⟨lower', down', _⟩ := reached'.exists_down? seen
      rw [down']
      refine ih (reached.down down) (reached'.down down') ?_ walked
      rw [Place.location_down down, Place.location_down down', same]

end Staying

/-- The names lead to a directory at the location. -/
def DirectoryAt (files : FileSystem) (names : List String) (base : Location) : Prop :=
  ∃ place, walk files.start names = .ok place ∧ place.item.isDirectory = true ∧
    place.location = base

namespace DirectoryAt

variable {files later : FileSystem} {names : List String} {base : Location}

theorem kindAt? (found : DirectoryAt files names base) :
    files.kindAt? base = some .directory := by
  obtain ⟨place, walked, directory, rfl⟩ := found
  rw [kindAt?_of_walk walked, (Item.kind_eq_directory_iff _).mpr directory]

/-- **A path to a directory leads to the same location as long as directories stay.** -/
theorem keeps (found : DirectoryAt files names base) (stay : DirectoriesStay files later) :
    DirectoryAt later names base := by
  obtain ⟨place, walked, directory, rfl⟩ := found
  have kind := (Item.kind_eq_directory_iff _).mpr directory
  have kept : later.kindAt? place.location = some place.item.kind := by
    rw [kind]
    exact stay _ ((kindAt?_of_walk walked).trans (congrArg some kind))
  obtain ⟨place', walked', same, location⟩ :=
    stay.walk (Place.reachedFrom_start _) (Place.reachedFrom_start _) rfl walked kept
  exact ⟨place', walked', (Item.kind_eq_directory_iff _).mp (same.trans kind), location⟩

theorem start (files : FileSystem) : DirectoryAt files [] [] := ⟨files.start, rfl, rfl, rfl⟩

/-- Names that stay where they are may follow. -/
theorem append_here (found : DirectoryAt files names base) {more : List String}
    (here : ∀ name ∈ more, isHere name = true) : DirectoryAt files (names ++ more) base := by
  obtain ⟨place, walked, directory, rfl⟩ := found
  refine ⟨place, ?_, directory, rfl⟩
  rw [walk_append, walked]
  exact walk_of_isHere directory here

/-- Such names at the end can be left out. -/
theorem of_append_here {more : List String} (found : DirectoryAt files (names ++ more) base)
    (here : ∀ name ∈ more, isHere name = true) : DirectoryAt files names base := by
  obtain ⟨place, walked, inside, location⟩ := found
  rw [walk_append] at walked
  cases before : walk files.start names with
  | error error =>
    rw [before] at walked
    cases walked
  | ok last =>
    rw [before] at walked
    have directory := isDirectory_of_walk walked inside
    cases (walk_of_isHere directory here).symm.trans walked
    exact ⟨_, before, inside, location⟩

/-- What is seen under a name in a directory is found under that name. -/
theorem walk_concat (found : DirectoryAt files names base) {name : String} (leads : LeadsDown name)
    (short : name.utf8ByteSize ≤ nameLimit) {kind : Kind}
    (seen : files.kindAt? (base ++ [name]) = some kind) :
    ∃ place, walk files.start (names ++ [name]) = .ok place ∧ place.item.kind = kind ∧
      place.location = base ++ [name] := by
  obtain ⟨place, walked, directory, rfl⟩ := found
  have reached := reachedFrom_of_walk (Place.reachedFrom_start files.top) walked
  obtain ⟨lower, down, same⟩ := reached.exists_down? seen
  refine ⟨lower, ?_, same, Place.location_down down⟩
  rw [walk_append, walked]
  exact walk_down directory leads short down

theorem concat (found : DirectoryAt files names base) {name : String} (leads : LeadsDown name)
    (short : name.utf8ByteSize ≤ nameLimit)
    (seen : files.kindAt? (base ++ [name]) = some .directory) :
    DirectoryAt files (names ++ [name]) (base ++ [name]) := by
  obtain ⟨place, walked, same, location⟩ := found.walk_concat leads short seen
  exact ⟨place, walked, (Item.kind_eq_directory_iff _).mp same, location⟩

end DirectoryAt

/-! ## Writing -/

/-- Why no file can be written to a path that leads to a name in a directory at a location, if
something stands against it: the path itself, the length of the name, or a directory there. -/
def writeFault? (files : FileSystem) (path : String) (base : Location) (name : String) :
    Option FileError :=
  match pathFault? path with
  | some error => some error
  | none =>
    if nameLimit < name.utf8ByteSize then some .nameTooLong
    else
      match files.kindAt? (base ++ [name]) with
      | some .directory => some .isDirectory
      | _ => none

/-- **Writing to a name in a directory that is there** either meets a fault or puts the file
there. -/
theorem writeText_eq {files : FileSystem} {path name : String} {before : List String}
    {base : Location} (split : names path = before ++ [name])
    (found : DirectoryAt files before base) (leads : LeadsDown name) (text : String) :
    files.writeText path text
      = match files.writeFault? path base name with
        | some error => .error error
        | none => .ok (files.put (base ++ [name]) (.file text.toUTF8)) := by
  obtain ⟨place, walked, directory, rfl⟩ := found
  have reached := reachedFrom_of_walk (Place.reachedFrom_start files.top) walked
  have below := reached.kindAt?_below name
  rw [writeText, writeFault?]
  cases pathFault? path with
  | some error => rfl
  | none =>
    rw [split, List.reverse_append, List.reverse_singleton, List.singleton_append]
    simp only [List.reverse_reverse, writeAt, holder, walked, directory, Bool.not_true,
      Bool.false_eq_true, if_false]
    by_cases long : nameLimit < name.utf8ByteSize
    · simp only [if_pos long]
    · simp only [if_neg long, leads.1, leads.2, decide_false, Bool.or_self, Bool.false_eq_true,
        if_false, kindAt?, below]
      cases place.item.child? name with
      | none => rfl
      | some child => cases child <;> rfl

/-- The path leads to the location. -/
def LeadsTo (files : FileSystem) (path : String) (location : Location) : Prop :=
  ∃ place, files.locate path = .ok place ∧ place.location = location

/-- A path is followed by its names, if it has any. -/
theorem locate_eq_ok_iff {files : FileSystem} {path : String} (place : Place) :
    files.locate path = .ok place
      ↔ pathFault? path = none ∧ names path ≠ [] ∧ walk files.start (names path) = .ok place := by
  rw [locate]
  cases pathFault? path with
  | some error => simp
  | none => cases names path <;> simp

/-- A path leads to the same place where directories and the end of the path stay. -/
theorem DirectoriesStay.locate {files later : FileSystem} {path : String}
    (stay : DirectoriesStay files later) {place : Place}
    (located : files.locate path = .ok place)
    (kept : later.kindAt? place.location = some place.item.kind) :
    ∃ place', later.locate path = .ok place' ∧ place'.item.kind = place.item.kind ∧
      place'.location = place.location := by
  obtain ⟨fits, nonempty, walked⟩ := (locate_eq_ok_iff place).mp located
  obtain ⟨place', walked', same⟩ :=
    stay.walk (Place.reachedFrom_start _) (Place.reachedFrom_start _) rfl walked kept
  exact ⟨place', (locate_eq_ok_iff place').mpr ⟨fits, nonempty, walked'⟩, same⟩

/-- A path to a name in a directory leads below that directory, if anywhere. -/
theorem LeadsTo.eq {files : FileSystem} {path name : String} {before : List String}
    {base location : Location} (leadsTo : files.LeadsTo path location)
    (split : names path = before ++ [name]) (found : DirectoryAt files before base)
    (leads : LeadsDown name) : location = base ++ [name] := by
  obtain ⟨last, located, rfl⟩ := leadsTo
  obtain ⟨place, walked, _, rfl⟩ := found
  obtain ⟨_, _, followed⟩ := (locate_eq_ok_iff last).mp located
  rw [split, walk_append, walked] at followed
  exact Place.location_down (down?_of_walk leads followed)

/-- What is seen under a name in a directory is found at the end of the path to it. -/
theorem locate_of_kindAt? {files : FileSystem} {path name : String} {before : List String}
    {base : Location} (split : names path = before ++ [name])
    (found : DirectoryAt files before base) (leads : LeadsDown name)
    (fits : pathFault? path = none) (short : name.utf8ByteSize ≤ nameLimit) {kind : Kind}
    (seen : files.kindAt? (base ++ [name]) = some kind) :
    ∃ place, files.locate path = .ok place ∧ place.item.kind = kind ∧
      place.location = base ++ [name] := by
  obtain ⟨place, walked, same⟩ := found.walk_concat leads short seen
  rw [← split] at walked
  have nonempty : names path ≠ [] := by simp [split]
  exact ⟨place, (locate_eq_ok_iff place).mpr ⟨fits, nonempty, walked⟩, same⟩

/-- A text that is the content of a file can be read. -/
theorem readText_of_locate {files : FileSystem} {path text : String} {place : Place}
    (located : files.locate path = .ok place) (content : place.item.kind = .file text.toUTF8) :
    files.readText path = .ok text := by
  have decoded : String.fromUTF8? text.toUTF8 = some text := dif_pos text.isValidUTF8
  obtain ⟨item, way⟩ := place
  cases item with
  | directory entries => cases content
  | file bytes =>
    cases content
    simp only [readText, located, decoded]

/-! ## Making directories -/

/-- A file system with all that the other has, and perhaps more directories where nothing
was. -/
def AddsDirectories (files later : FileSystem) : Prop :=
  ∀ location, later.kindAt? location = files.kindAt? location ∨
    files.kindAt? location = none ∧ later.kindAt? location = some .directory

namespace AddsDirectories

variable {files later last : FileSystem}

theorem refl (files : FileSystem) : AddsDirectories files files := fun _ => .inl rfl

theorem trans (first : AddsDirectories files later) (second : AddsDirectories later last) :
    AddsDirectories files last := by
  intro location
  rcases second location with same | ⟨absent, added⟩
  · rw [same]
    exact first location
  · rcases first location with same' | ⟨absent', added'⟩
    · exact .inr ⟨same'.symm.trans absent, added⟩
    · cases absent.symm.trans added'

theorem directoriesStay (adds : AddsDirectories files later) : DirectoriesStay files later := by
  intro location seen
  rcases adds location with same | ⟨absent, _⟩
  · exact same.trans seen
  · cases absent.symm.trans seen

/-- Files stay as they are, and there are no others. -/
theorem file_iff (adds : AddsDirectories files later) (location : Location) (content : ByteArray) :
    later.kindAt? location = some (.file content)
      ↔ files.kindAt? location = some (.file content) := by
  rcases adds location with same | ⟨absent, added⟩
  · rw [same]
  · rw [absent, added]
    simp only [Option.some.injEq, reduceCtorEq]

end AddsDirectories

/-- What holds a name is a directory at the end of the names before it. -/
theorem holder_eq_ok {files : FileSystem} {before : List String} {name : String} {place : Place}
    (held : files.holder before name = .ok place) :
    walk files.start before = .ok place ∧ place.item.isDirectory = true ∧
      name.utf8ByteSize ≤ nameLimit := by
  rw [holder] at held
  cases walked : walk files.start before with
  | error error =>
    rw [walked] at held
    cases held
  | ok last =>
    rw [walked] at held
    dsimp only at held
    split at held
    · cases held
    · next inside =>
      split at held
      · cases held
      · next short =>
        cases held
        exact ⟨rfl, by simpa using inside, Nat.not_lt.mp short⟩

/-- **Making one directory** puts an empty one under a name at which nothing was. -/
theorem makeDirectory_eq_ok {files made : FileSystem} {directory : List String}
    (done : files.makeDirectory directory = .ok made) :
    ∃ name before base, directory = name :: before ∧ DirectoryAt files before.reverse base ∧
      LeadsDown name ∧ name.utf8ByteSize ≤ nameLimit ∧ files.kindAt? (base ++ [name]) = none ∧
      made = files.put (base ++ [name]) .emptyDirectory := by
  cases directory with
  | nil => cases done
  | cons name before =>
    rw [makeDirectory] at done
    cases held : files.holder before.reverse name with
    | error error =>
      rw [held] at done
      cases done
    | ok place =>
      rw [held] at done
      obtain ⟨walked, inside, short⟩ := holder_eq_ok held
      have reached := reachedFrom_of_walk (Place.reachedFrom_start files.top) walked
      dsimp only at done
      split at done
      · cases done
      · next leads =>
        split at done
        · cases done
        · next free =>
          cases done
          have found : DirectoryAt files before.reverse place.location :=
            ⟨place, walked, inside, rfl⟩
          refine ⟨name, before, place.location, rfl, found, ?_, short, ?_, rfl⟩
          · simpa [LeadsDown] using leads
          · rw [kindAt?, reached.kindAt?_below, Option.not_isSome_iff_eq_none.mp free,
              Option.map_none]

theorem addsDirectories_makeDirectory {files made : FileSystem} {directory : List String}
    (done : files.makeDirectory directory = .ok made) : AddsDirectories files made := by
  obtain ⟨name, before, base, _, found, _, _, absent, rfl⟩ := makeDirectory_eq_ok done
  intro location
  have free : files.kindAt? (base ++ [name]) ≠ some .directory := by simp [absent]
  rw [kindAt?_put Item.isBare_emptyDirectory found.kindAt? free]
  split
  · next same => exact .inr ⟨same ▸ absent, rfl⟩
  · exact .inl rfl

theorem directoryAt_makeDirectory {files made : FileSystem} {directory : List String}
    (done : files.makeDirectory directory = .ok made) :
    ∃ base, DirectoryAt made directory.reverse base := by
  have stay := (addsDirectories_makeDirectory done).directoriesStay
  obtain ⟨name, before, base, rfl, found, leads, short, absent, rfl⟩ := makeDirectory_eq_ok done
  have free : files.kindAt? (base ++ [name]) ≠ some .directory := by simp [absent]
  refine ⟨base ++ [name], ?_⟩
  rw [List.reverse_cons]
  refine (found.keeps stay).concat leads short ?_
  rw [kindAt?_put Item.isBare_emptyDirectory found.kindAt? free, if_pos rfl]
  rfl

/-- Names that lead to a directory lead to it at some location. -/
theorem directoryAt_of_leadsToDirectory {files : FileSystem} {reversed : List String}
    (leads : files.leadsToDirectory reversed = true) :
    ∃ base, DirectoryAt files reversed.reverse base := by
  rw [leadsToDirectory] at leads
  cases walked : walk files.start reversed.reverse with
  | error error =>
    rw [walked] at leads
    cases leads
  | ok place =>
    rw [walked] at leads
    exact ⟨place.location, place, walked, leads, rfl⟩

/-- **Making a chain of directories** adds directories, whether it succeeds or not; if it does,
the first of the chain is there. -/
theorem makeChain_spec (files : FileSystem) (chain : List (List String)) :
    AddsDirectories files (files.makeChain chain).1 ∧
      ∀ directory ∈ chain.head?, (files.makeChain chain).2 = .ok () →
        ∃ base, DirectoryAt (files.makeChain chain).1 directory.reverse base := by
  -- the last attempt for a directory decides, whatever was made above it before
  induction chain with
  | nil => exact ⟨.refl files, fun _ none => nomatch none⟩
  | cons directory above ih =>
    rw [makeChain]
    simp only [List.head?_cons, Option.mem_some_iff, forall_eq']
    split
    · next made done =>
      exact ⟨addsDirectories_makeDirectory done, fun _ => directoryAt_makeDirectory done⟩
    · split
      · next ready error chained =>
        rw [chained] at ih
        exact ⟨ih.1, nofun⟩
      · next ready chained =>
        rw [chained] at ih
        split
        · next made done =>
          exact ⟨ih.1.trans (addsDirectories_makeDirectory done),
            fun _ => directoryAt_makeDirectory done⟩
        · next error failed =>
          split
          · next there => exact ⟨ih.1, fun _ => directoryAt_of_leadsToDirectory there.2⟩
          · exact ⟨ih.1, nofun⟩
    · next error _ failed =>
      split
      · next there => exact ⟨.refl files, fun _ => directoryAt_of_leadsToDirectory there.2⟩
      · exact ⟨.refl files, nofun⟩

/-- **Making directories adds directories and touches nothing that is there.** -/
theorem addsDirectories_makeDirectories (files : FileSystem) (path : String) :
    AddsDirectories files (files.makeDirectories path).1 := by
  rw [makeDirectories]
  split
  · exact .refl files
  · exact (makeChain_spec files _).1

/-- The first of the chain of directories leaves out the empty names at the end of the path, which
lead nowhere else. -/
theorem names_eq_append_blank (path : String) :
    ∃ blank, names path = ((names path).reverse.dropWhile (· = "")).reverse ++ blank ∧
      ∀ name ∈ blank, isHere name = true := by
  refine ⟨((names path).reverse.takeWhile (· = "")).reverse, ?_, ?_⟩
  · rw [← List.reverse_append, List.takeWhile_append_dropWhile, List.reverse_reverse]
  · intro name member
    have empty := List.mem_takeWhile_imp (List.mem_reverse.mp member)
    rw [isHere, empty, Bool.true_or]

/-- **The directory is there after it could be made.** -/
theorem directoryAt_makeDirectories {files : FileSystem} {path : String}
    (done : (files.makeDirectories path).2 = .ok ()) :
    ∃ base, DirectoryAt (files.makeDirectories path).1 (names path) base := by
  rw [makeDirectories] at done ⊢
  split at done
  · cases done
  · next fault =>
    obtain ⟨blank, split, here⟩ := names_eq_append_blank path
    have spec := (makeChain_spec files (directoryChain path)).2
    rw [split]
    cases kept : (names path).reverse.dropWhile (· = "") with
    | nil => exact ⟨[], (DirectoryAt.start _).append_here here⟩
    | cons last before =>
      have head : (directoryChain path).head? = some (last :: before) := by
        rw [directoryChain, kept, List.head?_cons]
      obtain ⟨base, found⟩ := spec _ head done
      exact ⟨base, found.append_here here⟩

end FileSystem

end CustomProperties
