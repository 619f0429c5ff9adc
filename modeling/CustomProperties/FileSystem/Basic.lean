import CustomProperties.FileSystem.Disk
import CustomProperties.FileSystem.Item
import CustomProperties.Text.Parts

/-!
# File systems

A file system in memory: the entries of the directory where everything starts.  That
directory is always there.  There are no links, so following a path is a walk that
goes down by a name and up by two points, and at every step the place it leaves has
to be a directory.  Paths and the names in them are limited in their bytes.

A file system is a `Disk` for programs with a file system as their state.
-/

namespace CustomProperties

set_option autoImplicit false

/-- What is in the starting directory. -/
structure FileSystem where
  entries : Bindings String Item

namespace FileSystem

/-- Nothing but the starting directory. -/
def empty : FileSystem := ⟨.empty⟩

/-- The starting directory. -/
def top (files : FileSystem) : Item := .directory files.entries

/-- The place where everything starts. -/
def start (files : FileSystem) : Place := ⟨files.top, []⟩

/-- What is at a location. -/
def get? (files : FileSystem) (location : Location) : Option Item := files.top.get? location

/-- The file system with an item put at a location. -/
def put (files : FileSystem) (location : Location) (item : Item) : FileSystem :=
  ⟨(item.put location files.top).entries⟩

/-! ## Paths -/

/-- The names in a path; an empty one means the same as a point. -/
def names (path : String) : List String :=
  if path.isEmpty then [] else (Text.parts '/' path.toList).map String.ofList

/-- Whether a name stays where it is. -/
def isHere (name : String) : Bool := name = "" || name = "."

/-- The greatest number of bytes in a name. -/
def nameLimit : Nat := 255

/-- The greatest number of bytes in a path. -/
def pathLimit : Nat := 4095

/-- Whether a path has a zero character, which no path may have. -/
def hasZero (path : String) : Bool := path.toList.contains '\x00'

/-- Why a path cannot be followed, wherever it leads. -/
def pathFault? (path : String) : Option FileError :=
  if hasZero path then some .zeroInPath
  else if pathLimit < path.utf8ByteSize then some .nameTooLong
  else none

/-- Follow names from a place to something that is there. -/
def walk (place : Place) : List String → Except FileError Place
  | [] => .ok place
  | name :: rest =>
    if !place.item.isDirectory then .error .notDirectory
    else if isHere name then walk place rest
    else if name = ".." then walk place.up rest
    else if nameLimit < name.utf8ByteSize then .error .nameTooLong
    else
      match place.down? name with
      | none => .error .notFound
      | some lower => walk lower rest

/-- **A walk stays within reach**, so that it ends at what is at its location. -/
theorem reachedFrom_of_walk {top : Item} {place last : Place} {names : List String}
    (reached : place.ReachedFrom top) (walked : walk place names = .ok last) :
    last.ReachedFrom top := by
  induction names generalizing place with
  | nil =>
    cases walked
    exact reached
  | cons name rest ih =>
    rw [walk] at walked
    split at walked
    · cases walked
    · split at walked
      · exact ih reached walked
      · split at walked
        · exact ih reached.up walked
        · split at walked
          · cases walked
          · split at walked
            · cases walked
            · next lower down => exact ih (reached.down down) walked

/-- The place that a path leads to. -/
def locate (files : FileSystem) (path : String) : Except FileError Place :=
  match pathFault? path with
  | some error => .error error
  | none =>
    match names path with
    | [] => .error .notFound
    | first :: rest => walk files.start (first :: rest)

/-! ## Reading -/

/-- Whether a path leads somewhere. -/
def pathExists (files : FileSystem) (path : String) : Bool := (files.locate path).isOk

/-- The text of the file at the end of a path. -/
def readText (files : FileSystem) (path : String) : Except FileError String :=
  match files.locate path with
  | .error error => .error error
  | .ok place =>
    match place.item with
    | .directory _ => .error .isDirectory
    | .file content =>
      match String.fromUTF8? content with
      | some text => .ok text
      | none => .error .notText

/-! ## Writing -/

/-- The directory that holds a name, or would hold it, when it stands behind other names. -/
def holder (files : FileSystem) (before : List String) (name : String) : Except FileError Place :=
  match walk files.start before with
  | .error error => .error error
  | .ok place =>
    if !place.item.isDirectory then .error .notDirectory
    else if nameLimit < name.utf8ByteSize then .error .nameTooLong
    else .ok place

/-- Write a file whose path is given by its names. -/
def writeAt (files : FileSystem) (before : List String) (name : String) (content : ByteArray) :
    Except FileError FileSystem :=
  match files.holder before name with
  | .error error => .error error
  | .ok place =>
    if isHere name || name = ".." then .error .isDirectory
    else
      match place.item.child? name with
      | some (.directory _) => .error .isDirectory
      | _ => .ok (files.put (place.location ++ [name]) (.file content))

/-- Write a text to the file at the end of a path. -/
def writeText (files : FileSystem) (path text : String) : Except FileError FileSystem :=
  match pathFault? path with
  | some error => .error error
  | none =>
    match (names path).reverse with
    | [] => .error .notFound
    | name :: before => files.writeAt before.reverse name text.toUTF8

/-- Make one directory, given by the names in its path from the last to the first. -/
def makeDirectory (files : FileSystem) : List String → Except FileError FileSystem
  | [] => .error .alreadyExists
  | name :: before =>
    match files.holder before.reverse name with
    | .error error => .error error
    | .ok place =>
      if isHere name || name = ".." then .error .alreadyExists
      else if (place.item.child? name).isSome then .error .alreadyExists
      else .ok (files.put (place.location ++ [name]) .emptyDirectory)

/-- Whether names, given from the last to the first, lead to a directory. -/
def leadsToDirectory (files : FileSystem) (reversed : List String) : Bool :=
  match walk files.start reversed.reverse with
  | .ok place => place.item.isDirectory
  | .error _ => false

/-- Make the first of a chain of directories, each of which is above the one before
it: try the first itself, and if a directory above it is missing, make the others
before trying again.  What was made stays, even if the rest fails. -/
def makeChain (files : FileSystem) : List (List String) → FileSystem × Except FileError Unit
  | [] => (files, .ok ())
  | directory :: above =>
    match files.makeDirectory directory with
    | .ok made => (made, .ok ())
    | .error .notFound =>
      match files.makeChain above with
      | (ready, .error error) => (ready, .error error)
      | (ready, .ok ()) =>
        match ready.makeDirectory directory with
        | .ok made => (made, .ok ())
        | .error error =>
          if error = .alreadyExists ∧ ready.leadsToDirectory directory then (ready, .ok ())
          else (ready, .error error)
    | .error error =>
      if error = .alreadyExists ∧ files.leadsToDirectory directory then (files, .ok ())
      else (files, .error error)

/-- The names in a list given from the last to the first, and those of every
directory above. -/
def upwards : List String → List (List String)
  | [] => []
  | name :: before => (name :: before) :: upwards before

/-- The directories that a path names, from the longest way to the shortest.  The
longest is the path as it stands, up to the slashes at its end; in the others, names
that stay where they are do not count. -/
def directoryChain (path : String) : List (List String) :=
  match (names path).reverse.dropWhile (· = "") with
  | [] => []
  | last :: before =>
    (last :: before) :: upwards (((last :: before).filter (!isHere ·)).drop 1)

/-- Make the directory at the end of a path, with all those above it. -/
def makeDirectories (files : FileSystem) (path : String) : FileSystem × Except FileError Unit :=
  match pathFault? path with
  | some error => (files, .error error)
  | none => files.makeChain (directoryChain path)

/-- A file system in the state of a program is its disk. -/
instance : Disk (StateM FileSystem) where
  pathExists path := fun files => (files.pathExists path, files)
  readText path := fun files => (files.readText path, files)
  makeDirectories path := fun files => ((files.makeDirectories path).2, (files.makeDirectories path).1)
  writeText path text := fun files =>
    match files.writeText path text with
    | .ok written => (.ok (), written)
    | .error error => (.error error, files)

section Runs

variable (files : FileSystem) (path : String)

/-- A program goes on with the files that its first step has left. -/
theorem run_bind {α β : Type} (step : StateM FileSystem α) (next : α → StateM FileSystem β) :
    (step >>= next).run files = (next (step.run files).1).run (step.run files).2 := rfl

theorem run_pathExists :
    (Disk.pathExists path : StateM FileSystem Bool).run files = (files.pathExists path, files) :=
  rfl

theorem run_readText :
    (Disk.readText path : StateM FileSystem _).run files = (files.readText path, files) := rfl

theorem run_makeDirectories :
    (Disk.makeDirectories path : StateM FileSystem _).run files
      = ((files.makeDirectories path).2, (files.makeDirectories path).1) := rfl

theorem run_writeText (text : String) :
    (Disk.writeText path text : StateM FileSystem _).run files
      = match files.writeText path text with
        | .ok written => (.ok (), written)
        | .error error => (.error error, files) := rfl

end Runs

/-! ## Setting up and comparing -/

/-- The file system with an item at the end of a path, and directories on the way.  A
directory that is there already stays as it is. -/
def place (files : FileSystem) (path : String) (item : Item) : FileSystem :=
  let location := (names path).filter (!isHere ·)
  if item.isDirectory && (files.get? location).any Item.isDirectory then files
  else files.put location item

/-- The path to a name below another path. -/
def below (path name : String) : String := if path.isEmpty then name else path ++ "/" ++ name

mutual
/-- The files and directories from an item at a path on that are new, or have another
content than before. -/
def itemChanges (path : String) (before? : Option Item) : Item → List (String × Item)
  | .file content =>
    match before? with
    | some (.file earlier) => if earlier.data == content.data then [] else [(path, .file content)]
    | _ => [(path, .file content)]
  | .directory ⟨entries⟩ =>
    (if before?.any Item.isDirectory then [] else [(path, .directory ⟨entries⟩)])
      ++ entryChanges path before? entries

/-- The changes among entries of a directory at a path. -/
def entryChanges (path : String) (before? : Option Item) :
    List (Binding String Item) → List (String × Item)
  | [] => []
  | ⟨name, item⟩ :: rest =>
    itemChanges (below path name) (before?.bind (·.child? name)) item
      ++ entryChanges path before? rest
end

/-- What is new or different in a file system, with the path to it, in the order of
the paths. -/
def changesSince (files before : FileSystem) : List (String × Item) :=
  (entryChanges "" (some before.top) files.entries.toList).mergeSort
    fun first second => first.1 ≤ second.1

end FileSystem

end CustomProperties
