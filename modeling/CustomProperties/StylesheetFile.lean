import CustomProperties.FileSystem.Disk
import CustomProperties.ModuleRequest

/-!
# Stylesheet files

Stylesheets are written to a directory, each to a file named after its module: the
part of the id after the last colon, with slashes of both kinds replaced and with
the ending of stylesheets.  Stylesheets without text have no file.

Two modules may not share a file.  That is found out first (`scan`), before anything
is touched; then the directory is made, and then the files are written one after
another up to the first one that cannot be written.
-/

namespace CustomProperties

set_option autoImplicit false

/-! ## Names of files -/

/-- The ending of the names of stylesheet files. -/
def stylesheetEnding : List Char := ['.', 'c', 's', 's']

/-- What follows the last colon, or the whole text if there is none. -/
def afterLastColon (text : List Char) : List Char :=
  (text.reverse.takeWhile (· ≠ ':')).reverse

/-- A slash of either kind becomes an underscore. -/
def flattenSlash (char : Char) : Char := if char = '/' ∨ char = '\\' then '_' else char

/-- A text with the ending of stylesheets, which is added unless it is there. -/
def withEnding (text : List Char) : List Char :=
  if stylesheetEnding.isSuffixOf text then text else text ++ stylesheetEnding

/-- The part of an id that names its file; an empty one is replaced. -/
def fileStem (moduleId : List Char) : List Char :=
  match (afterLastColon moduleId).map flattenSlash with
  | [] => ['v', 'a', 'r', 'i', 'a', 'b', 'l', 'e', 's']
  | stem => stem

/-- **The name of the file of a module.** -/
def fileName (moduleId : String) : String :=
  String.ofList (withEnding (fileStem moduleId.toList))

/-- The path to a name in a directory. -/
def pathIn (directory name : String) : String :=
  if directory.isEmpty then name
  else if directory.toList.getLast? = some '/' then directory ++ name
  else directory ++ "/" ++ name

/-! ## Which files to write -/

/-- A file to write. -/
structure OutputFile where
  name : String
  moduleId : String
  text : String
  deriving DecidableEq, Repr

/-- Two modules with the same file. -/
structure Conflict where
  name : String
  first : String
  second : String
  deriving DecidableEq, Repr

/-- What a list of stylesheets means for a directory. -/
structure Scan where
  /-- The modules without a file, up to a conflict. -/
  skipped : List String := []
  /-- The files, in order, up to a conflict. -/
  files : List OutputFile := []
  /-- The first module whose file belongs to an earlier one. -/
  conflict : Option Conflict := none
  deriving DecidableEq, Repr

/-- Go through stylesheets when some names of files belong to modules already. -/
def scanFrom (owners : Bindings String String) : List Stylesheet → Scan
  | [] => {}
  | stylesheet :: rest =>
    match stylesheet.text with
    | none =>
      let later := scanFrom owners rest
      { later with skipped := stylesheet.moduleId :: later.skipped }
    | some text =>
      let name := fileName stylesheet.moduleId
      match owners.get? name with
      | some first => { conflict := some ⟨name, first, stylesheet.moduleId⟩ }
      | none =>
        let later := scanFrom (owners.insert name stylesheet.moduleId) rest
        { later with files := ⟨name, stylesheet.moduleId, text⟩ :: later.files }

/-- Go through all stylesheets. -/
def scan (stylesheets : List Stylesheet) : Scan := scanFrom .empty stylesheets

/-! ## Writing -/

/-- Why stylesheets were not all written. -/
inductive WriteError where
  | conflict (conflict : Conflict)
  /-- The directory could not be made. -/
  | directory (error : FileError)
  /-- A file could not be written. -/
  | file (path : String) (error : FileError)
  deriving DecidableEq, Repr

/-- The wording of an error. -/
def WriteError.message : WriteError → String
  | .conflict ⟨name, first, second⟩ =>
    "modules " ++ first ++ " and " ++ second ++ " both map to output file " ++ name
  | .directory error => "I/O error: " ++ error.message
  | .file path error => "failed to write file " ++ path ++ ": " ++ error.message

/-- A file that has been written. -/
structure WrittenFile where
  moduleId : String
  path : String
  deriving DecidableEq, Repr

/-- What writing came to. -/
structure WriteReport where
  /-- The modules that were found to have no file. -/
  skipped : List String
  /-- The files that were written, in order. -/
  written : List WrittenFile
  failure : Option WriteError
  deriving DecidableEq, Repr

/-- The paths of the files, if all of them were written. -/
def WriteReport.paths (report : WriteReport) : Except WriteError (List String) :=
  match report.failure with
  | some error => .error error
  | none => .ok (report.written.map WrittenFile.path)

variable {m : Type → Type} [Monad m] [Disk m]

/-- Write files to a directory, up to the first one that cannot be written. -/
def writeFiles (directory : String) : List OutputFile → m (List WrittenFile × Option WriteError)
  | [] => pure ([], none)
  | file :: rest => do
    let path := pathIn directory file.name
    match ← Disk.writeText path file.text with
    | .error error => return ([], some (.file path error))
    | .ok () =>
      let (written, failure) ← writeFiles directory rest
      return (⟨file.moduleId, path⟩ :: written, failure)

/-- **Write stylesheets to a directory**, or nothing at all if two of them share a file. -/
def writeStylesheets (stylesheets : List Stylesheet) (directory : String) : m WriteReport := do
  let found := scan stylesheets
  match found.conflict with
  | some conflict => return ⟨found.skipped, [], some (.conflict conflict)⟩
  | none =>
    match ← Disk.makeDirectories directory with
    | .error error => return ⟨found.skipped, [], some (.directory error)⟩
    | .ok () =>
      let (written, failure) ← writeFiles directory found.files
      return ⟨found.skipped, written, failure⟩

end CustomProperties
