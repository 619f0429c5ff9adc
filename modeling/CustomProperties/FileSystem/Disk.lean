import CustomProperties.FileSystem.Error

/-!
# Disks

The few things that the program does with files.  Programs are written for every
`Disk`, so the same program runs on an actual disk and on a `FileSystem`.
-/

namespace CustomProperties

set_option autoImplicit false

/-- A monad with access to files. -/
class Disk (m : Type → Type) where
  /-- Whether a path leads to a file or a directory. -/
  pathExists : String → m Bool
  /-- The content of a file. -/
  readText : String → m (Except FileError String)
  /-- Make a directory with all those above it that are missing. -/
  makeDirectories : String → m (Except FileError Unit)
  /-- Write a file, replacing its content if it exists. -/
  writeText : String → String → m (Except FileError Unit)

end CustomProperties
