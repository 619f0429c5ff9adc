/-!
# Errors of files

What can go wrong when a path is followed, a directory is made, or a file is read
or written.
-/

namespace CustomProperties

set_option autoImplicit false

/-- Why an operation on a path failed. -/
inductive FileError where
  | notFound
  | alreadyExists
  | notDirectory
  | isDirectory
  | nameTooLong
  /-- The path has a zero character. -/
  | zeroInPath
  /-- The content of a file is not text in UTF-8. -/
  | notText
  /-- An error that only an actual disk has. -/
  | other (message : String)
  deriving DecidableEq, Repr

/-- The wording of an error. -/
def FileError.message : FileError → String
  | .notFound => "No such file or directory (os error 2)"
  | .alreadyExists => "File exists (os error 17)"
  | .notDirectory => "Not a directory (os error 20)"
  | .isDirectory => "Is a directory (os error 21)"
  | .nameTooLong => "File name too long (os error 36)"
  | .zeroInPath => "file name contained an unexpected NUL byte"
  | .notText => "stream did not contain valid UTF-8"
  | .other message => message

end CustomProperties
