import CustomProperties.CommandLine.Run

/-!
# The program

The command line on an actual disk: it reads the arguments, runs the command, prints
what the run yields, and exits with its status.
-/

namespace CustomProperties

set_option autoImplicit false

/-- A system error with its number. -/
def systemError (details : String) (code : UInt32) : FileError :=
  .other (details ++ " (os error " ++ toString code.toNat ++ ")")

/-- The error of a file that a system error means. -/
def FileError.ofSystem : IO.Error → FileError
  | .noFileOrDirectory _ _ _ => .notFound
  | .alreadyExists _ _ _ => .alreadyExists
  | .inappropriateType _ code details =>
    if code = 20 then .notDirectory
    else if code = 21 then .isDirectory
    else systemError details code
  | .permissionDenied _ code details => systemError details code
  | .invalidArgument _ code details =>
    if code = 36 then .nameTooLong else systemError details code
  | .resourceExhausted _ code details => systemError details code
  | error => .other (toString error)

/-- An action whose system errors are errors of files. -/
def attempt {α : Type} (action : IO α) : BaseIO (Except FileError α) := do
  match ← action.toBaseIO with
  | .ok value => return .ok value
  | .error error => return .error (.ofSystem error)

instance : Disk BaseIO where
  pathExists path := do
    match ← attempt (IO.FS.Handle.mk path .read) with
    | .ok _ => return true
    | .error error => return !(error = .notFound || error = .notDirectory)
  readText path := do
    match ← attempt (IO.FS.readBinFile path) with
    | .error error => return .error error
    | .ok content =>
      match String.fromUTF8? content with
      | some text => return .ok text
      | none => return .error .notText
  makeDirectories path := do
    if path.isEmpty then return .ok ()
    match ← attempt (IO.FS.createDir path) with
    | .ok () => return .ok ()
    | .error .notFound => attempt (IO.FS.createDirAll path)
    | .error .alreadyExists => attempt (IO.FS.createDirAll path)
    | .error error => return .error error
  writeText path text := attempt (IO.FS.writeFile path text)

/-- A time in milliseconds with two decimals. -/
def milliseconds (nanoseconds : Nat) : String :=
  let hundredths := (nanoseconds + 5000) / 10000
  let fraction := toString (hundredths % 100)
  toString (hundredths / 100) ++ "." ++ (if fraction.length = 1 then "0" else "") ++ fraction

/-- How the program is called. -/
def usage : String :=
  "Generate CSS custom property stylesheets from variable maps\n\n" ++
  "Usage: " ++ pluginName ++ " [-v] <COMMAND>\n\n" ++
  "Commands:\n" ++
  "  build <OPTIONS> [-o <DIR>]  Write every module with variables to a directory\n" ++
  "  render <OPTIONS> <ID>       Print a single module\n" ++
  "  bundle <OPTIONS> <ID>...    Print several modules concatenated in the given order\n" ++
  "  check <OPTIONS>             Validate options and report diagnostics\n"

/-- Run a command on the disk. -/
def execute (invocation : CommandLine.Invocation) : IO UInt32 := do
  let directives := (← IO.getEnv "RUST_LOG").getD ""
  let start ← IO.monoNanosNow
  let outcome ← (CommandLine.run invocation.command : BaseIO CommandLine.Outcome)
  let elapsed := milliseconds ((← IO.monoNanosNow) - start)
  IO.eprint (outcome.sideText (invocation.filter directives))
  IO.print (CommandLine.outputText elapsed outcome.output)
  return outcome.status.toUInt32

end CustomProperties

open CustomProperties in
def main (arguments : List String) : IO UInt32 := do
  match CommandLine.parse arguments with
  | .run invocation => execute invocation
  | .version => IO.println CommandLine.versionLine; return 0
  | .help => IO.print usage; return 0
  | .misuse => IO.eprint usage; return 2
