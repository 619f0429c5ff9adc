/-!
# Log records

The program says on the side what it does.  Each record has a level, the part of
the program it comes from, and a message.  Records are plain data that an
operation returns beside its result; whether a record is shown is decided at the
end, and nothing else depends on it.
-/

namespace CustomProperties.Log

set_option autoImplicit false

/-- How important a record is, from the most important on. -/
inductive Level where
  | error
  | warn
  | info
  | debug
  | trace
  deriving DecidableEq, Repr

/-- The name of a level at the front of a line. -/
def Level.label : Level → String
  | .error => "ERROR"
  | .warn => "WARN"
  | .info => "INFO"
  | .debug => "DEBUG"
  | .trace => "TRACE"

/-- How much is shown when the records of a level and of all more important ones
are shown; zero is for nothing at all. -/
def Level.verbosity : Level → Nat
  | .error => 1
  | .warn => 2
  | .info => 3
  | .debug => 4
  | .trace => 5

/-- The parts of the program that records come from. -/
inductive Origin where
  | options
  | compilation
  | modules
  | files
  | command
  deriving DecidableEq, Repr

/-- The name under which the records of a part are selected. -/
def Origin.target : Origin → String
  | .options => "cssvars_core::options"
  | .compilation => "cssvars_core::compile"
  | .modules => "cssvars_core::host"
  | .files => "cssvars_core::output"
  | .command => "cssvars::render"

/-- Something that the program did. -/
structure Record where
  level : Level
  origin : Origin
  message : String
  deriving DecidableEq, Repr

/-- One character of a message: those that steer a terminal stand as numbers. -/
def escapeControl (char : Char) : List Char :=
  if char = '\x1b' then ['\\', 'x', '1', 'b']
  else if char = '\x07' then ['\\', 'x', '0', '7']
  else if char = '\x08' then ['\\', 'x', '0', '8']
  else if char = '\x0c' then ['\\', 'x', '0', 'c']
  else if char = '\x7f' then ['\\', 'x', '7', 'f']
  else if 0x80 ≤ char.toNat ∧ char.toNat ≤ 0x9f then
    ['\\', 'u', '\x7b'] ++ Nat.toDigits 16 char.toNat ++ ['\x7d']
  else [char]

/-- A record as it is shown. -/
def Record.text (record : Record) : String :=
  record.level.label ++ " " ++ String.ofList (record.message.toList.flatMap escapeControl)

end CustomProperties.Log
