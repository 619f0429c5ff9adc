import CustomProperties.Log.Field
import CustomProperties.Log.Record
import CustomProperties.Text.Alphanumeric
import CustomProperties.Text.Blank
import CustomProperties.Text.Bytes

/-!
# Directives of a log filter

A directive tells how much is shown of the records whose target begins with its own
target:

    target=level
    target
    level
    target[span]=level
    target[{field}]=level

A target without a level shows everything.  A level alone says nothing, because the
level for everything is set by the program.  What stands in brackets narrows a
directive to the inside of a span, or to records with a field; no record here is
inside of a span, and the one field of a record is its message.

Where the parts of a directive are is found in the text without the blanks at its
ends, and counted in bytes.  The parts themselves are taken at those places from the
text as it was given, so blanks in front displace them.
-/

namespace CustomProperties.Log

set_option autoImplicit false

/-- How much is shown of the targets with a common beginning. -/
structure Directive where
  target : List Char
  /-- Whether it asks for the message, which every record has. -/
  asksMessage : Bool
  verbosity : Nat
  deriving DecidableEq, Repr

/-- Why a text is no directive. -/
inductive DirectiveError where
  | malformed
  | unknownLevel
  | unusableValue (fault : Pattern.Fault)
  deriving DecidableEq, Repr

/-- The wording of an error. -/
def DirectiveError.message : DirectiveError → String
  | .malformed => "invalid filter directive"
  | .unknownLevel => "error parsing level filter: expected one of \"off\", \"error\", \"warn\", "
      ++ "\"info\", \"debug\", \"trace\", or a number 0-5"
  | .unusableValue fault => "invalid field filter: " ++ fault.message

/-! ## Levels -/

/-- The number that digits write. -/
def decimalValue (digits : List Char) : Nat :=
  digits.foldl (fun value digit => value * 10 + (digit.toNat - '0'.toNat)) 0

/-- The verbosity that a number stands for; a plus sign may stand in front. -/
def numberedVerbosity? (word : List Char) : Option Nat :=
  let digits :=
    match word with
    | '+' :: rest => rest
    | rest => rest
  if digits.isEmpty || !digits.all Char.isDigit then none
  else if decimalValue digits ≤ Level.trace.verbosity then some (decimalValue digits)
  else none

/-- The verbosity that a word stands for, in either case. -/
def namedVerbosity? (word : List Char) : Option Nat :=
  match String.ofList (word.map Char.toLower) with
  | "off" => some 0
  | "error" => some Level.error.verbosity
  | "warn" => some Level.warn.verbosity
  | "info" => some Level.info.verbosity
  | "debug" => some Level.debug.verbosity
  | "trace" => some Level.trace.verbosity
  | _ => none

/-- The verbosity that a level is written for. -/
def verbosity? (word : List Char) : Option Nat :=
  (numberedVerbosity? word).orElse fun _ => namedVerbosity? word

/-- The verbosity of a directive with a level, which may be empty. -/
def levelOf (word : List Char) : Except DirectiveError Nat :=
  if word.isEmpty then .ok Level.trace.verbosity
  else
    match verbosity? word with
    | some verbosity => .ok verbosity
    | none => .error .unknownLevel

/-! ## Parts -/

/-- A directive being read: the text as it was given, and without blanks at its ends. -/
structure Source where
  given : List Char
  trimmed : List Char

/-- The part of the given text that stands where `part` stands in the trimmed one,
when `after` follows it there. -/
def Source.part (source : Source) (part after : List Char) : List Char :=
  Text.takeBytes (Text.utf8Size part) <|
    Text.dropBytes (Text.utf8Size source.trimmed - Text.utf8Size after - Text.utf8Size part)
      source.given

/-- The part of the given text from the place of `last` in the trimmed one on. -/
def Source.remainder (source : Source) (last : List Char) : List Char :=
  Text.dropBytes (Text.utf8Size source.trimmed - Text.utf8Size last) source.given

/-- Read the field behind an opening brace, and what follows its closing one.  A field
behind the name of a span says nothing more, but has to be readable all the same. -/
def readBraces (source : Source) (named : Bool) (inner : List Char) :
    Except DirectiveError (Scope × List Char) :=
  match inner.takeWhile (· ≠ '\x7d'), inner.dropWhile (· ≠ '\x7d') with
  | first :: others, close :: after =>
    match readField (source.part (first :: others) (close :: after)) with
    | .error fault => .error (.unusableValue fault)
    | .ok scope => .ok (if named then .elsewhere else scope, after)
  | _, _ => .error .malformed

/-- Read what brackets hold, after the opening one, and what follows them. -/
def readScope (source : Source) (inner : List Char) :
    Except DirectiveError (Scope × List Char) :=
  let span := inner.takeWhile fun char => char ≠ ']' && char ≠ '\x7b'
  match inner.dropWhile fun char => char ≠ ']' && char ≠ '\x7b' with
  | [] => .error .malformed
  | ']' :: after => .ok (.elsewhere, after)
  | _ :: field => do
    match ← readBraces source (!span.isEmpty) field with
    | (scope, ']' :: after) => return (scope, after)
    | _ => .error .malformed

/-- The directive for a target and a scope, with the level that follows them. -/
def withScope (source : Source) (target : List Char) (scope : Scope) (after : List Char) :
    Except DirectiveError (Option Directive) := do
  let verbosity ←
    match after with
    | [] => .ok Level.trace.verbosity
    | '=' :: level => levelOf (source.remainder level)
    | _ => .error .malformed
  match scope with
  | .message => return some ⟨target, true, verbosity⟩
  | .elsewhere => return none

/-! ## Whole directives -/

/-- Whether a directive may begin with a character, apart from a bracket. -/
def mayBegin (char : Char) : Bool :=
  char = '-' || char = ':' || char = '_' || Text.isAlphanumeric char

/-- The directive of a text without level and brackets. -/
def bareDirective (text : List Char) : Option Directive :=
  if (verbosity? text).isSome then none else some ⟨text, false, Level.trace.verbosity⟩

/-- **The directive that a text writes**, or `none` if it concerns no record. -/
def readDirective (text : List Char) : Except DirectiveError (Option Directive) :=
  let source : Source := ⟨text, Text.trim text⟩
  match source.trimmed with
  | [] => .error .malformed
  | '[' :: inner => do
    let (scope, after) ← readScope source inner
    withScope source [] scope after
  | first :: _ =>
    if !mayBegin first then .error .malformed
    else
      let name := source.trimmed.takeWhile fun char => char ≠ '=' && char ≠ '['
      let target := Text.takeBytes (Text.utf8Size name) text
      match source.trimmed.dropWhile fun char => char ≠ '=' && char ≠ '[' with
      | [] => .ok (bareDirective text)
      | '=' :: level =>
        (levelOf (source.remainder level)).map fun verbosity => some ⟨target, false, verbosity⟩
      | _ :: inner => do
        let (scope, after) ← readScope source inner
        withScope source target scope after

end CustomProperties.Log
