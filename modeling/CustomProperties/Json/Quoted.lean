import CustomProperties.Json.Step
import CustomProperties.Text.Hexadecimal

/-!
# String literals

A string literal ends at the first quote that no backslash escapes.  Characters
below the blank may not stand in it.  An escape is a letter or the four
hexadecimal digits of a UTF-16 unit; a unit of a surrogate pair has to be followed
by the escape of its partner.

The four digits are taken as four bytes.  With fewer bytes left the whole rest is
unfinished; otherwise four bytes are read before they are judged, even if the
last of them ends inside a character.
-/

namespace CustomProperties.Json

set_option autoImplicit false

/-! ## Escapes -/

/-- The character that a letter stands for after a backslash. -/
def escapeLetter? (letter : Char) : Option Char :=
  match letter with
  | '"' => some '"'
  | '\\' => some '\\'
  | '/' => some '/'
  | 'b' => some '\x08'
  | 'f' => some '\x0c'
  | 'n' => some '\n'
  | 'r' => some '\r'
  | 't' => some '\t'
  | _ => none

/-- Read the four digits of a UTF-16 unit. -/
def readUnit : Reader Nat := fun input =>
  match input with
  | first :: second :: third :: fourth :: rest =>
    match Text.hexNumber? [first, second, third, fourth] with
    | some unit => .ok ⟨unit, rest, by simp only [List.length_cons]; omega⟩
    | none => .error ⟨.invalidEscape, Text.utf8Size (first :: second :: third :: fourth :: rest) - 4⟩
  | short =>
    if Text.utf8Size short < 4 then .error (.behind .endInString [])
    else .error ⟨.invalidEscape, Text.utf8Size short - 4⟩

/-- The units that open a surrogate pair. -/
def isLeading (unit : Nat) : Bool := 0xD800 ≤ unit ∧ unit ≤ 0xDBFF

/-- The units that close a surrogate pair. -/
def isTrailing (unit : Nat) : Bool := 0xDC00 ≤ unit ∧ unit ≤ 0xDFFF

/-- The character of a surrogate pair. -/
def pairChar (leading trailing : Nat) : Char :=
  Char.ofNat (0x10000 + (leading - 0xD800) * 0x400 + (trailing - 0xDC00))

/-- Read the partner of a leading surrogate. -/
def readPartner (leading : Nat) : Reader Char
  | [] => .error (.behind .endInString [])
  | '\\' :: [] => .error (.behind .endInString [])
  | '\\' :: 'u' :: digits =>
    match readUnit digits with
    | .error fault => .error fault
    | .ok step =>
      if isTrailing step.value then
        .ok ⟨pairChar leading step.value, step.rest,
          Nat.lt_succ_of_lt (Nat.lt_succ_of_lt step.shorter)⟩
      else .error (.behind .loneSurrogate step.rest)
  | '\\' :: other => .error (.facing .unpairedSurrogate other)
  | other => .error (.facing .unpairedSurrogate other)

/-- Read a character given by its UTF-16 units, after the letter of the escape. -/
def readUnits : Reader Char := fun input =>
  match readUnit input with
  | .error fault => .error fault
  | .ok step =>
    if isTrailing step.value then .error (.behind .loneSurrogate step.rest)
    else if isLeading step.value then
      (readPartner step.value step.rest).map (·.widen (Nat.le_of_lt step.shorter))
    else .ok (step.map Char.ofNat)

/-- Read an escape after its backslash. -/
def readEscape : Reader Char
  | [] => .error (.behind .endInString [])
  | 'u' :: digits => Reading.behind 'u' (readUnits digits)
  | letter :: rest =>
    match escapeLetter? letter with
    | some char => .ok (.char letter rest char)
    | none => .error (.facing .invalidEscape (letter :: rest))

/-! ## Literals -/

/-- Read the characters of a literal up to and with its closing quote. -/
def readCharacters : Reader (List Char) := fun input =>
  match input with
  | [] => .error (.behind .endInString [])
  | '"' :: rest => .ok (.char '"' rest [])
  | '\\' :: escaped =>
    match readEscape escaped with
    | .error fault => .error fault
    | .ok step =>
      have := step.shorter
      match readCharacters step.rest with
      | .error fault => .error fault
      | .ok tail =>
        .ok ⟨step.value :: tail.value, tail.rest, Nat.lt_succ_of_lt (Nat.lt_trans tail.shorter this)⟩
  | char :: rest =>
    if char.toNat < 32 then .error (.facing .controlCharacter (char :: rest))
    else
      match readCharacters rest with
      | .error fault => .error fault
      | .ok tail => .ok ⟨char :: tail.value, tail.rest, Nat.lt_succ_of_lt tail.shorter⟩
termination_by input => input.length

/-- Read a literal after its opening quote. -/
def readQuoted : Reader String := fun input =>
  (readCharacters input).map (·.map String.ofList)

end CustomProperties.Json
