import CustomProperties.Json.Fault
import CustomProperties.Text.Step

/-!
# Steps of reading

A reader takes the unread characters and either stops with a fault or makes a
step: it yields a value and leaves a shorter text unread.
-/

namespace CustomProperties.Json

set_option autoImplicit false

open Text (Step)

/-- What reading the front of `input` comes to. -/
abbrev Reading (α : Type) (input : List Char) := Except Fault (Step α input)

/-- A reader for values of a type. -/
abbrev Reader (α : Type) := (input : List Char) → Reading α input

variable {α : Type}

/-- Read past the character in front. -/
def Reading.behind {rest : List Char} (first : Char) (reading : Reading α rest) :
    Reading α (first :: rest) :=
  reading.map (·.behind first)

/-! ## Blanks -/

/-- The characters that may stand between tokens. -/
def isBlank (char : Char) : Bool := char = ' ' || char = '\n' || char = '\t' || char = '\r'

/-- Drop the blanks at the front of a text. -/
def skipBlanks (input : List Char) : List Char := input.dropWhile isBlank

/-- Skipping blanks never lengthens a text. -/
theorem length_skipBlanks_le (input : List Char) : (skipBlanks input).length ≤ input.length :=
  Text.length_dropWhile_le isBlank input

/-- Read past the blanks in front. -/
def afterBlanks (reader : Reader α) : Reader α := fun input =>
  (reader (skipBlanks input)).map (·.widen (length_skipBlanks_le input))

end CustomProperties.Json
