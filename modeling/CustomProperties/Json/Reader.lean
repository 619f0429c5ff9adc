import CustomProperties.Json.Basic
import CustomProperties.Json.Literal
import CustomProperties.Json.Quoted

/-!
# Reading JSON texts

`Json.parse` reads a whole text.  Arrays and objects nest at most `nestingLimit`
deep: the reader of a value is given the reader for the values inside it, and the
innermost one is given none.  What an array and an object have in common, items
between brackets with commas in between, is `readSequence`.

In an object the last value of a repeated name counts, in the place of the first.
-/

namespace CustomProperties.Json

set_option autoImplicit false

open Text (Rest)

variable {α : Type}

/-! ## Sequences in brackets -/

/-- How a bracketed sequence ends, and what is wrong with one that does not. -/
structure Enclosure where
  close : Char
  unfinished : Cause
  expected : Cause

/-- Arrays. -/
def brackets : Enclosure := ⟨']', .endInList, .expectedCommaOrBracket⟩

/-- Objects. -/
def braces : Enclosure := ⟨'\x7d', .endInObject, .expectedCommaOrBrace⟩

/-- Read items, of which there is at least one, up to and with the closing bracket. -/
def readItems (enclosure : Enclosure) (item : Reader α) : Reader (List α) := fun input =>
  match item input with
  | .error fault => .error fault
  | .ok first =>
    have firstShorter := first.shorter
    have blanks := length_skipBlanks_le first.rest
    match unread : skipBlanks first.rest with
    | [] => .error (.facing enclosure.unfinished [])
    | char :: after =>
      have afterShorter : after.length < input.length := by
        rw [unread, List.length_cons] at blanks
        omega
      if char = enclosure.close then .ok ⟨[first.value], after, afterShorter⟩
      else if char = ',' then
        have := length_skipBlanks_le after
        if (skipBlanks after).head? = some enclosure.close then
          .error (.facing .trailingComma (skipBlanks after))
        else
          match readItems enclosure item (skipBlanks after) with
          | .error fault => .error fault
          | .ok others =>
            .ok ⟨first.value :: others.value, others.rest, by have := others.shorter; omega⟩
      else .error (.facing enclosure.expected (char :: after))
termination_by input => input.length

/-- Read a sequence after its opening bracket. -/
def readSequence (enclosure : Enclosure) (item : Reader α) : Reader (List α) :=
  afterBlanks fun
    | [] => .error (.facing enclosure.unfinished [])
    | char :: after =>
      if char = enclosure.close then .ok (.char char after [])
      else readItems enclosure item (char :: after)

/-- Read the name of a member, its colon and its value. -/
def readMember (value : Reader Json) : Reader (Binding String Json) := fun input =>
  match input with
  | [] => .error (.facing .endInValue [])
  | '"' :: quoted =>
    match readQuoted quoted with
    | .error fault => .error fault
    | .ok name =>
      match unread : skipBlanks name.rest with
      | [] => .error (.facing .endInObject [])
      | ':' :: after =>
        match value after with
        | .error fault => .error fault
        | .ok step =>
          .ok ⟨⟨name.value, step.value⟩, step.rest, by
            have := length_skipBlanks_le name.rest
            have := name.shorter
            have := step.shorter
            rw [unread] at *
            simp only [List.length_cons] at *
            omega⟩
      | char :: after => .error (.facing .expectedColon (char :: after))
  | char :: rest => .error (.facing .nameNotString (char :: rest))

/-! ## Values -/

/-- Read the remaining letters of a word that has begun. -/
def readWord : List Char → (input : List Char) → Except Fault (Rest input)
  | [], input => .ok (.all input)
  | _ :: _, [] => .error (.facing .endInValue [])
  | letter :: letters, char :: rest =>
    if char = letter then
      match readWord letters rest with
      | .ok left => .ok (left.behind char)
      | .error fault => .error fault
    else .error (.facing .expectedWord (char :: rest))

/-- The step over a word whose first letter has been seen, to the value it means. -/
def wordStep (value : Json) (letters : List Char) (first : Char) (rest : List Char) :
    Reading Json (first :: rest) :=
  (readWord letters rest).map fun left => .before first left value

/-- Read a value that starts with the next character.  `inner?` reads the values
inside an array or object, if those may nest further. -/
def readHere (inner? : Option (Reader Json)) : Reader Json := fun input =>
  match input with
  | [] => .error (.facing .endInValue [])
  | 'n' :: rest => wordStep .null ['u', 'l', 'l'] 'n' rest
  | 't' :: rest => wordStep (.bool true) ['r', 'u', 'e'] 't' rest
  | 'f' :: rest => wordStep (.bool false) ['a', 'l', 's', 'e'] 'f' rest
  | '"' :: rest => Reading.behind '"' ((readQuoted rest).map (·.map .string))
  | '[' :: rest =>
    match inner? with
    | none => .error (.facing .tooDeep ('[' :: rest))
    | some inner =>
      Reading.behind '[' ((readSequence brackets inner rest).map (·.map .array))
  | '\x7b' :: rest =>
    match inner? with
    | none => .error (.facing .tooDeep ('\x7b' :: rest))
    | some inner =>
      Reading.behind '\x7b' ((readSequence braces (readMember inner) rest).map
        (·.map fun members => .object (.ofList members)))
  | char :: rest =>
    if char = '-' || char.isDigit then (readNumber (char :: rest)).map (·.map .number)
    else .error (.facing .expectedValue (char :: rest))

/-- Read a value in which arrays and objects nest at most so many deep. -/
def readValue : Nat → Reader Json
  | 0 => afterBlanks (readHere none)
  | depth + 1 => afterBlanks (readHere (some (readValue depth)))

/-- How deep arrays and objects may nest. -/
def nestingLimit : Nat := 127

/-! ## Whole texts -/

/-- Read a text that holds one value and nothing else. -/
def readText (input : List Char) : Except Fault Json :=
  match readValue nestingLimit input with
  | .error fault => .error fault
  | .ok step =>
    match skipBlanks step.rest with
    | [] => .ok step.value
    | unread => .error (.facing .trailingCharacters unread)

/-- **The value that a JSON text holds**, or its first fault. -/
def parse (text : String) : Except SyntaxError Json :=
  match readText text.toList with
  | .ok value => .ok value
  | .error fault => .error (.ofFault text.toList fault)

end CustomProperties.Json
