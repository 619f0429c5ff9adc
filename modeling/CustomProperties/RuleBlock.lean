import CustomProperties.Variable

/-!
# Rule blocks

A rule block declares variables under a selector.  Pretty blocks hold one indented
declaration per line; others stand on one line without blanks between
declarations:

    :root {
      --name: value;
    }

    :root {--name: value;}

A value marked as quoted, and every empty value, is written as a string literal in
which the quote and the backslash are escaped by a backslash.  All other values
are written as they are.  There is no block without declarations.

Memory has no bounds here, so a block may be of any length: an indent is written out
whatever its size, also where no machine could hold the text.
-/

namespace CustomProperties

set_option autoImplicit false

/-! ## Formatting -/

/-- The default selector. -/
def defaultSelector : String := ":root"

/-- The default number of blanks that indent a declaration. -/
def defaultTabSize : Nat := 2

/-- The white space of a block. -/
structure Formatting where
  /-- One declaration per line. -/
  pretty : Bool
  /-- Indent by a tab instead of blanks. -/
  useTabs : Bool
  /-- How many blanks indent a declaration. -/
  tabSize : Nat
  tabSize_pos : 0 < tabSize
  deriving DecidableEq, Repr

/-- The default number of blanks is positive. -/
theorem defaultTabSize_pos : 0 < defaultTabSize := Nat.zero_lt_two

/-- Pretty formatting with the default indent. -/
def Formatting.standard : Formatting := ⟨true, false, defaultTabSize, defaultTabSize_pos⟩

/-- Formatting without line breaks. -/
def Formatting.minified : Formatting := { Formatting.standard with pretty := false }

/-- What stands in front of a declaration on its line. -/
def Formatting.indent (formatting : Formatting) : List Char :=
  if formatting.useTabs then ['\t'] else List.replicate formatting.tabSize ' '

/-! ## Values -/

/-- A character of a string literal. -/
def escapeQuoted (char : Char) : List Char :=
  if char = '"' ∨ char = '\\' then ['\\', char] else [char]

/-- A text as a string literal. -/
def stringLiteral (text : List Char) : List Char := '"' :: text.flatMap escapeQuoted ++ ['"']

/-- A value as its declaration writes it. -/
def Value.written (value : Value) : List Char :=
  if value.needsQuotes then stringLiteral value.text.toList else value.text.toList

/-- The text of a value in a declaration. -/
def Value.css (value : Value) : String := String.ofList value.written

/-! ## Blocks -/

/-- The declaration of a variable. -/
def declaration (property : Variable) : List Char :=
  '-' :: '-' :: property.name.toList ++ ':' :: ' ' :: property.value.written ++ [';']

/-- What stands between the braces. -/
def blockBody (formatting : Formatting) (properties : List Variable) : List Char :=
  if formatting.pretty then
    properties.flatMap (fun property => '\n' :: formatting.indent ++ declaration property) ++ ['\n']
  else properties.flatMap declaration

/-- A block with its selector and braces. -/
def blockCharacters (selector : String) (formatting : Formatting) (properties : List Variable) :
    List Char :=
  selector.toList ++ ' ' :: '\x7b' :: blockBody formatting properties ++ ['\x7d']

/-- **The rule block that declares `properties`**, or nothing if there are none. -/
def ruleBlock (selector : String) (formatting : Formatting) (properties : List Variable) : String :=
  if properties.isEmpty then ""
  else String.ofList (blockCharacters selector formatting properties)

/-- A block is empty only if it declares nothing. -/
theorem ruleBlock_eq_empty_iff (selector : String) (formatting : Formatting)
    (properties : List Variable) :
    ruleBlock selector formatting properties = "" ↔ properties = [] := by
  rw [ruleBlock]
  cases properties with
  | nil => simp
  | cons property rest => simp [blockCharacters]

end CustomProperties
