import CustomProperties.Text.Bytes

/-!
# What is wrong with a JSON text, and where

Reading a JSON text stops at its first fault.  A fault has a cause and a place.
While a text is read the place is known by what is still unread: most faults
concern the next unread character and point just past its first byte, or to the
end if nothing is left; a few concern what was read last and point to its end.
`SyntaxError.ofFault` turns the place into a line, counted from one, and the
number of bytes before it on that line.
-/

namespace CustomProperties.Json

set_option autoImplicit false

/-- Why a text is not JSON. -/
inductive Cause where
  | endInValue
  | endInString
  | endInList
  | endInObject
  | expectedValue
  | expectedWord
  | expectedCommaOrBracket
  | expectedCommaOrBrace
  | expectedColon
  | nameNotString
  | trailingComma
  | trailingCharacters
  | tooDeep
  | controlCharacter
  | invalidEscape
  | loneSurrogate
  | unpairedSurrogate
  | invalidNumber
  | numberOutOfRange
  deriving DecidableEq, Repr

/-- The wording of a cause. -/
def Cause.message : Cause → String
  | .endInValue => "EOF while parsing a value"
  | .endInString => "EOF while parsing a string"
  | .endInList => "EOF while parsing a list"
  | .endInObject => "EOF while parsing an object"
  | .expectedValue => "expected value"
  | .expectedWord => "expected ident"
  | .expectedCommaOrBracket => "expected `,` or `]`"
  | .expectedCommaOrBrace => "expected `,` or `\x7d`"
  | .expectedColon => "expected `:`"
  | .nameNotString => "key must be a string"
  | .trailingComma => "trailing comma"
  | .trailingCharacters => "trailing characters"
  | .tooDeep => "recursion limit exceeded"
  | .controlCharacter => "control character (\\u0000-\\u001F) found while parsing a string"
  | .invalidEscape => "invalid escape"
  | .loneSurrogate => "lone leading surrogate in hex escape"
  | .unpairedSurrogate => "unexpected end of hex escape"
  | .invalidNumber => "invalid number"
  | .numberOutOfRange => "number out of range"

/-! ## Places -/

/-- A cause and the number of bytes behind the place it points to. -/
structure Fault where
  cause : Cause
  unread : Nat
  deriving DecidableEq, Repr

/-- A fault of the next unread character: it points just past its first byte. -/
def Fault.facing (cause : Cause) (rest : List Char) : Fault := ⟨cause, Text.utf8Size rest - 1⟩

/-- A fault of what was just read: it points to the end of it. -/
def Fault.behind (cause : Cause) (rest : List Char) : Fault := ⟨cause, Text.utf8Size rest⟩

/-- A place in a text: its line, from one, and the bytes before it on that line. -/
structure Position where
  line : Nat
  column : Nat
  deriving DecidableEq, Repr

/-- The place that lies a number of bytes further into a text. -/
def Position.advance : Position → List Char → Nat → Position
  | position, [], _ => position
  | position, char :: rest, bytes =>
    if bytes < char.utf8Size then ⟨position.line, position.column + bytes⟩
    else if char = '\n' then advance ⟨position.line + 1, 0⟩ rest (bytes - 1)
    else advance ⟨position.line, position.column + char.utf8Size⟩ rest (bytes - char.utf8Size)

/-- A fault with its place in the text. -/
structure SyntaxError where
  cause : Cause
  position : Position
  deriving DecidableEq, Repr

/-- Locate a fault in the text that was read. -/
def SyntaxError.ofFault (text : List Char) (fault : Fault) : SyntaxError :=
  ⟨fault.cause, Position.advance ⟨1, 0⟩ text (Text.utf8Size text - fault.unread)⟩

/-- The wording of a syntax error, with its place. -/
def SyntaxError.message (error : SyntaxError) : String :=
  error.cause.message ++ " at line " ++ toString error.position.line
    ++ " column " ++ toString error.position.column

end CustomProperties.Json
