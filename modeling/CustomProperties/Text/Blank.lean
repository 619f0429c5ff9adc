import CustomProperties.Text.Ranges

/-!
# Blank characters

The characters that count as white space, by version 17 of Unicode, and texts without
those at either end.
-/

namespace CustomProperties.Text

set_option autoImplicit false

/-- The code points that are white space. -/
def blankRanges : CodeRanges :=
  [(0x9, 0xd), (0x20, 0x20), (0x85, 0x85), (0xa0, 0xa0), (0x1680, 0x1680), (0x2000, 0x200a),
  (0x2028, 0x2029), (0x202f, 0x202f), (0x205f, 0x205f), (0x3000, 0x3000)]

/-- Whether a character is white space. -/
def isBlank (char : Char) : Bool := blankRanges.has char

/-- A text without the white space at its ends. -/
def trim (text : List Char) : List Char :=
  ((text.dropWhile isBlank).reverse.dropWhile isBlank).reverse

end CustomProperties.Text
