import CustomProperties.Text.Hidden

/-!
# Quoted texts

Messages quote a text between double quotes.  The quote and the backslash are
escaped, a few control characters have a letter, and every other character that
does not show stands as its number in braces.
-/

namespace CustomProperties.Text

set_option autoImplicit false

/-- One character of a quoted text. -/
def escapeShown (char : Char) : List Char :=
  if char = '\x00' then ['\\', '0']
  else if char = '\t' then ['\\', 't']
  else if char = '\n' then ['\\', 'n']
  else if char = '\r' then ['\\', 'r']
  else if char = '"' ∨ char = '\\' then ['\\', char]
  else if isHidden char then
    ['\\', 'u', '\x7b'] ++ Nat.toDigits 16 char.toNat ++ ['\x7d']
  else [char]

/-- A text between quotes. -/
def quoted (text : String) : String :=
  String.ofList ('"' :: text.toList.flatMap escapeShown ++ ['"'])

example : quoted "a\"\n\x1b" = "\"a\\\"\\n\\u\x7b1b\x7d\"" := by decide +kernel

end CustomProperties.Text
