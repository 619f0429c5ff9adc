import CustomProperties.Text.Blank
import CustomProperties.Text.Step

/-!
# Modes of a pattern

A pattern says which texts it fits.  How it is read and what it may ask for depends
on modes, which letters switch on and off on the way:

    x   blanks and comments in the pattern are left out
    i   upper and lower case are one
    u   a text is a row of characters, and of bytes when switched off

The letters `m`, `s`, `U` and `R` change which texts a pattern fits, but not whether
it can be used.
-/

namespace CustomProperties.Pattern

set_option autoImplicit false

/-- How a pattern is read. -/
structure Modes where
  /-- Blanks and comments are left out. -/
  spaced : Bool
  /-- Upper and lower case are one. -/
  caseless : Bool
  /-- A text is a row of bytes, and not of characters. -/
  bytewise : Bool
  deriving DecidableEq, Repr

namespace Modes

/-- The modes at the start of a pattern. -/
def initial : Modes := ⟨false, false, false⟩

/-! ## Switching -/

/-- The letters that stand for modes. -/
def letters : List Char := ['x', 'i', 'u', 'm', 's', 'U', 'R']

/-- Switch the mode of a letter. -/
def switch (enabled : Bool) (modes : Modes) : Char → Modes
  | 'x' => { modes with spaced := enabled }
  | 'i' => { modes with caseless := enabled }
  | 'u' => { modes with bytewise := !enabled }
  | _ => modes

/-- Switch modes on by the letters in front of a dash, and off by those behind it.
No letter may come twice, and behind a dash there has to be one. -/
def switched? (modes : Modes) (text : List Char) : Option Modes :=
  let enabled := text.takeWhile (· ≠ '-')
  let disabled := (text.dropWhile (· ≠ '-')).drop 1
  if text.getLast? = some '-' then none
  else if (enabled ++ disabled).all letters.contains ∧ (enabled ++ disabled).Nodup then
    some (disabled.foldl (switch false) (enabled.foldl (switch true) modes))
  else none

/-! ## Blanks and comments -/

/-- Drop blanks and comments; a comment lasts to the end of its line. -/
def dropComments (inComment : Bool) : List Char → List Char
  | [] => []
  | char :: rest =>
    if inComment then dropComments (char ≠ '\n') rest
    else if Text.isBlank char then dropComments false rest
    else if char = '#' then dropComments true rest
    else char :: rest

/-- Dropping comments never lengthens a text. -/
theorem length_dropComments_le (inComment : Bool) (text : List Char) :
    (dropComments inComment text).length ≤ text.length := by
  induction text generalizing inComment with
  | nil => simp [dropComments]
  | cons char rest ih =>
    simp only [dropComments]
    split
    · exact Nat.le_succ_of_le (ih _)
    · split
      · exact Nat.le_succ_of_le (ih _)
      · split
        · exact Nat.le_succ_of_le (ih _)
        · exact Nat.le_refl _

/-- What is left behind that which is left out in front of a text. -/
def skip (modes : Modes) (text : List Char) : Text.Rest text :=
  if modes.spaced then ⟨dropComments false text, length_dropComments_le false text⟩
  else .all text

/-- Read behind what is left out. -/
def afterSkip {α : Type} (modes : Modes)
    (reader : (input : List Char) → Option (Text.Step α input)) (input : List Char) :
    Option (Text.Step α input) :=
  (reader (modes.skip input).text).map (Text.Step.after (modes.skip input))

end Modes

end CustomProperties.Pattern
