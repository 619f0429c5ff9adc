import CustomProperties.Pattern.Modes
import CustomProperties.Text.Alphabetic

/-!
# Groups of a pattern

    (...)   (?<name>...)   (?P<name>...)   (?modes:...)   (?modes)

A parenthesis begins a group, which may have a name or modes of its own, or switches
modes for all that follows in the group around it.
-/

namespace CustomProperties.Pattern

set_option autoImplicit false

open Text (Rest)

/-- What a parenthesis begins. -/
inductive Opening where
  /-- A group in which modes hold. -/
  | group (modes : Modes)
  /-- A group with a name. -/
  | named (name : List Char)
  /-- No group, but modes for what follows. -/
  | switch (modes : Modes)
  deriving DecidableEq, Repr

/-! ## Names -/

/-- Whether a name may begin with a character. -/
def mayBeginName (char : Char) : Bool := char = '_' || Text.isAlphabetic char

/-- Whether a name may go on with a character. -/
def mayFollowInName (char : Char) : Bool :=
  ['_', '.', '[', ']'].contains char || Text.isAlphanumeric char

/-- Whether a text is a name. -/
def isName : List Char → Bool
  | [] => false
  | first :: others => mayBeginName first && others.all mayFollowInName

/-- Read a name up to and with the sign that ends it. -/
def readName (input : List Char) : Option (List Char × Rest input) :=
  let name := input.takeWhile (· ≠ '>')
  match Rest.dropWhile (· ≠ '>') input with
  | ⟨[], _⟩ => none
  | ⟨last :: rest, within⟩ =>
    if isName name then some (name, ((Rest.all rest).behind last).widen within) else none

/-! ## Modes -/

/-- Whether a sign ends the letters for modes. -/
def endsModes (sign : Char) : Bool := sign = ':' || sign = ')'

/-- Read letters for modes up to and with the sign that ends them. -/
def readModes (modes : Modes) (input : List Char) : Option (Opening × Rest input) :=
  let letters := input.takeWhile (!endsModes ·)
  match Rest.dropWhile (!endsModes ·) input with
  | ⟨[], _⟩ => none
  | ⟨last :: rest, within⟩ =>
    match modes.switched? letters with
    | none => none
    | some changed =>
      let left := ((Rest.all rest).behind last).widen within
      if last = ':' then some (.group changed, left)
      else if letters.isEmpty then none
      else some (.switch changed, left)

/-! ## Openings -/

/-- Read what a parenthesis begins, behind it and behind blanks. -/
def readOpeningHere (modes : Modes) : (input : List Char) → Option (Opening × Rest input)
  | '?' :: 'P' :: '<' :: named =>
    (readName named).map fun (name, left) =>
      (.named name, ((left.behind '<').behind 'P').behind '?')
  | '?' :: '<' :: named =>
    (readName named).map fun (name, left) => (.named name, (left.behind '<').behind '?')
  | '?' :: letters =>
    (readModes modes letters).map fun (opening, left) => (opening, left.behind '?')
  | other => some (.group modes, .all other)

/-- **Read what a parenthesis begins**, behind it. -/
def readOpening (modes : Modes) (input : List Char) : Option (Opening × Rest input) :=
  let start := modes.skip input
  (readOpeningHere modes start.text).map fun (opening, left) =>
    (opening, left.widen start.within)

end CustomProperties.Pattern
