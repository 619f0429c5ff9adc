import CustomProperties.Pattern.Modes
import CustomProperties.Text.Hexadecimal

/-!
# Atoms of a pattern

An atom is what a pattern asks for at one place: a character, one of several, or an
edge.  Most characters stand for themselves.  A backslash takes the meaning from a
sign and gives one to a letter; a class of characters by its property is none of the
meanings.

There are no tables of characters, so among characters neither case nor letters and
digits are known.  Among bytes they are, but nothing may be asked for that fits only
a part of a longer character.
-/

namespace CustomProperties.Pattern

set_option autoImplicit false

open Text (Step Rest)

/-- What a pattern asks for at one place. -/
inductive Atom where
  /-- A character, which may be given as a byte by two hexadecimal digits. -/
  | character (char : Char) (asByte : Bool)
  /-- Any character. -/
  | anyCharacter
  /-- Digits, blanks or the characters of words, or all others. -/
  | shorthand (negated : Bool)
  /-- The beginning or end of the text or a line. -/
  | textEdge
  /-- The beginning or end of a word, or a place that is neither. -/
  | wordEdge
  deriving DecidableEq, Repr

/-- Whether a code point is one of ASCII. -/
def isAscii (char : Char) : Bool := char.toNat < 0x80

/-! ## What may be asked for -/

/-- Whether an atom may be asked for. -/
def Modes.allows (modes : Modes) : Atom → Bool
  | .character char asByte =>
    if modes.bytewise then !asByte || isAscii char else !modes.caseless
  | .anyCharacter => !modes.bytewise
  | .shorthand negated => modes.bytewise && !negated
  | .textEdge => true
  | .wordEdge => true

/-- Whether a set may hold a character. -/
def Modes.allowsMember (modes : Modes) (char : Char) : Bool :=
  if modes.bytewise then isAscii char else !modes.caseless

/-- Whether a set may hold a named class, such as `[:alpha:]`. -/
def Modes.allowsNamed (modes : Modes) (negated : Bool) : Bool :=
  if modes.bytewise then !negated else !modes.caseless

/-- Whether a set may hold an atom. -/
def Modes.allowsInSet (modes : Modes) : Atom → Bool
  | .character char _ => modes.allowsMember char
  | .shorthand negated => modes.allows (.shorthand negated)
  | _ => false

/-! ## Escapes -/

/-- The atom of a letter or sign after a backslash. -/
def Atom.ofEscape? : Char → Option Atom
  | 'A' => some .textEdge
  | 'z' => some .textEdge
  | 'b' => some .wordEdge
  | 'B' => some .wordEdge
  | '<' => some .wordEdge
  | '>' => some .wordEdge
  | 'd' => some (.shorthand false)
  | 's' => some (.shorthand false)
  | 'w' => some (.shorthand false)
  | 'D' => some (.shorthand true)
  | 'S' => some (.shorthand true)
  | 'W' => some (.shorthand true)
  | 'a' => some (.character '\x07' false)
  | 't' => some (.character '\t' false)
  | 'n' => some (.character '\n' false)
  | 'v' => some (.character '\x0b' false)
  | 'f' => some (.character '\x0c' false)
  | 'r' => some (.character '\r' false)
  | sign => if isAscii sign && !sign.isAlphanum then some (.character sign false) else none

/-- How many hexadecimal digits follow a letter after a backslash. -/
def hexLength? : Char → Option Nat
  | 'x' => some 2
  | 'u' => some 4
  | 'U' => some 8
  | _ => none

/-- Read hexadecimal digits behind those that write `value`. -/
def readHex (modes : Modes) : Nat → Nat → (input : List Char) → Option (Nat × Rest input)
  | 0, value, input => some (value, .all input)
  | count + 1, value, input =>
    match modes.skip input with
    | ⟨[], _⟩ => none
    | ⟨digit :: rest, within⟩ => do
      let units ← Text.hexValue? digit
      let (total, left) ← readHex modes count (value * 16 + units) rest
      return (total, (left.behind digit).widen within)

/-- Read an escape after its backslash. -/
def readEscape (modes : Modes) : (input : List Char) → Option (Step Atom input)
  | [] => none
  | letter :: rest =>
    match hexLength? letter with
    | some count =>
      match readHex modes count 0 rest with
      | some (value, left) =>
        if value.isValidChar then
          some (.before letter left (.character (Char.ofNat value) (letter = 'x')))
        else none
      | none => none
    | none => (Atom.ofEscape? letter).map (.char letter rest)

/-! ## Atoms outside of sets -/

/-- The atom of a character that no backslash stands in front of. -/
def Atom.ofPlain : Char → Atom
  | '.' => .anyCharacter
  | '^' => .textEdge
  | '$' => .textEdge
  | char => .character char false

/-- Read an atom. -/
def readAtom (modes : Modes) : (input : List Char) → Option (Step Atom input)
  | [] => none
  | '\\' :: rest => (readEscape modes rest).map (·.behind '\\')
  | char :: rest => some (.char char rest (.ofPlain char))

end CustomProperties.Pattern
