import CustomProperties.Pattern.Atom
import CustomProperties.Pattern.Height

/-!
# Sets of characters

    [members]   [^members]

A set in brackets has members: characters, ranges of them, named classes such as
`[:alpha:]`, and sets.  The doubled signs `&&`, `--` and `~~` are operators between
rows of members.  Dashes in front of all members are members, and so is a closing
bracket there.
-/

namespace CustomProperties.Pattern

set_option autoImplicit false

open Text (Step Rest)

/-- A set as far as it has been read. -/
structure OpenSet where
  negated : Bool
  /-- Whether nothing or only dashes have been read. -/
  begins : Bool
  /-- The height of what stands in front of the last operator. -/
  operand : Option Nat
  /-- The heights of the members since then. -/
  members : List Nat

/-- The height of the rows of members and their operators. -/
def OpenSet.contentHeight (set : OpenSet) : Nat :=
  match set.operand with
  | none => jointHeight set.members
  | some operand => highest [operand, jointHeight set.members] + 1

/-- A set of which nothing has been read. -/
def OpenSet.empty (negated : Bool) : OpenSet := ⟨negated, true, none, []⟩

/-- The set with one more member. -/
def OpenSet.add (set : OpenSet) (height : Nat) : OpenSet :=
  { set with begins := false, members := height :: set.members }

/-- The set with an operator behind its members. -/
def OpenSet.operate (set : OpenSet) : OpenSet :=
  { set with begins := false, operand := some set.contentHeight, members := [] }

/-! ## Beginnings -/

/-- Read the sign that negates a set, if it is there. -/
def readNegation : (input : List Char) → Bool × Rest input
  | '^' :: rest => (true, (Rest.all rest).behind '^')
  | other => (false, .all other)

/-- Read the beginning of a set after its opening bracket. -/
def readOpenSet (modes : Modes) (input : List Char) : OpenSet × Rest input :=
  let start := modes.skip input
  let (negated, left) := readNegation start.text
  (.empty negated, left.widen start.within)

/-- Whether a sign is a member because the set begins with it: a dash, or a closing
bracket with nothing in front of it. -/
def OpenSet.beginsWith (set : OpenSet) (sign : Char) : Bool :=
  set.begins && (sign = '-' || sign = ']' && set.members.isEmpty)

/-- The set with a sign that it begins with. -/
def OpenSet.begin (set : OpenSet) (sign : Char) : OpenSet :=
  { set.add 0 with begins := sign = '-' }

/-! ## Members -/

/-- The names of classes. -/
def classNames : List String :=
  ["alnum", "alpha", "ascii", "blank", "cntrl", "digit", "graph", "lower", "print", "punct",
  "space", "upper", "word", "xdigit"]

/-- Read the name of a class and the signs behind it. -/
def readClassName (input : List Char) : Option (Rest input) :=
  if classNames.contains (String.ofList (input.takeWhile (· ≠ ':'))) then
    match Rest.dropWhile (· ≠ ':') input with
    | ⟨':' :: ']' :: rest, within⟩ => some ((((Rest.all rest).behind ']').behind ':').widen within)
    | _ => none
  else none

/-- Read a named class after its bracket; the value tells whether it is negated. -/
def readNamedClass : (input : List Char) → Option (Step Bool input)
  | ':' :: '^' :: name => (readClassName name).map fun left => .before ':' (left.behind '^') true
  | ':' :: name => (readClassName name).map fun left => .before ':' left false
  | _ => none

/-- Read a character or an escape. -/
def readMemberAtom (modes : Modes) : (input : List Char) → Option (Step Atom input)
  | [] => none
  | '\\' :: rest => (readEscape modes rest).map (·.behind '\\')
  | char :: rest => some (.char char rest (.character char false))

/-- Whether a dash joins the ends of a range, by what follows it.  It does not in
front of a closing bracket or a dash.  Where comments are left out, this looks past
the sign of a comment, and not past its text. -/
def Modes.joins (modes : Modes) (after : List Char) : Bool :=
  let shown :=
    if modes.spaced then
      match after.dropWhile Text.isBlank with
      | '#' :: comment => comment.dropWhile Text.isBlank
      | other => other
    else after
  shown.head? ≠ some ']' && shown.head? ≠ some '-'

/-- Whether two atoms are the ends of a range that a set may hold. -/
def Modes.allowsRange (modes : Modes) : Atom → Atom → Bool
  | .character first _, .character last _ =>
    modes.allowsMember first && modes.allowsMember last && first ≤ last
  | _, _ => false

/-- Read the second end of a range behind the dash. -/
def readRangeEnd (modes : Modes) (first : Atom) (input : List Char) : Option (Step Unit input) :=
  match modes.afterSkip (readMemberAtom modes) input with
  | none => none
  | some last =>
    if modes.allowsRange first last.value then some (last.map fun _ => ()) else none

/-- Read a character, an escape or a range. -/
def readMember (modes : Modes) (input : List Char) : Option (Step Unit input) :=
  match readMemberAtom modes input with
  | none => none
  | some first =>
    let alone : Option (Step Unit input) :=
      if modes.allowsInSet first.value then some (first.map fun _ => ()) else none
    match modes.skip first.rest with
    | ⟨'-' :: after, within⟩ =>
      if modes.joins after then
        (readRangeEnd modes first.value after).map fun last =>
          ((last.behind '-').widen within).widen (Nat.le_of_lt first.shorter)
      else alone
    | _ => alone

/-- Read an operator. -/
def readOperator : (input : List Char) → Option (Step Unit input)
  | first :: second :: rest =>
    if first = second ∧ ['&', '-', '~'].contains first then
      some ((Step.char second rest ()).behind first)
    else none
  | _ => none

/-! ## Whole sets -/

/-- A set that is being read, with those around it. -/
structure SetReading where
  current : OpenSet
  /-- The sets around it, the innermost first. -/
  outer : List OpenSet

/-- How far a set has been read. -/
inductive SetProgress where
  | inside (reading : SetReading)
  /-- The outermost set has ended, with a height. -/
  | ended (height : Nat)

/-- One more member of the innermost set. -/
def SetReading.add (reading : SetReading) (height : Nat) : SetReading :=
  { reading with current := reading.current.add height }

/-- Read what an opening bracket inside of a set begins. -/
def SetReading.enter (reading : SetReading) (modes : Modes) (input : List Char) :
    Option (SetProgress × Rest input) :=
  match readNamedClass input with
  | some named =>
    if modes.allowsNamed named.value then some (.inside (reading.add 0), named.left) else none
  | none =>
    let (inner, left) := readOpenSet modes input
    some (.inside ⟨inner, reading.current :: reading.outer⟩, left)

/-- End the innermost set. -/
def SetReading.leave (reading : SetReading) (modes : Modes) : Option SetProgress :=
  let height := reading.current.contentHeight + 1
  if reading.current.negated && modes.bytewise then none
  else
    match reading.outer with
    | [] => some (.ended height)
    | around :: further => some (.inside ⟨around.add height, further⟩)

/-- Read an operator or a member that is no set. -/
def SetReading.nextPlain (reading : SetReading) (modes : Modes) (input : List Char) :
    Option (Step SetProgress input) :=
  match readOperator input with
  | some step =>
    some (step.map fun _ => .inside { reading with current := reading.current.operate })
  | none => (readMember modes input).map (·.map fun _ => .inside (reading.add 0))

/-- Read the next part of a set. -/
def SetReading.next (reading : SetReading) (modes : Modes) :
    (input : List Char) → Option (Step SetProgress input)
  | [] => none
  | sign :: rest =>
    if reading.current.beginsWith sign then
      if modes.allowsMember sign then
        some (.char sign rest (.inside { reading with current := reading.current.begin sign }))
      else none
    else if sign = '[' then
      (reading.enter modes rest).map fun (progress, left) => .before sign left progress
    else if sign = ']' then (reading.leave modes).map (.char sign rest)
    else reading.nextPlain modes (sign :: rest)

/-- Read on to the end of the outermost set; the value is its height. -/
def readSetRest (modes : Modes) (reading : SetReading) (input : List Char) :
    Option (Step Nat input) :=
  match modes.afterSkip (reading.next modes) input with
  | none => none
  | some step =>
    have := step.shorter
    match step.value with
    | .ended height => some (step.map fun _ => height)
    | .inside reading => (readSetRest modes reading step.rest).map (Step.after step.left)
termination_by input.length

/-- **Read a set after its opening bracket**; the value is its height. -/
def readSet (modes : Modes) (input : List Char) : Option (Step Nat input) :=
  let (set, left) := readOpenSet modes input
  (readSetRest modes ⟨set, []⟩ left.text).map (Step.after left)

end CustomProperties.Pattern
