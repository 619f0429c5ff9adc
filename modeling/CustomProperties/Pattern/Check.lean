import CustomProperties.Pattern.CharacterSet
import CustomProperties.Pattern.Group

/-!
# Which patterns can be used

`Pattern.fault?` reads a pattern from its front to its end and tells what is wrong
with it, if anything is.  A pattern is read as a row of items, with bars between
alternatives and parentheses around groups.  A sign of repetition belongs to the item
in front of it.

A pattern stands in braces and ends with the first that closes, so a number of
repetitions in braces never comes to its end: an opening brace is a fault, unless it
stands in a set or behind a backslash.

A place between words is one of characters unless the modes say otherwise, and such a
place cannot be told byte by byte.  That is noticed only where nothing else is wrong.
-/

namespace CustomProperties.Pattern

set_option autoImplicit false

open Text (Step Rest)

/-- Why a pattern cannot be used. -/
inductive Fault where
  | malformed
  /-- It asks for the edges of words among characters. -/
  | wordEdge
  deriving DecidableEq, Repr

/-- The wording of a fault. -/
def Fault.message : Fault → String
  | .malformed => "error building NFA"
  | .wordEdge => "unsupported regex feature for DFAs: cannot build DFAs for regexes with "
      ++ "Unicode word boundaries; switch to ASCII word boundaries, or heuristically enable "
      ++ "Unicode word boundaries or use a different regex engine"

/-! ## What has been read -/

/-- A part of a row. -/
structure Item where
  height : Nat
  /-- Whether it can be repeated, which a switch of modes cannot. -/
  repeatable : Bool
  deriving DecidableEq, Repr

/-- The content of a group as far as it has been read, or that of the whole pattern. -/
structure Content where
  /-- The heights of the alternatives before the one that is being read. -/
  alternatives : List Nat
  /-- The items of that one, the last one first. -/
  items : List Item

/-- Content of which nothing has been read. -/
def Content.empty : Content := ⟨[], []⟩

/-- The height of the alternative that is being read. -/
def Content.rowHeight (content : Content) : Nat := jointHeight (content.items.map (·.height))

/-- The height of all alternatives. -/
def Content.height (content : Content) : Nat :=
  jointHeight (content.rowHeight :: content.alternatives)

/-- A group that has not ended, seen from what it holds. -/
structure Surroundings where
  /-- What stands in front of it. -/
  content : Content
  /-- The modes that hold again when it has ended. -/
  modes : Modes

/-- What has been read of a pattern. -/
structure Reading where
  modes : Modes
  content : Content
  /-- The groups around it, the innermost first. -/
  outer : List Surroundings
  names : List (List Char)
  /-- Whether edges of words among characters have been asked for. -/
  hasWordEdge : Bool

namespace Reading

/-- Nothing has been read. -/
def start : Reading := ⟨.initial, .empty, [], [], false⟩

/-- One more item. -/
def add (reading : Reading) (item : Item) : Reading :=
  { reading with content.items := item :: reading.content.items }

/-- One more atom, if it may be asked for. -/
def addAtom (reading : Reading) (atom : Atom) : Option Reading :=
  if reading.modes.allows atom then
    some { reading.add ⟨0, true⟩ with
      hasWordEdge := reading.hasWordEdge || (atom = .wordEdge && !reading.modes.bytewise) }
  else none

/-- A sign of repetition behind the last item. -/
def repeated (reading : Reading) : Option Reading :=
  match reading.content.items with
  | ⟨height, true⟩ :: others =>
    some { reading with content.items := ⟨height + 1, true⟩ :: others }
  | _ => none

/-- A bar behind an alternative. -/
def alternate (reading : Reading) : Reading :=
  { reading with
    content := ⟨reading.content.rowHeight :: reading.content.alternatives, []⟩ }

/-- The inside of a group that begins, in which modes hold. -/
def enter (reading : Reading) (modes : Modes) : Reading :=
  { reading with
    modes := modes
    content := .empty
    outer := ⟨reading.content, reading.modes⟩ :: reading.outer }

/-- What a parenthesis begins; no two groups may have one name. -/
def opened (reading : Reading) : Opening → Option Reading
  | .group modes => some (reading.enter modes)
  | .named name =>
    if reading.names.contains name then none
    else some { reading.enter reading.modes with names := name :: reading.names }
  | .switch modes => some { reading.add ⟨0, false⟩ with modes := modes }

/-- The end of the innermost group. -/
def leave (reading : Reading) : Option Reading :=
  match reading.outer with
  | [] => none
  | around :: further =>
    some (add { reading with modes := around.modes, content := around.content, outer := further }
      ⟨reading.content.height + 1, true⟩)

/-! ## Reading on -/

/-- Whether a sign is one of repetition. -/
def isRepetition (sign : Char) : Bool := ['*', '+', '?'].contains sign

/-- Read past the question mark that may follow a sign of repetition. -/
def dropLazy : (input : List Char) → Rest input
  | '?' :: rest => (Rest.all rest).behind '?'
  | other => .all other

/-- Read the next sign or item. -/
def next (reading : Reading) (input : List Char) : Option (Step Reading input) :=
  match input with
  | [] => none
  | '(' :: rest =>
    match readOpening reading.modes rest with
    | none => none
    | some (opening, left) => (reading.opened opening).map (.before '(' left)
  | ')' :: rest => reading.leave.map (.char ')' rest)
  | '|' :: rest => some (.char '|' rest reading.alternate)
  | '[' :: rest =>
    (readSet reading.modes rest).map fun step =>
      (step.map fun height => reading.add ⟨height, true⟩).behind '['
  | '\x7b' :: _ => none
  | first :: rest =>
    if isRepetition first then reading.repeated.map (.before first (dropLazy rest))
    else
      match readAtom reading.modes (first :: rest) with
      | none => none
      | some step => (reading.addAtom step.value).map fun reading => step.map fun _ => reading

/-- Read on to the end of a pattern. -/
def finish (reading : Reading) (input : List Char) : Option Reading :=
  if (reading.modes.skip input).text.isEmpty then some reading
  else
    match reading.modes.afterSkip reading.next input with
    | none => none
    | some step =>
      have := step.shorter
      step.value.finish step.rest
termination_by input.length

end Reading

/-- **What is wrong with a pattern**, if it cannot be used. -/
def fault? (text : List Char) : Option Fault :=
  match Reading.start.finish text with
  | none => some .malformed
  | some reading =>
    if !reading.outer.isEmpty || heightLimit < reading.content.height then some .malformed
    else if reading.hasWordEdge then some .wordEdge
    else none

example : fault? ['x', '*', '*'] = none ∧ fault? ['('] = some .malformed := by decide +kernel
example : fault? ['\\', 'b'] = some .wordEdge ∧ fault? ['\\', 'b', '('] = some .malformed := by
  decide +kernel

end CustomProperties.Pattern
