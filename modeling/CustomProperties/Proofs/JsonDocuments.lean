import CustomProperties.Json.Reader
import CustomProperties.Proofs.JsonTokens
import Mathlib.Data.List.TakeWhile

/-!
# How documents are spelled

A JSON text says more than the value it holds: it may give an object the same name twice.  A
`Document` keeps all that is said, and `Document.value` is the value that is left of it.  The texts
that spell a document are given as a grammar (`Document.SpelledBy`), with blanks between all
tokens, every spelling of strings and numbers, and no bound on how deep arrays and objects nest.

The reader follows the grammar.  A document that nests no deeper than the reader goes yields its
value (`parse_of_spelledBy`), and every other one is refused for its depth
(`parse_tooDeep_of_spelledBy`).  Both are proved together for a reader and the texts it is for
(`Reads`): what holds of the reader of the items holds of the reader of a sequence of them, so the
induction is on the depth alone.
-/

namespace CustomProperties.Json

set_option autoImplicit false

open Text (Step)

/-! ## Documents -/

/-- What a JSON text says, with all members of an object in the order of the text. -/
inductive Document where
  | null
  | bool (value : Bool)
  | number (value : Number)
  | string (value : String)
  | array (items : List Document)
  | object (members : List (Binding String Document))

namespace Document

mutual
/-- The value that a document leaves: of the members of an object that have the same name, the
last one counts, in the place of the first. -/
def value : Document → Json
  | .null => .null
  | .bool value => .bool value
  | .number value => .number value
  | .string value => .string value
  | .array items => .array (itemValues items)
  | .object members => .object (.ofList (memberValues members))

/-- The values of items. -/
def itemValues : List Document → List Json
  | [] => []
  | item :: rest => item.value :: itemValues rest

/-- Members with their values. -/
def memberValues : List (Binding String Document) → List (Binding String Json)
  | [] => []
  | ⟨name, document⟩ :: rest => ⟨name, document.value⟩ :: memberValues rest
end

theorem itemValues_eq_map (items : List Document) : itemValues items = items.map value := by
  induction items with
  | nil => rfl
  | cons item rest ih => rw [itemValues, ih, List.map_cons]

theorem memberValues_eq_map (members : List (Binding String Document)) :
    memberValues members = members.map (Binding.map value) := by
  induction members with
  | nil => rfl
  | cons member rest ih => rw [memberValues, ih, List.map_cons, Binding.map]

/-- Arrays and objects nest at most so many deep. -/
def NestsWithin : Nat → Document → Prop
  | 0, .array _ => False
  | 0, .object _ => False
  | depth + 1, .array items => ∀ item ∈ items, NestsWithin depth item
  | depth + 1, .object members => ∀ member ∈ members, NestsWithin depth member.value
  | _, _ => True

end Document

/-! ## The grammar -/

/-- Nothing but blanks. -/
def Blanks (text : List Char) : Prop := ∀ char ∈ text, isBlank char = true

section Sequences

variable {α : Type} (spells : α → List Char → Prop)

/-- A text spells items with commas between them, of which there is at least one. -/
inductive Separated : List α → List Char → Prop where
  | last {item : α} {text blanks : List Char} (spelled : spells item text)
      (blank : Blanks blanks) : Separated [item] (text ++ blanks)
  | cons {item : α} {items : List α} {text before behind rest : List Char}
      (spelled : spells item text) (blankBefore : Blanks before) (blankBehind : Blanks behind)
      (others : Separated items rest) :
      Separated (item :: items) (text ++ (before ++ ',' :: (behind ++ rest)))

/-- A text spells a sequence of items, together with its closing bracket. -/
inductive Enclosed (close : Char) : List α → List Char → Prop where
  | empty {blanks : List Char} (blank : Blanks blanks) : Enclosed close [] (blanks ++ [close])
  | items {items : List α} {blanks text : List Char} (blank : Blanks blanks)
      (separated : Separated spells items text) :
      Enclosed close items (blanks ++ (text ++ [close]))

end Sequences

/-- A text spells a member of an object, whose value is spelled in a given way. -/
inductive SpellsMember (spells : Document → List Char → Prop) :
    Binding String Document → List Char → Prop where
  | mk {document : Document} {chars name before behind text : List Char}
      (spelledName : SpellsChars chars name) (blankBefore : Blanks before)
      (blankBehind : Blanks behind) (spelled : spells document text) :
      SpellsMember spells ⟨String.ofList chars, document⟩
        ('"' :: (name ++ '"' :: (before ++ ':' :: (behind ++ text))))

/-- A text spells a document, without blanks around it. -/
inductive Spells : Document → List Char → Prop where
  | null : Spells .null ['n', 'u', 'l', 'l']
  | true : Spells (.bool true) ['t', 'r', 'u', 'e']
  | false : Spells (.bool false) ['f', 'a', 'l', 's', 'e']
  | number {number : Number} {text : List Char} (spelled : SpellsNumber number text) :
      Spells (.number number) text
  | string {chars text : List Char} (spelled : SpellsChars chars text) :
      Spells (.string (String.ofList chars)) ('"' :: (text ++ ['"']))
  | array {items : List Document} {text : List Char}
      (spelled : Enclosed Spells ']' items text) : Spells (.array items) ('[' :: text)
  | object {members : List (Binding String Document)} {text : List Char}
      (spelled : Enclosed (SpellsMember Spells) '\x7d' members text) :
      Spells (.object members) ('\x7b' :: text)

/-- **A text spells a document.** -/
def Document.SpelledBy (document : Document) (text : String) : Prop :=
  ∃ before inner behind, text.toList = before ++ (inner ++ behind)
    ∧ Blanks before ∧ Spells document inner ∧ Blanks behind

/-! ## Where tokens begin and end -/

/-- There may be no blanks. -/
theorem blanks_nil : Blanks [] := List.forall_mem_nil _

/-- The text begins with a character that is neither a blank nor a closing bracket. -/
def Opens (text : List Char) : Prop :=
  ∃ char rest, text = char :: rest ∧ isBlank char = false ∧ char ≠ ']' ∧ char ≠ '\x7d'

/-- What can follow a value: a blank, a comma, a closing bracket or nothing. -/
def EndsValue (rest : List Char) : Prop :=
  ∀ char ∈ rest.head?, isBlank char = true ∨ char = ',' ∨ char = ']' ∨ char = '\x7d'

/-- A blank is one of four characters. -/
theorem isBlank_cases {char : Char} (blank : isBlank char = true) :
    char = ' ' ∨ char = '\n' ∨ char = '\t' ∨ char = '\r' := by
  simpa only [isBlank, Bool.or_eq_true, decide_eq_true_eq, or_assoc] using blank

theorem EndsValue.endsNumber {rest : List Char} (ends : EndsValue rest) : EndsNumber rest := by
  intro char first
  rcases ends char first with blank | rfl | rfl | rfl
  · rcases isBlank_cases blank with rfl | rfl | rfl | rfl <;> decide
  all_goals decide

/-- A value ends where blanks and then its end follow. -/
theorem Blanks.endsValue {blanks rest : List Char} (blank : Blanks blanks)
    (ends : EndsValue rest) : EndsValue (blanks ++ rest) := by
  cases blanks with
  | nil => exact ends
  | cons char blanks =>
    intro first same
    cases same
    exact .inl (blank char List.mem_cons_self)

/-- Blanks are skipped up to a character that is none. -/
theorem skipBlanks_append {blanks : List Char} (blank : Blanks blanks) {char : Char}
    (solid : isBlank char = false) (rest : List Char) :
    skipBlanks (blanks ++ char :: rest) = char :: rest := by
  rw [skipBlanks, List.dropWhile_append_of_pos blank, List.dropWhile_cons_of_neg]
  rw [solid]
  exact Bool.false_ne_true

/-- A reader goes on behind the blanks that it passes over. -/
theorem afterBlanks_eq {β : Type} (reader : Reader β) {input next : List Char}
    (skipped : skipBlanks input = next) :
    ∃ within, afterBlanks reader input = (reader next).map (Step.widen · within) := by
  subst skipped
  exact ⟨length_skipBlanks_le input, rfl⟩

theorem Opens.skipBlanks {text : List Char} (opens : Opens text) {blanks : List Char}
    (blank : Blanks blanks) (rest : List Char) :
    skipBlanks (blanks ++ (text ++ rest)) = text ++ rest := by
  obtain ⟨char, behind, rfl, solid, _⟩ := opens
  exact skipBlanks_append blank solid (behind ++ rest)

theorem Spells.opens {document : Document} {text : List Char} (spelled : Spells document text) :
    Opens text := by
  cases spelled with
  | null => exact ⟨_, _, rfl, rfl, by decide, by decide⟩
  | true => exact ⟨_, _, rfl, rfl, by decide, by decide⟩
  | false => exact ⟨_, _, rfl, rfl, by decide, by decide⟩
  | string => exact ⟨_, _, rfl, rfl, by decide, by decide⟩
  | array => exact ⟨_, _, rfl, rfl, by decide, by decide⟩
  | object => exact ⟨_, _, rfl, rfl, by decide, by decide⟩
  | number spelled =>
    obtain ⟨char, rest, rfl, opens⟩ := spelled.opens
    refine ⟨char, rest, rfl, ?_, ?_, ?_⟩
    · cases solid : isBlank char with
      | false => rfl
      | true => rcases isBlank_cases solid with rfl | rfl | rfl | rfl <;> cases opens
    · rintro rfl
      exact absurd opens (by decide)
    · rintro rfl
      exact absurd opens (by decide)

/-! ## Readers and their texts -/

variable {α β : Type}

/-- Reading stops because arrays and objects nest too deep. -/
def TooDeep {input : List Char} (reading : Reading α input) : Prop :=
  ∃ fault, reading = .error fault ∧ fault.cause = .tooDeep

theorem TooDeep.map {input longer : List Char} {reading : Reading α input}
    (tooDeep : TooDeep reading) (change : Step α input → Step β longer) :
    TooDeep (Except.map change reading) := by
  obtain ⟨fault, rfl, cause⟩ := tooDeep
  exact ⟨fault, rfl, cause⟩

/-- **A reader reads the texts of things**: it yields what a thing is converted to, if the thing
is within its reach, and otherwise it stops because of the depth. -/
structure Reads (spells : α → List Char → Prop) (reader : Reader β) (convert : α → β)
    (within : α → Prop) : Prop where
  opens : ∀ {thing text}, spells thing text → Opens text
  yields : ∀ {thing text rest}, spells thing text → EndsValue rest → within thing →
    Yields (reader (text ++ rest)) (convert thing) rest
  tooDeep : ∀ {thing text rest}, spells thing text → EndsValue rest → ¬ within thing →
    TooDeep (reader (text ++ rest))

section Reads

variable {spells : α → List Char → Prop} {reader : Reader β} {convert : α → β} {within : α → Prop}

/-- Blanks in front of a value are passed over. -/
theorem Reads.yields_afterBlanks (reads : Reads spells reader convert within) {thing : α}
    {blanks text rest : List Char} (blank : Blanks blanks) (spelled : spells thing text)
    (ends : EndsValue rest) (reached : within thing) :
    Yields (Json.afterBlanks reader (blanks ++ (text ++ rest))) (convert thing) rest := by
  obtain ⟨_, read⟩ := afterBlanks_eq reader ((reads.opens spelled).skipBlanks blank rest)
  rw [read]
  exact (reads.yields spelled ends reached).widen _

theorem Reads.tooDeep_afterBlanks (reads : Reads spells reader convert within) {thing : α}
    {blanks text rest : List Char} (blank : Blanks blanks) (spelled : spells thing text)
    (ends : EndsValue rest) (beyond : ¬ within thing) :
    TooDeep (Json.afterBlanks reader (blanks ++ (text ++ rest))) := by
  obtain ⟨_, read⟩ := afterBlanks_eq reader ((reads.opens spelled).skipBlanks blank rest)
  rw [read]
  exact (reads.tooDeep spelled ends beyond).map _

/-- A reader that passes over blanks reads the same texts. -/
theorem Reads.afterBlanks (reads : Reads spells reader convert within) :
    Reads spells (Json.afterBlanks reader) convert within where
  opens := reads.opens
  yields := reads.yields_afterBlanks blanks_nil
  tooDeep := reads.tooDeep_afterBlanks blanks_nil

end Reads

/-! ## Sequences -/

section Sequences

variable {enclosure : Enclosure} {item : Reader β} {input left rest : List Char} {value : β}

/-- An item before the closing bracket is the last one. -/
theorem yields_readItems_last (read : Yields (item input) value left)
    (closed : skipBlanks left = enclosure.close :: rest) :
    Yields (readItems enclosure item input) [value] rest := by
  obtain ⟨shorter, read⟩ := read
  rw [readItems, read]
  dsimp only
  split
  · rename_i unread
    rw [closed] at unread
    cases unread
  · rename_i char after unread
    rw [closed] at unread
    cases unread
    rw [if_pos rfl]
    exact ⟨_, rfl⟩

/-- A comma after an item is followed by the other items. -/
theorem readItems_comma {next : List Char} (read : Yields (item input) value left)
    (comma : ',' ≠ enclosure.close) (parted : skipBlanks left = ',' :: rest)
    (skipped : skipBlanks rest = next) (goesOn : next.head? ≠ some enclosure.close) :
    ∃ within, readItems enclosure item input
      = ((readItems enclosure item next).map (Step.map (value :: ·))).map
          (Step.widen · within) := by
  obtain ⟨shorter, read⟩ := read
  subst skipped
  have within : (skipBlanks rest).length ≤ input.length := by
    have behind := length_skipBlanks_le rest
    have before := length_skipBlanks_le left
    rw [parted, List.length_cons] at before
    omega
  refine ⟨within, ?_⟩
  rw [readItems, read]
  dsimp only
  split
  · rename_i unread
    rw [parted] at unread
    cases unread
  · rename_i char after unread
    rw [parted] at unread
    cases unread
    rw [if_neg comma, if_pos rfl, if_neg goesOn]
    cases readItems enclosure item (skipBlanks rest) with
    | error fault => rfl
    | ok others => rfl

/-- An item that nests too deep stops the reader of a sequence. -/
theorem tooDeep_readItems_first (tooDeep : TooDeep (item input)) :
    TooDeep (readItems enclosure item input) := by
  obtain ⟨fault, stopped, cause⟩ := tooDeep
  refine ⟨fault, ?_, cause⟩
  rw [readItems, stopped]

/-! ### Brackets -/

/-- It is closed by one of the two closing brackets, so by no comma and by no blank. -/
def Enclosure.Sound (enclosure : Enclosure) : Prop :=
  enclosure.close = ']' ∨ enclosure.close = '\x7d'

theorem brackets_sound : brackets.Sound := .inl rfl

theorem braces_sound : braces.Sound := .inr rfl

namespace Enclosure.Sound

variable (sound : enclosure.Sound)

include sound

theorem comma_ne : ',' ≠ enclosure.close := by
  rcases sound with close | close
  · rw [close]
    decide
  · rw [close]
    decide

theorem isBlank_eq_false : isBlank enclosure.close = false := by
  rcases sound with close | close
  · rw [close]
    rfl
  · rw [close]
    rfl

theorem endsValue (rest : List Char) : EndsValue (enclosure.close :: rest) := by
  rintro char ⟨⟩
  exact .inr (.inr sound)

theorem ne_of_opens {text : List Char} (opens : Opens text) (rest : List Char) :
    (text ++ rest).head? ≠ some enclosure.close := by
  obtain ⟨char, behind, rfl, _, notBracket, notBrace⟩ := opens
  intro same
  have closes := Option.some.inj same
  rcases sound with close | close
  · exact notBracket (closes.trans close)
  · exact notBrace (closes.trans close)

end Enclosure.Sound

end Sequences

/-! ### Reading sequences -/

section Sequences

variable {spells : α → List Char → Prop} {item : Reader β} {convert : α → β} {within : α → Prop}
  {enclosure : Enclosure} {items : List α} {text : List Char}

/-- Items begin with the first of them. -/
theorem Separated.opens (reads : Reads spells item convert within)
    (separated : Separated spells items text) : Opens text := by
  cases separated with
  | last spelled =>
    obtain ⟨char, behind, rfl, opens⟩ := reads.opens spelled
    exact ⟨char, _, rfl, opens⟩
  | cons spelled =>
    obtain ⟨char, behind, rfl, opens⟩ := reads.opens spelled
    exact ⟨char, _, rfl, opens⟩

/-- What separates items ends a value. -/
theorem Blanks.endsValue_comma {blanks : List Char} (blank : Blanks blanks) (rest : List Char) :
    EndsValue (blanks ++ ',' :: rest) := by
  apply blank.endsValue
  rintro char ⟨⟩
  exact .inr (.inl rfl)

/-- Behind an item and its comma, the items are read as the others of them. -/
theorem readItems_cons (reads : Reads spells item convert within) (sound : enclosure.Sound)
    {thing : α} {before behind others : List Char} (spelled : spells thing text)
    (blankBefore : Blanks before) (blankBehind : Blanks behind) (opens : Opens others)
    (first : within thing) (rest : List Char) :
    ∃ shorter, readItems enclosure item (text ++ (before ++ ',' :: (behind ++ (others ++ rest))))
      = ((readItems enclosure item (others ++ rest)).map (Step.map (convert thing :: ·))).map
          (Step.widen · shorter) :=
  readItems_comma (reads.yields spelled (blankBefore.endsValue_comma _) first) sound.comma_ne
    (skipBlanks_append blankBefore rfl _) (opens.skipBlanks blankBehind rest)
    (sound.ne_of_opens opens rest)

theorem yields_readItems (reads : Reads spells item convert within) (sound : enclosure.Sound)
    (separated : Separated spells items text) (reached : ∀ thing ∈ items, within thing)
    (rest : List Char) :
    Yields (readItems enclosure item (text ++ enclosure.close :: rest)) (items.map convert)
      rest := by
  induction separated with
  | last spelled blank =>
    rw [List.append_assoc]
    refine yields_readItems_last (reads.yields spelled (blank.endsValue (sound.endsValue rest))
      (reached _ List.mem_cons_self)) ?_
    exact skipBlanks_append blank sound.isBlank_eq_false rest
  | cons spelled blankBefore blankBehind others ih =>
    obtain ⟨first, later⟩ := List.forall_mem_cons.mp reached
    rw [List.append_assoc, List.append_assoc, List.cons_append, List.append_assoc]
    obtain ⟨_, read⟩ := readItems_cons reads sound spelled blankBefore blankBehind
      (others.opens reads) first (enclosure.close :: rest)
    rw [read]
    exact ((ih later).map _).widen _

theorem tooDeep_readItems (reads : Reads spells item convert within) (sound : enclosure.Sound)
    (separated : Separated spells items text) (beyond : ¬ ∀ thing ∈ items, within thing)
    (rest : List Char) :
    TooDeep (readItems enclosure item (text ++ enclosure.close :: rest)) := by
  induction separated with
  | last spelled blank =>
    rw [List.forall_mem_singleton] at beyond
    rw [List.append_assoc]
    exact tooDeep_readItems_first
      (reads.tooDeep spelled (blank.endsValue (sound.endsValue rest)) beyond)
  | @cons thing items _ _ _ _ spelled blankBefore blankBehind others ih =>
    rw [List.append_assoc, List.append_assoc, List.cons_append, List.append_assoc]
    -- the first item out of reach stops the reader, so those in front of it are read
    by_cases first : within thing
    · have later : ¬ ∀ thing ∈ items, within thing := fun later =>
        beyond (List.forall_mem_cons.mpr ⟨first, later⟩)
      obtain ⟨_, read⟩ := readItems_cons reads sound spelled blankBefore blankBehind
        (others.opens reads) first (enclosure.close :: rest)
      rw [read]
      exact ((ih later).map _).map _
    · exact tooDeep_readItems_first
        (reads.tooDeep spelled (blankBefore.endsValue_comma _) first)

/-- Behind the blanks after its opening bracket, a sequence is read as its items. -/
theorem readSequence_eq (sound : enclosure.Sound) {blanks rest : List Char} (blank : Blanks blanks)
    (opens : Opens text) :
    ∃ within, readSequence enclosure item (blanks ++ (text ++ rest))
      = (readItems enclosure item (text ++ rest)).map (Step.widen · within) := by
  have notClosed := sound.ne_of_opens opens rest
  have skipped := opens.skipBlanks blank rest
  obtain ⟨char, behind, rfl, _⟩ := opens
  obtain ⟨within, read⟩ := afterBlanks_eq _ skipped
  refine ⟨within, read.trans ?_⟩
  have other : char ≠ enclosure.close := fun same => notClosed (congrArg some same)
  simp only [List.cons_append, if_neg other]

/-- **A sequence is read up to its closing bracket.** -/
theorem yields_readSequence (reads : Reads spells item convert within) (sound : enclosure.Sound)
    (enclosed : Enclosed spells enclosure.close items text)
    (reached : ∀ thing ∈ items, within thing) (rest : List Char) :
    Yields (readSequence enclosure item (text ++ rest)) (items.map convert) rest := by
  cases enclosed with
  | empty blank =>
    rw [List.append_assoc, List.singleton_append]
    obtain ⟨_, read⟩ := afterBlanks_eq _ (skipBlanks_append blank sound.isBlank_eq_false rest)
    refine ⟨?_, read.trans ?_⟩
    · rw [List.length_append, List.length_cons]
      omega
    · simp only [if_pos]
      rfl
  | items blank separated =>
    rw [List.append_assoc, List.append_assoc, List.singleton_append]
    obtain ⟨_, read⟩ := readSequence_eq sound blank (separated.opens reads)
    rw [read]
    exact (yields_readItems reads sound separated reached rest).widen _

/-- **A sequence with an item that nests too deep is refused.** -/
theorem tooDeep_readSequence (reads : Reads spells item convert within) (sound : enclosure.Sound)
    (enclosed : Enclosed spells enclosure.close items text)
    (beyond : ¬ ∀ thing ∈ items, within thing) (rest : List Char) :
    TooDeep (readSequence enclosure item (text ++ rest)) := by
  cases enclosed with
  | empty => exact absurd (List.forall_mem_nil _) beyond
  | items blank separated =>
    rw [List.append_assoc, List.append_assoc, List.singleton_append]
    obtain ⟨_, read⟩ := readSequence_eq sound blank (separated.opens reads)
    rw [read]
    exact (tooDeep_readItems reads sound separated beyond rest).map _

end Sequences

/-! ## Members -/

/-- Behind the name and its colon, a member is read as its value. -/
theorem readMember_eq (value : Reader Json) {chars name before : List Char}
    (spelledName : SpellsChars chars name) (blankBefore : Blanks before) (after : List Char) :
    ∃ within, readMember value ('"' :: (name ++ '"' :: (before ++ ':' :: after)))
      = ((value after).map (Step.map (Binding.mk (String.ofList chars)))).map
          (Step.widen · within) := by
  obtain ⟨_, read⟩ := yields_readQuoted spelledName (before ++ ':' :: after)
  have colon : skipBlanks (before ++ ':' :: after) = ':' :: after :=
    skipBlanks_append blankBefore rfl after
  refine ⟨?_, ?_⟩
  · simp only [List.length_cons, List.length_append]
    omega
  · rw [readMember, read]
    dsimp only
    split
    · rename_i unread
      rw [colon] at unread
      cases unread
    · rename_i rest unread
      rw [colon] at unread
      cases unread
      cases value after with
      | error fault => rfl
      | ok step => rfl
    · rename_i char rest other unread
      rw [colon] at unread
      cases unread
      exact absurd rfl other

/-- **The reader of a member reads its texts**, if that of its value does. -/
theorem Reads.readMember {here : Reader Json} {convert : Document → Json}
    {within : Document → Prop} (reads : Reads Spells here convert within) :
    Reads (SpellsMember Spells) (Json.readMember (Json.afterBlanks here))
      (Binding.map convert) (fun member => within member.value) where
  opens := by
    rintro _ _ ⟨⟩
    exact ⟨_, _, rfl, rfl, by decide, by decide⟩
  yields := by
    rintro _ _ rest ⟨spelledName, blankBefore, blankBehind, spelled⟩ ends reached
    rw [List.cons_append, List.append_assoc, List.cons_append, List.append_assoc,
      List.cons_append, List.append_assoc]
    obtain ⟨_, read⟩ := readMember_eq (Json.afterBlanks here) spelledName blankBefore _
    rw [read]
    exact ((reads.yields_afterBlanks blankBehind spelled ends reached).map _).widen _
  tooDeep := by
    rintro _ _ rest ⟨spelledName, blankBefore, blankBehind, spelled⟩ ends beyond
    rw [List.cons_append, List.append_assoc, List.cons_append, List.append_assoc,
      List.cons_append, List.append_assoc]
    obtain ⟨_, read⟩ := readMember_eq (Json.afterBlanks here) spelledName blankBefore _
    rw [read]
    exact ((reads.tooDeep_afterBlanks blankBehind spelled ends beyond).map _).map _

/-! ## Values -/

/-- A word is read to its end. -/
theorem readWord_append (letters rest : List Char) :
    ∃ within, readWord letters (letters ++ rest) = .ok ⟨rest, within⟩ := by
  induction letters with
  | nil => exact ⟨Nat.le_refl _, rfl⟩
  | cons letter letters ih =>
    obtain ⟨within, read⟩ := ih
    refine ⟨Nat.le_succ_of_le within, ?_⟩
    simp only [List.cons_append, readWord, if_true, read]
    rfl

theorem yields_wordStep (value : Json) (letters : List Char) (first : Char) (rest : List Char) :
    Yields (wordStep value letters first (letters ++ rest)) value rest := by
  obtain ⟨within, read⟩ := readWord_append letters rest
  refine ⟨Nat.lt_succ_of_le within, ?_⟩
  rw [wordStep, read]
  rfl

/-- The reader of the values inside an array or object that may nest so many deep. -/
def innerReader? : Nat → Option (Reader Json)
  | 0 => none
  | depth + 1 => some (readValue depth)

/-- A value is read behind its blanks. -/
theorem readValue_eq (depth : Nat) :
    readValue depth = afterBlanks (readHere (innerReader? depth)) := by
  cases depth with
  | zero => rfl
  | succ depth => rfl

/-- A number is read where a digit or a minus sign comes next. -/
theorem yields_readHere_number (inner? : Option (Reader Json)) {number : Number}
    {text rest : List Char} (spelled : SpellsNumber number text) (ends : EndsNumber rest) :
    Yields (readHere inner? (text ++ rest)) (.number number) rest := by
  have read := (yields_readNumber spelled ends).map Json.number
  obtain ⟨char, behind, rfl, opens⟩ := spelled.opens
  rw [List.cons_append] at read ⊢
  obtain ⟨shorter, read⟩ := read
  have other {letter : Char} (closed : (letter = '-' || letter.isDigit) = false) :
      char ≠ letter := by
    rintro rfl
    exact Bool.false_ne_true (closed.symm.trans opens)
  refine ⟨shorter, ?_⟩
  rw [readHere, if_pos opens]
  · exact read
  all_goals exact other rfl

/-- The items of an array are read with the blanks in front of them. -/
theorem reads_readValue {depth : Nat} {within : Document → Prop}
    (here : Reads Spells (readHere (innerReader? depth)) Document.value within) :
    Reads Spells (readValue depth) Document.value within := by
  rw [readValue_eq]
  exact here.afterBlanks

/-- The members of an object are read with the blanks in front of their values. -/
theorem reads_readMember {depth : Nat} {within : Document → Prop}
    (here : Reads Spells (readHere (innerReader? depth)) Document.value within) :
    Reads (SpellsMember Spells) (readMember (readValue depth)) (Binding.map Document.value)
      (fun member => within member.value) := by
  rw [readValue_eq]
  exact here.readMember

/-- What the reader of values does one level down, it does on this one. -/
theorem reads_readHere_of_inner (depth : Nat)
    (inner : ∀ smaller, depth = smaller + 1 →
      Reads Spells (readHere (innerReader? smaller)) Document.value
        (Document.NestsWithin smaller)) :
    Reads Spells (readHere (innerReader? depth)) Document.value (Document.NestsWithin depth) where
  opens := Spells.opens
  yields := by
    intro document text rest spelled ends reached
    cases spelled with
    | null => exact yields_wordStep .null ['u', 'l', 'l'] 'n' rest
    | true => exact yields_wordStep (.bool true) ['r', 'u', 'e'] 't' rest
    | false => exact yields_wordStep (.bool false) ['a', 'l', 's', 'e'] 'f' rest
    | number spelled => exact yields_readHere_number _ spelled ends.endsNumber
    | string spelled =>
      rw [List.cons_append, List.append_assoc]
      exact ((yields_readQuoted spelled rest).map Json.string).behind '"'
    | array spelled =>
      cases depth with
      | zero => exact reached.elim
      | succ depth =>
        have reads := reads_readValue (inner depth rfl)
        rw [Document.value, Document.itemValues_eq_map]
        exact ((yields_readSequence reads brackets_sound spelled reached rest).map
          Json.array).behind '['
    | object spelled =>
      cases depth with
      | zero => exact reached.elim
      | succ depth =>
        have reads := reads_readMember (inner depth rfl)
        rw [Document.value, Document.memberValues_eq_map]
        exact ((yields_readSequence reads braces_sound spelled reached rest).map
          fun members => Json.object (.ofList members)).behind '\x7b'
  tooDeep := by
    intro document text rest spelled ends beyond
    cases spelled with
    | array spelled =>
      cases depth with
      | zero => exact ⟨_, rfl, rfl⟩
      | succ depth =>
        have reads := reads_readValue (inner depth rfl)
        exact ((tooDeep_readSequence reads brackets_sound spelled beyond rest).map _).map _
    | object spelled =>
      cases depth with
      | zero => exact ⟨_, rfl, rfl⟩
      | succ depth =>
        have reads := reads_readMember (inner depth rfl)
        exact ((tooDeep_readSequence reads braces_sound spelled beyond rest).map _).map _
    | _ => exact absurd (by simp only [Document.NestsWithin]) beyond

/-- **The reader of values reads what the grammar spells**, down to its depth. -/
theorem reads_readHere (depth : Nat) :
    Reads Spells (readHere (innerReader? depth)) Document.value (Document.NestsWithin depth) := by
  induction depth with
  | zero => exact reads_readHere_of_inner 0 fun smaller same => nomatch same
  | succ depth ih =>
    apply reads_readHere_of_inner (depth + 1)
    rintro smaller ⟨⟩
    exact ih

/-! ## Whole texts -/

/-- Nothing is left behind the last blanks. -/
theorem Blanks.skipBlanks_eq_nil {blanks : List Char} (blank : Blanks blanks) :
    skipBlanks blanks = [] :=
  List.dropWhile_eq_nil_iff.mpr blank

/-- A value ends before the last blanks. -/
theorem Blanks.endsValue_nil {blanks : List Char} (blank : Blanks blanks) : EndsValue blanks := by
  rw [← List.append_nil blanks]
  apply blank.endsValue
  rintro char ⟨⟩

/-- **A text yields the value of the document that it spells**, if arrays and objects do not
nest too deep in it. -/
theorem parse_of_spelledBy {document : Document} {text : String}
    (spelled : document.SpelledBy text) (nests : document.NestsWithin nestingLimit) :
    parse text = .ok document.value := by
  obtain ⟨before, inner, behind, split, blankBefore, spelled, blankBehind⟩ := spelled
  obtain ⟨_, read⟩ :=
    (reads_readHere nestingLimit).yields_afterBlanks blankBefore spelled
      blankBehind.endsValue_nil nests
  rw [← readValue_eq] at read
  rw [parse, readText, split, read]
  simp only [blankBehind.skipBlanks_eq_nil]

/-- **A text in which they nest too deep is refused for that.** -/
theorem parse_tooDeep_of_spelledBy {document : Document} {text : String}
    (spelled : document.SpelledBy text) (nests : ¬ document.NestsWithin nestingLimit) :
    ∃ error, parse text = .error error ∧ error.cause = .tooDeep := by
  obtain ⟨before, inner, behind, split, blankBefore, spelled, blankBehind⟩ := spelled
  obtain ⟨fault, read, cause⟩ :=
    (reads_readHere nestingLimit).tooDeep_afterBlanks blankBefore spelled
      blankBehind.endsValue_nil nests
  rw [← readValue_eq] at read
  refine ⟨.ofFault text.toList fault, ?_, cause⟩
  rw [parse, readText, split, read]

end CustomProperties.Json
