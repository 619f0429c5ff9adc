import CustomProperties.Proofs.JsonDocuments
import CustomProperties.Proofs.Overlay
import CustomProperties.Tree

/-!
# Names that a text repeats

A JSON text may repeat a name in an object, at any level.  Its members then reach a tree of
variables in two ways.  The text can be read first, which binds the members of every object to
values, and the value be made into a tree (`Tree.ofJson`).  Or every member can be made into a tree
by itself, and the trees be inserted one by one (`Document.tree`).

Both ways lead to the same tree (`ofJson_value`): what is bound at one level does not depend on
when the levels below it are converted.  For the texts themselves this holds as far as the reader
goes (`ofJson_parse_object`); objects that nest deeper have no tree at all
(`not_ofJson_parse_nested`).
-/

namespace CustomProperties

set_option autoImplicit false

namespace Json

namespace Document

mutual
/-- The tree of a document, made from the bottom up: the trees of the members of an object are
inserted one by one, in the order of the text. -/
def tree : Document → Tree
  | .null => .unsupported .null
  | .bool value => .leaf (.bool value)
  | .number value => .leaf (.number value)
  | .string text => .leaf (.plain text)
  | .array _ => .unsupported .array
  | .object members => .branch (.ofList (memberTrees members))

/-- Members with their trees. -/
def memberTrees : List (Binding String Document) → List (Binding String Tree)
  | [] => []
  | ⟨name, document⟩ :: rest => ⟨name, document.tree⟩ :: memberTrees rest
end

theorem memberTrees_eq_map (members : List (Binding String Document)) :
    memberTrees members = members.map (Binding.map tree) := by
  induction members with
  | nil => rfl
  | cons member rest ih => rw [memberTrees, ih, List.map_cons, Binding.map]

theorem tree_object (members : List (Binding String Document)) :
    (Document.object members).tree = .branch (.ofList (members.map (Binding.map tree))) := by
  rw [tree, memberTrees_eq_map]

/-! ## Both ways agree -/

/-- The tree of an object has the trees of the values that are left. -/
theorem ofJson_object (members : Bindings String Json) :
    Tree.ofJson (.object members)
      = .branch ⟨members.toList.map (Binding.map Tree.ofJson)⟩ := by
  obtain ⟨members⟩ := members
  rw [Tree.ofJson, Tree.ofMembers_eq_map]
  rfl

mutual
/-- **The tree of the value of a document is the tree of the document.** -/
theorem ofJson_value : ∀ document : Document, Tree.ofJson document.value = document.tree
  | .null => rfl
  | .bool _ => rfl
  | .number _ => rfl
  | .string _ => rfl
  | .array _ => rfl
  | .object members => by
    rw [value, ofJson_object, Bindings.map_toList_ofList, map_ofJson_memberValues, tree]

theorem map_ofJson_memberValues : ∀ members : List (Binding String Document),
    (memberValues members).map (Binding.map Tree.ofJson) = memberTrees members
  | [] => rfl
  | ⟨name, document⟩ :: rest => by
    rw [memberValues, List.map_cons, map_ofJson_memberValues rest, memberTrees, Binding.map,
      ofJson_value document]
end

/-- What nests within a depth nests within a greater one. -/
theorem NestsWithin.succ {depth : Nat} : ∀ {document : Document}, document.NestsWithin depth →
    document.NestsWithin (depth + 1) := by
  induction depth with
  | zero =>
    intro document nests
    cases document with
    | array => exact nests.elim
    | object => exact nests.elim
    | _ => trivial
  | succ depth ih =>
    intro document nests
    cases document with
    | array => exact fun item member => ih (nests item member)
    | object => exact fun item member => ih (nests item member)
    | _ => trivial

end Document

/-! ## Texts -/

/-- **The tree of a text is the tree of the document that it spells.** -/
theorem ofJson_parse_spelled {document : Document} {text : String}
    (spelled : document.SpelledBy text) (nests : document.NestsWithin nestingLimit) :
    (parse text).map Tree.ofJson = .ok document.tree := by
  rw [parse_of_spelledBy spelled nests, ← document.ofJson_value]
  rfl

/-- **The text of an object yields the branch that its members make when they are inserted one by
one**: in the order in which their names first occur, each with the tree of its last value, which
is what the text of that value yields by itself. -/
theorem ofJson_parse_object {members : List (Binding String Document)} {text : String}
    (spelled : (Document.object members).SpelledBy text)
    (nests : (Document.object members).NestsWithin nestingLimit) :
    ∃ children : Bindings String Tree,
      (parse text).map Tree.ofJson = .ok (.branch children)
        ∧ children = Bindings.empty.extend (members.map (Binding.map Document.tree))
        ∧ Bindings.IsOverlay (members.map (Binding.map Document.tree)) children.toList
        ∧ ∀ member ∈ members, ∀ own, member.value.SpelledBy own →
          (parse own).map Tree.ofJson = .ok member.value.tree := by
  refine ⟨_, ?_, rfl, Bindings.isOverlay_ofList _, ?_⟩
  · rw [ofJson_parse_spelled spelled nests, Document.tree_object]
    rfl
  · intro member present own spelledOwn
    have within : member.value.NestsWithin nestingLimit :=
      Document.NestsWithin.succ (nests member present)
    exact ofJson_parse_spelled spelledOwn within

/-- A name of one letter spells itself, and the value may follow its colon at once. -/
theorem spellsMember_letter {letter : Char}
    (plain : letter ≠ '"' ∧ letter ≠ '\\' ∧ 32 ≤ letter.toNat) {document : Document}
    {text : List Char} (spelled : Spells document text) :
    SpellsMember Spells ⟨String.ofList [letter], document⟩
      ('"' :: letter :: '"' :: ':' :: text) :=
  .mk (.cons (.plain plain.1 plain.2.1 plain.2.2) .nil) blanks_nil blanks_nil spelled

/-- Members whose names are repeated, at two levels, beside values that no variable can have. -/
def repeating : List (Binding String Document) :=
  [⟨"a", .bool true⟩, ⟨"b", .object [⟨"x", .array []⟩, ⟨"x", .bool false⟩]⟩, ⟨"a", .null⟩]

/-- Their object, as a text. -/
def repeatingText : String :=
  "\x7b\"a\":true,\"b\":\x7b\"x\":[],\"x\":false\x7d,\"a\":null\x7d"

theorem spelledBy_repeatingText : (Document.object repeating).SpelledBy repeatingText := by
  have inner : Spells (.object [⟨"x", .array []⟩, ⟨"x", .bool false⟩]) _ :=
    .object (.items blanks_nil (.cons
      (spellsMember_letter (by decide) (.array (.empty blanks_nil))) blanks_nil blanks_nil
      (.last (spellsMember_letter (by decide) .false) blanks_nil)))
  have outer : Spells (.object repeating) _ :=
    .object (.items blanks_nil (.cons (spellsMember_letter (by decide) .true) blanks_nil
      blanks_nil (.cons (spellsMember_letter (by decide) inner) blanks_nil blanks_nil
        (.last (spellsMember_letter (by decide) .null) blanks_nil))))
  exact ⟨[], _, [], rfl, blanks_nil, outer, blanks_nil⟩

/-- The repeated names keep their first places and have their last values. -/
theorem ofJson_parse_object_repeating :
    (Document.object repeating).SpelledBy repeatingText
      ∧ (Document.object repeating).NestsWithin nestingLimit
      ∧ (parse repeatingText).map Tree.ofJson
          = .ok (.branch ⟨[⟨"a", .unsupported .null⟩,
              ⟨"b", .branch ⟨[⟨"x", .leaf (.bool false)⟩]⟩⟩]⟩) := by
  have nests : (Document.object repeating).NestsWithin nestingLimit := by
    simp [repeating, nestingLimit, Document.NestsWithin]
  obtain ⟨children, read, rfl, _⟩ := ofJson_parse_object spelledBy_repeatingText nests
  exact ⟨spelledBy_repeatingText, nests, read⟩

/-! ## Objects that nest too deep -/

/-- Objects in objects, so many deep. -/
def nested : Nat → Document
  | 0 => .number (.integer 1)
  | depth + 1 => .object [⟨"a", nested depth⟩]

/-- Their text. -/
def nestedText : Nat → List Char
  | 0 => ['1']
  | depth + 1 => '\x7b' :: '"' :: 'a' :: '"' :: ':' :: (nestedText depth ++ ['\x7d'])

theorem spellsNumber_one : SpellsNumber (.integer 1) ['1'] := by
  have digits : SpellsDigits [1] ['1'] :=
    ⟨List.cons_ne_nil _ _, List.forall_mem_singleton.mpr rfl, rfl⟩
  have whole : SpellsWhole [1] ['1'] := .digits digits (by decide)
  exact ⟨⟨false, [1], [], none⟩, .positive (.mk whole .absent .absent), rfl⟩

/-- An item alone, without blanks behind it. -/
theorem separated_singleton {α : Type} {spells : α → List Char → Prop} {item : α}
    {text : List Char} (spelled : spells item text) : Separated spells [item] text := by
  have separated := Separated.last spelled blanks_nil
  rwa [List.append_nil] at separated

theorem spells_nested (depth : Nat) : Spells (nested depth) (nestedText depth) := by
  induction depth with
  | zero => exact .number spellsNumber_one
  | succ depth ih =>
    have member : SpellsMember Spells ⟨"a", nested depth⟩
        ('"' :: 'a' :: '"' :: ':' :: nestedText depth) := spellsMember_letter (by decide) ih
    exact .object (.items blanks_nil (separated_singleton member))

theorem nestsWithin_nested_iff (limit depth : Nat) :
    (nested depth).NestsWithin limit ↔ depth ≤ limit := by
  induction depth generalizing limit with
  | zero => simp only [nested, Document.NestsWithin, Nat.zero_le]
  | succ depth ih =>
    cases limit with
    | zero => exact iff_of_false id (Nat.not_succ_le_zero depth)
    | succ limit =>
      simp only [nested, Document.NestsWithin, List.forall_mem_singleton, ih, Nat.succ_le_succ_iff]

/-- **One object too deep, and a text has no tree.** -/
theorem not_ofJson_parse_nested :
    (nested (nestingLimit + 1)).SpelledBy (String.ofList (nestedText (nestingLimit + 1)))
      ∧ ¬ ∃ tree, (parse (String.ofList (nestedText (nestingLimit + 1)))).map Tree.ofJson
          = .ok tree := by
  have spelled : (nested (nestingLimit + 1)).SpelledBy
      (String.ofList (nestedText (nestingLimit + 1))) := by
    refine ⟨[], _, [], ?_, blanks_nil, spells_nested _, blanks_nil⟩
    rw [String.toList_ofList, List.nil_append, List.append_nil]
  refine ⟨spelled, ?_⟩
  rintro ⟨tree, read⟩
  have beyond : ¬ (nested (nestingLimit + 1)).NestsWithin nestingLimit := fun nests =>
    Nat.not_succ_le_self _ ((nestsWithin_nested_iff _ _).mp nests)
  obtain ⟨error, refused, _⟩ := parse_tooDeep_of_spelledBy spelled beyond
  rw [refused] at read
  cases read

end Json

end CustomProperties
