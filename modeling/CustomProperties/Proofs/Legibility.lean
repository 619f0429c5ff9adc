import CustomProperties.RuleBlock
import CustomProperties.Variable
import Mathlib.Data.List.Basic

/-!
# Reading a rule block back

A rule block holds texts of all kinds between characters of its own, and yet it can
be read in one way only.  The argument goes from the inside out.  A string literal ends
at the first quote that no backslash escapes, and what stands in it gives its text back
(`scanLiteral_escaped`, `unescape_escaped`).  So a literal can be told from whatever
follows it, and so can a value up to its semicolon, a declaration, and a row of
declarations up to the brace that closes the block.  Each of these steps has the same
form: if two things are written with something behind them and the texts are the same,
then the things are the same, and so is what stands behind them.

Names must not hold a colon, and values that are not quoted must be neither empty nor
hold a semicolon nor begin with a quote (`Legible`).  Of quoted values nothing is asked.
The main statement is `ruleBlock_inj`.
-/

namespace CustomProperties

set_option autoImplicit false

/-! ## Separators -/

/-- A text without a separator can be told from what follows the separator. -/
theorem append_separator_inj {separator : Char} {first second rest rest' : List Char}
    (without : separator ∉ first) (without' : separator ∉ second)
    (same : first ++ separator :: rest = second ++ separator :: rest') :
    first = second ∧ rest = rest' := by
  have cut {text : List Char} (without : separator ∉ text) (rest : List Char) :
      (text ++ separator :: rest).takeWhile (· ≠ separator) = text := by
    rw [List.takeWhile_append_of_pos, List.takeWhile_cons_of_neg (by simp), List.append_nil]
    exact fun char member => decide_eq_true fun equal => without (equal ▸ member)
  have texts := congrArg (List.takeWhile (· ≠ separator)) same
  rw [cut without, cut without'] at texts
  subst texts
  exact ⟨rfl, (List.cons.inj (List.append_cancel_left same)).2⟩

/-! ## String literals -/

/-- Read a string literal after its opening quote: what stands in it, as it is written,
and what follows its closing quote, which is the first one that no backslash escapes. -/
def scanLiteral : List Char → Option (List Char × List Char)
  | [] => none
  | '"' :: rest => some ([], rest)
  | '\\' :: [] => none
  | '\\' :: escaped :: rest =>
    (scanLiteral rest).map fun (inside, behind) => ('\\' :: escaped :: inside, behind)
  | char :: rest => (scanLiteral rest).map fun (inside, behind) => (char :: inside, behind)

/-- A text without the backslashes that escape a character. -/
def unescape : List Char → List Char
  | [] => []
  | '\\' :: escaped :: rest => escaped :: unescape rest
  | char :: rest => char :: unescape rest

/-- A literal goes on with a character that is neither a quote nor a backslash. -/
theorem scanLiteral_plain {char : Char} (plain : ¬ (char = '"' ∨ char = '\\')) (rest : List Char) :
    scanLiteral (char :: rest)
      = (scanLiteral rest).map fun (inside, behind) => (char :: inside, behind) := by
  obtain ⟨quote, backslash⟩ := not_or.mp plain
  rw [scanLiteral]
  · exact quote
  · exact fun equal _ => backslash equal
  · exact fun _ _ equal _ => backslash equal

/-- A character that is no backslash stands for itself. -/
theorem unescape_plain {char : Char} (backslash : char ≠ '\\') (rest : List Char) :
    unescape (char :: rest) = char :: unescape rest := by
  rw [unescape]
  exact fun _ _ equal _ => backslash equal

/-- **A literal ends where its text ends**, whatever follows it. -/
theorem scanLiteral_escaped (text rest : List Char) :
    scanLiteral (text.flatMap escapeQuoted ++ '"' :: rest)
      = some (text.flatMap escapeQuoted, rest) := by
  induction text with
  | nil => rfl
  | cons char text ih =>
    by_cases special : char = '"' ∨ char = '\\'
    · rw [List.flatMap_cons, escapeQuoted, if_pos special]
      simp only [List.cons_append, List.nil_append, scanLiteral, ih, Option.map_some]
    · rw [List.flatMap_cons, escapeQuoted, if_neg special, List.singleton_append,
        List.cons_append, scanLiteral_plain special, ih, Option.map_some]

/-- **What stands in a literal gives its text back.** -/
theorem unescape_escaped (text : List Char) : unescape (text.flatMap escapeQuoted) = text := by
  induction text with
  | nil => rfl
  | cons char text ih =>
    by_cases special : char = '"' ∨ char = '\\'
    · rw [List.flatMap_cons, escapeQuoted, if_pos special]
      simp only [List.cons_append, List.nil_append, unescape, ih]
    · rw [List.flatMap_cons, escapeQuoted, if_neg special, List.singleton_append,
        unescape_plain (not_or.mp special).2, ih]

/-- A literal can be told from what follows it. -/
theorem stringLiteral_append_inj {first second rest rest' : List Char}
    (same : stringLiteral first ++ rest = stringLiteral second ++ rest') :
    first = second ∧ rest = rest' := by
  simp only [stringLiteral, List.cons_append, List.append_assoc, List.cons.injEq, true_and,
    List.nil_append] at same
  have scanned := congrArg scanLiteral same
  rw [scanLiteral_escaped, scanLiteral_escaped] at scanned
  obtain ⟨inside, behind⟩ := Prod.mk.inj (Option.some.inj scanned)
  refine ⟨?_, behind⟩
  calc first = unescape (first.flatMap escapeQuoted) := (unescape_escaped first).symm
    _ = unescape (second.flatMap escapeQuoted) := by rw [inside]
    _ = second := unescape_escaped second

/-! ## Values and declarations -/

/-- A value whose end can be found: it is quoted, or it has a text without a semicolon
that does not begin like a literal. -/
def Value.Legible (value : Value) : Prop :=
  value.quoted = false →
    value.text ≠ "" ∧ ';' ∉ value.text.toList ∧ value.text.toList.head? ≠ some '"'

instance (value : Value) : Decidable value.Legible := inferInstanceAs (Decidable (_ → _))

/-- A quoted value is written as a literal. -/
theorem Value.written_quoted (text : String) :
    Value.written ⟨text, true⟩ = stringLiteral text.toList := rfl

/-- A value that is neither quoted nor empty is written as it is. -/
theorem Value.written_plain {value : Value} (unquoted : value.quoted = false)
    (nonempty : value.text ≠ "") : value.written = value.text.toList := by
  have plain : ¬ value.needsQuotes = true := by
    rw [value.needsQuotes_iff, unquoted]
    exact not_or.mpr ⟨Bool.false_ne_true, nonempty⟩
  rw [written, if_neg plain]

/-- A legible value that is not quoted is written as it is. -/
theorem Value.written_unquoted {text : String} (legible : Value.Legible ⟨text, false⟩) :
    Value.written ⟨text, false⟩ = text.toList := written_plain rfl (legible rfl).1

/-- A legible value that is not quoted does not begin like a literal. -/
theorem Value.Legible.append_ne_literal {text : String} (legible : Value.Legible ⟨text, false⟩)
    (rest other rest' : List Char) : text.toList ++ rest ≠ stringLiteral other ++ rest' := by
  obtain ⟨nonempty, _, noQuote⟩ := legible rfl
  intro same
  have heads := congrArg List.head? same
  rw [List.head?_append_of_ne_nil _ (fun empty => nonempty (String.toList_eq_nil_iff.mp empty))]
    at heads
  exact noQuote heads

/-- A value can be told from what follows its semicolon. -/
theorem Value.written_append_inj {first second : Value} (legible : first.Legible)
    (legible' : second.Legible) {rest rest' : List Char}
    (same : first.written ++ ';' :: rest = second.written ++ ';' :: rest') :
    first = second ∧ rest = rest' := by
  -- a literal begins with a quote and other values do not, so both are of the same kind
  obtain ⟨text, _ | _⟩ := first <;> obtain ⟨text', _ | _⟩ := second
  case false.false =>
    rw [written_unquoted legible, written_unquoted legible'] at same
    obtain ⟨texts, behind⟩ := append_separator_inj (legible rfl).2.1 (legible' rfl).2.1 same
    obtain rfl : text = text' := String.toList_inj.mp texts
    exact ⟨rfl, behind⟩
  case false.true =>
    rw [written_unquoted legible, written_quoted] at same
    exact absurd same (legible.append_ne_literal _ _ _)
  case true.false =>
    rw [written_quoted, written_unquoted legible'] at same
    exact absurd same.symm (legible'.append_ne_literal _ _ _)
  case true.true =>
    rw [written_quoted, written_quoted] at same
    obtain ⟨texts, behind⟩ := stringLiteral_append_inj same
    obtain rfl : text = text' := String.toList_inj.mp texts
    exact ⟨rfl, (List.cons.inj behind).2⟩

/-- A variable whose declaration can be read back: its name holds no colon, and its value
is legible. -/
def Legible (property : Variable) : Prop := ':' ∉ property.name.toList ∧ property.value.Legible

instance (property : Variable) : Decidable (Legible property) := inferInstanceAs (Decidable (_ ∧ _))

/-- A declaration can be told from what follows it. -/
theorem declaration_append_inj {first second : Variable} (legible : Legible first)
    (legible' : Legible second) {rest rest' : List Char}
    (same : declaration first ++ rest = declaration second ++ rest') :
    first = second ∧ rest = rest' := by
  obtain ⟨name, value⟩ := first
  obtain ⟨name', value'⟩ := second
  simp only [declaration, List.cons_append, List.append_assoc, List.cons.injEq, true_and,
    List.nil_append] at same
  obtain ⟨names, values⟩ := append_separator_inj legible.1 legible'.1 same
  obtain rfl : name = name' := String.toList_inj.mp names
  obtain ⟨same_value, behind⟩ :=
    Value.written_append_inj legible.2 legible'.2 (List.cons.inj values).2
  exact ⟨congrArg (Binding.mk name) same_value, behind⟩

/-! ## Blocks -/

/-- Things in a row can be told apart up to what closes the row, if each of them can be
told from what follows it and takes more room than the end. -/
theorem flatMap_append_inj {α : Type} {write : α → List Char} {legible : α → Prop}
    {close : List Char}
    (told : ∀ {first second : α}, legible first → legible second → ∀ {rest rest' : List Char},
      write first ++ rest = write second ++ rest' → first = second ∧ rest = rest')
    (longer : ∀ item, close.length < (write item).length) :
    ∀ {first second : List α}, (∀ item ∈ first, legible item) → (∀ item ∈ second, legible item) →
      first.flatMap write ++ close = second.flatMap write ++ close → first = second
  | [], [], _, _, _ => rfl
  | [], item :: second, _, _, same => by
    have lengths := congrArg List.length same
    have := longer item
    simp only [List.flatMap_nil, List.flatMap_cons, List.length_append, List.length_nil] at lengths
    omega
  | item :: first, [], _, _, same => by
    have lengths := congrArg List.length same
    have := longer item
    simp only [List.flatMap_nil, List.flatMap_cons, List.length_append, List.length_nil] at lengths
    omega
  | item :: first, item' :: second, legible, legible', same => by
    rw [List.flatMap_cons, List.flatMap_cons, List.append_assoc, List.append_assoc] at same
    obtain ⟨rfl, behind⟩ := told (legible item List.mem_cons_self)
      (legible' item' List.mem_cons_self) same
    have others := flatMap_append_inj told longer
      (fun other member => legible other (List.mem_cons_of_mem _ member))
      (fun other member => legible' other (List.mem_cons_of_mem _ member)) behind
    rw [others]

/-- The least declaration has two dashes, a colon, a blank and a semicolon. -/
theorem four_lt_length_declaration (property : Variable) : 4 < (declaration property).length := by
  simp only [declaration, List.length_append, List.length_cons, List.length_nil]
  omega

/-- What stands between the braces can be read in one way. -/
theorem blockBody_inj {formatting : Formatting} {first second : List Variable}
    (legible : ∀ property ∈ first, Legible property)
    (legible' : ∀ property ∈ second, Legible property)
    (same : blockBody formatting first = blockBody formatting second) : first = second := by
  unfold blockBody at same
  split at same
  · refine flatMap_append_inj ?_ (fun property => ?_) legible legible' same
    · intro one other legible legible' rest rest' written
      simp only [List.cons_append, List.append_assoc, List.cons.injEq, true_and,
        List.append_cancel_left_eq] at written
      exact declaration_append_inj legible legible' written
    · have := four_lt_length_declaration property
      simp only [List.length_append, List.length_cons, List.length_nil]
      omega
  · have longer (property : Variable) : ([] : List Char).length < (declaration property).length :=
      Nat.lt_of_le_of_lt (Nat.zero_le 4) (four_lt_length_declaration property)
    refine flatMap_append_inj declaration_append_inj longer legible legible' ?_
    rw [same]

/-- **A rule block can be read in one way only**: two lists of legible variables that are
written as the same block, with one selector and one formatting, are the same. -/
theorem ruleBlock_inj {selector : String} {formatting : Formatting} {first second : List Variable}
    (some_first : first ≠ []) (some_second : second ≠ [])
    (legible : ∀ property ∈ first, Legible property)
    (legible' : ∀ property ∈ second, Legible property)
    (same : ruleBlock selector formatting first = ruleBlock selector formatting second) :
    first = second := by
  simp only [ruleBlock, List.isEmpty_iff, if_neg some_first, if_neg some_second,
    String.ofList_inj, blockCharacters] at same
  rw [List.append_assoc, List.append_assoc, List.append_cancel_left_eq] at same
  exact blockBody_inj legible legible'
    (List.append_cancel_right (List.cons.inj (List.cons.inj same).2).2)

/-- A list with a quoted value that holds all that delimits a block, and the same list as it
comes from merging two. -/
theorem ruleBlock_inj_delimiters_in_quotes :
    let ink : Variable := ⟨"ink", ⟨"\\\";\n  --gap: 2rem;\n\x7d", true⟩⟩
    let gap : Variable := ⟨"gap", ⟨"1rem", false⟩⟩
    let merged := mergeVariables [[⟨"ink", ⟨"red", false⟩⟩], [ink, gap]]
    ([ink, gap] ≠ [] ∧ merged ≠ []) ∧
      (∀ property ∈ [ink, gap], Legible property) ∧ (∀ property ∈ merged, Legible property) ∧
      ruleBlock defaultSelector .standard [ink, gap] = ruleBlock defaultSelector .standard merged ∧
      [ink, gap] = merged := by
  intro ink gap merged
  have nonempty : merged ≠ [] := by decide
  have legible : ∀ property ∈ [ink, gap], Legible property := by decide
  have legible' : ∀ property ∈ merged, Legible property := by decide
  have same : ruleBlock defaultSelector .standard [ink, gap]
      = ruleBlock defaultSelector .standard merged := by decide
  exact ⟨⟨List.cons_ne_nil _ _, nonempty⟩, legible, legible', same,
    ruleBlock_inj (List.cons_ne_nil _ _) nonempty legible legible' same⟩

/-- A colon in a name takes the place of the one that ends it. -/
example (selector : String) (formatting : Formatting) :
    ruleBlock selector formatting [⟨"a: b", ⟨"c", false⟩⟩]
      = ruleBlock selector formatting [⟨"a", ⟨"b: c", false⟩⟩] := rfl

end CustomProperties
