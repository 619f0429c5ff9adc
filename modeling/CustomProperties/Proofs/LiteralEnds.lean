import CustomProperties.Proofs.Legibility
import Mathlib.Algebra.Ring.Parity
import Mathlib.Data.List.DropRight

/-!
# Where a string literal ends

A value that is quoted or empty is written as a string literal, whose text may hold quotes and
backslashes in any number and at any place, also at its end.  Whether a quote ends the literal
cannot be told from the character in front of it, which may be a backslash that is escaped itself.
What counts is the run of backslashes right in front of the quote: it escapes the quote if it is
odd (`Escaped`).  So a text can stand between two quotes if each quote in it has an odd run in
front of it and the text does not end in one (`Enclosable`).

Reading a literal from its opening quote stops behind an enclosable text and nowhere else
(`scanLiteral_eq_some_iff`).  As a text with its quotes and backslashes escaped is read to its end,
it is enclosable, and no quote in it can be taken for the closing one.  The main statement is
`css_delimits_itself`.
-/

namespace CustomProperties

set_option autoImplicit false

/-! ## Escaped characters -/

/-- What comes after `before` is escaped: an odd number of backslashes stands right in front of it,
so that the last of them is not escaped itself. -/
def Escaped (before : List Char) : Prop := Odd (before.rtakeWhile (· = '\\')).length

instance (before : List Char) : Decidable (Escaped before) := inferInstanceAs (Decidable (Odd _))

/-- The first character is not escaped. -/
theorem not_escaped_nil : ¬ Escaped [] := by decide

/-- A backslash escapes what comes after it, unless it is escaped. -/
theorem escaped_concat_iff (before : List Char) (char : Char) :
    Escaped (before ++ [char]) ↔ char = '\\' ∧ ¬ Escaped before := by
  by_cases backslash : char = '\\'
  · have run := List.rtakeWhile_concat_pos (· = '\\') before char (decide_eq_true backslash)
    rw [Escaped, run, List.length_append, List.length_singleton, Nat.odd_add_one]
    exact (and_iff_right backslash).symm
  · have run := List.rtakeWhile_concat_neg (· = '\\') before char (by simpa using backslash)
    rw [Escaped, run]
    exact iff_of_false (by decide) fun escaped => backslash escaped.1

/-- What is escaped can be told without the characters in front, if they escape nothing. -/
theorem escaped_append_iff {front : List Char} (free : ¬ Escaped front) (back : List Char) :
    Escaped (front ++ back) ↔ Escaped back := by
  induction back using List.reverseRecOn with
  | nil => simpa using iff_of_false free not_escaped_nil
  | append_singleton back char ih =>
    rw [← List.append_assoc, escaped_concat_iff, escaped_concat_iff, ih]

/-! ## Texts between quotes -/

/-- A text that can stand between two quotes: every quote in it is escaped, and a quote behind it
is not. -/
structure Enclosable (inside : List Char) : Prop where
  escaped : ∀ before after : List Char, inside = before ++ '"' :: after → Escaped before
  free : ¬ Escaped inside

/-- There may be nothing between two quotes. -/
theorem enclosable_nil : Enclosable [] where
  escaped before _ equal :=
    absurd equal.symm (List.append_ne_nil_of_right_ne_nil before (List.cons_ne_nil _ _))
  free := not_escaped_nil

/-- A character that is neither a quote nor a backslash can stand between two quotes. -/
theorem enclosable_plain {char : Char} (plain : ¬ (char = '"' ∨ char = '\\')) :
    Enclosable [char] := by
  obtain ⟨quote, backslash⟩ := not_or.mp plain
  refine ⟨fun before after equal => ?_, fun escaped => ?_⟩
  · have member : '"' ∈ [char] := equal ▸ List.mem_append_right before List.mem_cons_self
    exact absurd (List.mem_singleton.mp member).symm quote
  · exact backslash ((escaped_concat_iff [] char).mp escaped).1

/-- Any character with a backslash in front of it can stand between two quotes. -/
theorem enclosable_pair (char : Char) : Enclosable ['\\', char] := by
  refine ⟨fun before after equal => ?_, fun escaped => ?_⟩
  · match before with
    | [] => simp at equal
    | [first] =>
      obtain rfl : first = '\\' := (List.cons.inj equal).1.symm
      decide
    | _ :: _ :: rest =>
      have lengths := congrArg List.length equal
      simp at lengths
  · exact ((escaped_concat_iff ['\\'] char).mp escaped).2 (by decide)

/-- A quote in an enclosable text is escaped, and any other stands behind the text. -/
theorem Enclosable.escaped_or_behind {front back before after : List Char}
    (enclosable : Enclosable front) (same : front ++ back = before ++ '"' :: after) :
    Escaped before ∨ ∃ between, before = front ++ between ∧ back = between ++ '"' :: after := by
  obtain behind | ⟨between, ahead, quote⟩ := List.append_eq_append_iff.mp same
  · exact .inr behind
  · cases between with
    | nil =>
      rw [List.append_nil] at ahead
      exact .inr ⟨[], by rw [ahead, List.append_nil], quote.symm⟩
    | cons first between =>
      obtain rfl : '"' = first := (List.cons.inj quote).1
      exact .inl (enclosable.escaped before between ahead)

/-- Enclosable texts are put together from enclosable texts. -/
theorem enclosable_append_iff {front : List Char} (enclosable : Enclosable front)
    (back : List Char) : Enclosable (front ++ back) ↔ Enclosable back := by
  have shift := escaped_append_iff enclosable.free
  constructor
  · intro joined
    refine ⟨fun before after equal => ?_, fun escaped => joined.free ((shift back).mpr escaped)⟩
    rw [← shift before]
    exact joined.escaped (front ++ before) after (by rw [equal, List.append_assoc])
  · intro rest
    refine ⟨fun before after equal => ?_, fun escaped => rest.free ((shift back).mp escaped)⟩
    obtain escaped | ⟨between, rfl, behind⟩ := enclosable.escaped_or_behind equal
    · exact escaped
    · exact (shift between).mpr (rest.escaped between after behind)

/-! ## Reading a literal -/

/-- A character is no backslash if a backslash could be neither the last one nor followed by one. -/
theorem ne_backslash_of_no_follower {char : Char} {rest : List Char}
    (last : char = '\\' → rest = [] → False)
    (pair : ∀ escaped after, char = '\\' → rest = escaped :: after → False) : char ≠ '\\' := by
  intro backslash
  cases rest with
  | nil => exact last backslash rfl
  | cons escaped after => exact pair escaped after backslash rfl

/-- A literal is read up to the quote behind an enclosable text. -/
theorem scanLiteral_of_enclosable {inside : List Char} (enclosable : Enclosable inside)
    (behind : List Char) : scanLiteral (inside ++ '"' :: behind) = some (inside, behind) := by
  induction inside using scanLiteral.induct with
  | case1 => rfl
  | case2 rest => exact absurd (enclosable.escaped [] rest rfl) not_escaped_nil
  | case3 => exact absurd (by decide) enclosable.free
  | case4 escaped rest ih =>
    have scanned := ih ((enclosable_append_iff (enclosable_pair escaped) rest).mp enclosable)
    simp only [List.cons_append, scanLiteral, scanned, Option.map_some]
  | case5 char rest quote last pair ih =>
    have plain := not_or.mpr ⟨quote, ne_backslash_of_no_follower last pair⟩
    have scanned := ih ((enclosable_append_iff (enclosable_plain plain) rest).mp enclosable)
    rw [List.cons_append, scanLiteral_plain plain, scanned, Option.map_some]

/-- What is read of a literal is enclosable and ends at a quote. -/
theorem enclosable_of_scanLiteral {text inside behind : List Char}
    (scanned : scanLiteral text = some (inside, behind)) :
    text = inside ++ '"' :: behind ∧ Enclosable inside := by
  fun_induction scanLiteral text generalizing inside with
  | case1 => contradiction
  | case2 rest =>
    obtain ⟨rfl, rfl⟩ := Prod.mk.inj (Option.some.inj scanned)
    exact ⟨rfl, enclosable_nil⟩
  | case3 => contradiction
  | case4 escaped rest ih =>
    obtain ⟨⟨tail, _⟩, read, ⟨⟩⟩ := Option.map_eq_some_iff.mp scanned
    obtain ⟨rfl, enclosable⟩ := ih read
    exact ⟨rfl, (enclosable_append_iff (enclosable_pair escaped) tail).mpr enclosable⟩
  | case5 char rest quote last pair ih =>
    have plain := not_or.mpr ⟨quote, ne_backslash_of_no_follower last pair⟩
    obtain ⟨⟨tail, _⟩, read, ⟨⟩⟩ := Option.map_eq_some_iff.mp scanned
    obtain ⟨rfl, enclosable⟩ := ih read
    exact ⟨rfl, (enclosable_append_iff (enclosable_plain plain) tail).mpr enclosable⟩

/-- **A literal ends at its first quote that is not escaped.** -/
theorem scanLiteral_eq_some_iff {text inside behind : List Char} :
    scanLiteral text = some (inside, behind)
      ↔ text = inside ++ '"' :: behind ∧ Enclosable inside := by
  refine ⟨enclosable_of_scanLiteral, ?_⟩
  rintro ⟨rfl, enclosable⟩
  exact scanLiteral_of_enclosable enclosable behind

/-- A quote behind two backslashes ends a literal, one behind three does not. -/
example :
    scanLiteral ['\\', '\\', '"', '"'] = some (['\\', '\\'], ['"']) ∧
      scanLiteral ['\\', '\\', '\\', '"', '"'] = some (['\\', '\\', '\\', '"'], []) := by decide

/-- A text with its quotes and backslashes escaped can stand between two quotes. -/
theorem enclosable_escaped (text : List Char) : Enclosable (text.flatMap escapeQuoted) :=
  (scanLiteral_eq_some_iff.mp (scanLiteral_escaped text [])).2

/-! ## Literals among other texts -/

/-- The literal of a value that needs quotes, with something behind it. -/
theorem Value.toList_css_append {value : Value} (needed : value.needsQuotes = true)
    (following : String) :
    (value.css ++ following).toList
      = '"' :: (value.text.toList.flatMap escapeQuoted ++ '"' :: following.toList) := by
  rw [String.toList_append, css, String.toList_ofList, written, if_pos needed, stringLiteral,
    List.cons_append, List.cons_append, List.append_assoc, List.singleton_append]

/-- **A literal delimits itself and gives its text back.**

A value that is quoted or empty is written between two quotes.  Whatever comes after it, reading on
from the first of them stops right behind the second, and what was read is the text once each
backslash that escapes is dropped.  No other quote of the literal can be taken for the second: each
quote that is not escaped, counting from the first, is the second or comes after it.  All other
values are written as they are. -/
theorem css_delimits_itself (value : Value) :
    (value.quoted = true ∨ value.text = "" →
      ∃ inside : List Char,
        value.css.toList = '"' :: inside ++ ['"'] ∧ unescape inside = value.text.toList ∧
        ∀ following : String,
          scanLiteral (value.css ++ following).toList.tail = some (inside, following.toList) ∧
          ∀ before after : List Char,
            (value.css ++ following).toList = '"' :: before ++ '"' :: after →
            ¬ Escaped before → inside <+: before) ∧
    (value.quoted = false → value.text ≠ "" → value.css = value.text) := by
  constructor
  · intro literal
    have needed := value.needsQuotes_iff.mpr literal
    refine ⟨value.text.toList.flatMap escapeQuoted, ?_, unescape_escaped _, fun following => ?_⟩
    · have alone := Value.toList_css_append needed ""
      rwa [String.append_empty] at alone
    have whole := Value.toList_css_append needed following
    refine ⟨?_, fun before after split free => ?_⟩
    · rw [whole, List.tail_cons, scanLiteral_escaped]
    · rw [whole] at split
      have placed := (enclosable_escaped _).escaped_or_behind (List.cons.inj split).2
      obtain ⟨between, joined, _⟩ := placed.resolve_left free
      exact ⟨between, joined.symm⟩
  · intro unquoted nonempty
    rw [Value.css, Value.written_plain unquoted nonempty, String.ofList_toList]

/-- A text that begins with a quote and ends in a backslash, with a second quote behind its literal,
and a value with quotes in it that is no literal. -/
theorem css_delimits_itself_trailing_backslash :
    let value : Value := ⟨"\";\\", true⟩
    let inside := ['\\', '"', ';', '\\', '\\']
    let image : Value := ⟨"url(\"x\")", false⟩
    (value.quoted = true ∨ value.text = "") ∧ (image.quoted = false ∧ image.text ≠ "") ∧
      scanLiteral (value.css ++ "\";").toList.tail = some (inside, ['"', ';']) ∧
      unescape inside = ['"', ';', '\\'] ∧
      (∀ before after : List Char,
        (value.css ++ "\";").toList = '"' :: before ++ '"' :: after →
        ¬ Escaped before → inside <+: before) ∧
      image.css = "url(\"x\")" := by
  intro value inside image
  have marked : value.quoted = true ∨ value.text = "" := Or.inl rfl
  have nonempty : image.text ≠ "" := by decide
  obtain ⟨read, written, back, behind⟩ := (css_delimits_itself value).1 marked
  have expected : value.css.toList = '"' :: inside ++ ['"'] := by decide
  obtain rfl : inside = read :=
    (List.cons.inj (List.append_cancel_right (expected.symm.trans written))).2
  obtain ⟨stops, free⟩ := behind "\";"
  have text : value.text.toList = ['"', ';', '\\'] := by decide
  exact ⟨marked, ⟨rfl, nonempty⟩, stops, back.trans text, free,
    (css_delimits_itself image).2 rfl nonempty⟩

end CustomProperties
