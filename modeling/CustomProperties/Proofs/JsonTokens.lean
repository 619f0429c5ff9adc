import CustomProperties.Json.Literal
import CustomProperties.Json.Quoted

/-!
# How strings and numbers are spelled

The same string and the same number can stand in a JSON text in many ways: a character as itself,
by a letter after a backslash or by its UTF-16 units, a number by any literal that stands for it.
Here these spellings are given as a grammar, beside the readers, and the readers are shown to find
the end of a spelling and the value that it spells, whatever follows it (`yields_readQuoted`,
`yields_readNumber`).  A string ends at its quote.  A number ends by itself, so what follows it
must not go on with it (`EndsNumber`).
-/

namespace CustomProperties.Json

set_option autoImplicit false

open Text (Step)

variable {α β : Type}

/-! ## What reading comes to -/

/-- Reading yields a value and leaves a rest. -/
def Yields {input : List Char} (reading : Reading α input) (value : α) (rest : List Char) : Prop :=
  ∃ shorter, reading = .ok ⟨value, rest, shorter⟩

section Yields

variable {input rest : List Char} {reading : Reading α input} {value : α}

theorem Yields.map (yields : Yields reading value rest) (change : α → β) :
    Yields (Except.map (Step.map change) reading) (change value) rest := by
  obtain ⟨shorter, rfl⟩ := yields
  exact ⟨shorter, rfl⟩

theorem Yields.widen (yields : Yields reading value rest) {longer : List Char}
    (within : input.length ≤ longer.length) :
    Yields (Except.map (Step.widen · within) reading) value rest := by
  obtain ⟨shorter, rfl⟩ := yields
  exact ⟨Nat.lt_of_lt_of_le shorter within, rfl⟩

theorem Yields.behind (yields : Yields reading value rest) (first : Char) :
    Yields (Reading.behind first reading) value rest :=
  yields.widen (Nat.le_succ _)

end Yields

/-! ## Strings -/

/-- Four hexadecimal digits spell a UTF-16 unit. -/
structure SpellsUnit (unit : Nat) (digits : List Char) : Prop where
  length_eq : digits.length = 4
  value_eq : Text.hexNumber? digits = some unit

/-- A text in a literal spells a character. -/
inductive SpellsChar : Char → List Char → Prop where
  /-- The character itself, which is neither special nor a control character. -/
  | plain {char : Char} (quote : char ≠ '"') (backslash : char ≠ '\\')
      (printable : 32 ≤ char.toNat) : SpellsChar char [char]
  /-- A letter that stands for it. -/
  | letter {char letter : Char} (stands : escapeLetter? letter = some char) :
      SpellsChar char ['\\', letter]
  /-- Its unit. -/
  | unit {unit : Nat} {digits : List Char} (spelled : SpellsUnit unit digits)
      (single : isLeading unit = false) (single' : isTrailing unit = false) :
      SpellsChar (Char.ofNat unit) ('\\' :: 'u' :: digits)
  /-- The two units of its surrogate pair. -/
  | pair {leading trailing : Nat} {digits digits' : List Char}
      (spelled : SpellsUnit leading digits) (spelled' : SpellsUnit trailing digits')
      (leads : isLeading leading = true) (trails : isTrailing trailing = true) :
      SpellsChar (pairChar leading trailing) ('\\' :: 'u' :: digits ++ '\\' :: 'u' :: digits')

/-- A text in a literal spells characters one after another. -/
inductive SpellsChars : List Char → List Char → Prop where
  | nil : SpellsChars [] []
  | cons {char : Char} {chars text rest : List Char} (first : SpellsChar char text)
      (others : SpellsChars chars rest) : SpellsChars (char :: chars) (text ++ rest)

/-- No unit both opens and closes a pair. -/
theorem isTrailing_of_isLeading {unit : Nat} (leads : isLeading unit = true) :
    isTrailing unit = false := by
  simp only [isLeading, isTrailing, decide_eq_true_eq, decide_eq_false_iff_not] at leads ⊢
  omega

theorem yields_readUnit {unit : Nat} {digits : List Char} (spelled : SpellsUnit unit digits)
    (rest : List Char) : Yields (readUnit (digits ++ rest)) unit rest := by
  obtain ⟨length_eq, value_eq⟩ := spelled
  obtain ⟨first, second, third, fourth, rfl⟩ : ∃ first second third fourth,
      digits = [first, second, third, fourth] := by
    match digits, length_eq with
    | [first, second, third, fourth], _ => exact ⟨first, second, third, fourth, rfl⟩
  refine ⟨?_, ?_⟩
  · simp only [List.length_append, List.length_cons, List.length_nil]
    omega
  · simp only [List.cons_append, List.nil_append, readUnit, value_eq]

theorem yields_readUnits_single {unit : Nat} {digits : List Char} (spelled : SpellsUnit unit digits)
    (single : isLeading unit = false) (single' : isTrailing unit = false) (rest : List Char) :
    Yields (readUnits (digits ++ rest)) (Char.ofNat unit) rest := by
  obtain ⟨shorter, read⟩ := yields_readUnit spelled rest
  refine ⟨shorter, ?_⟩
  simp only [readUnits, read, single, single', Bool.false_eq_true, if_false]
  rfl

theorem yields_readUnits_pair {leading trailing : Nat} {digits digits' : List Char}
    (spelled : SpellsUnit leading digits) (spelled' : SpellsUnit trailing digits')
    (leads : isLeading leading = true) (trails : isTrailing trailing = true) (rest : List Char) :
    Yields (readUnits (digits ++ '\\' :: 'u' :: (digits' ++ rest)))
      (pairChar leading trailing) rest := by
  obtain ⟨_, read⟩ := yields_readUnit spelled ('\\' :: 'u' :: (digits' ++ rest))
  obtain ⟨shorter, read'⟩ := yields_readUnit spelled' rest
  have partner : Yields (readPartner leading ('\\' :: 'u' :: (digits' ++ rest)))
      (pairChar leading trailing) rest := by
    refine ⟨Nat.lt_succ_of_lt (Nat.lt_succ_of_lt shorter), ?_⟩
    simp only [readPartner, read', trails, if_true]
  have notTrailing := isTrailing_of_isLeading leads
  simp only [readUnits, read, notTrailing, leads, Bool.false_eq_true, if_false, if_true]
  exact partner.widen _

/-- An escape is read after its backslash. -/
theorem yields_readEscape_letter {char letter : Char} (stands : escapeLetter? letter = some char)
    (rest : List Char) : Yields (readEscape (letter :: rest)) char rest := by
  have other : letter ≠ 'u' := by
    rintro rfl
    cases stands
  refine ⟨Nat.lt_succ_self _, ?_⟩
  rw [readEscape]
  · rw [stands]
    rfl
  · exact other

/-- A character goes in front of those that are read behind its escape. -/
theorem yields_readCharacters_escape {char : Char} {chars escaped left rest : List Char}
    (first : Yields (readEscape escaped) char left)
    (others : Yields (readCharacters left) chars rest) :
    Yields (readCharacters ('\\' :: escaped)) (char :: chars) rest := by
  obtain ⟨shorter, read⟩ := first
  obtain ⟨shorter', read'⟩ := others
  refine ⟨Nat.lt_succ_of_lt (Nat.lt_trans shorter' shorter), ?_⟩
  simp only [readCharacters, read, read']

/-- A character that stands for itself goes in front of those that are read behind it. -/
theorem yields_readCharacters_plain {char : Char} {chars text rest : List Char}
    (quote : char ≠ '"') (backslash : char ≠ '\\') (printable : 32 ≤ char.toNat)
    (others : Yields (readCharacters text) chars rest) :
    Yields (readCharacters (char :: text)) (char :: chars) rest := by
  obtain ⟨shorter, read⟩ := others
  refine ⟨Nat.lt_succ_of_lt shorter, ?_⟩
  rw [readCharacters]
  · simp only [if_neg (Nat.not_lt.mpr printable), read]
  · exact quote
  · exact backslash

/-- The closing quote ends them. -/
theorem yields_readCharacters_quote (rest : List Char) :
    Yields (readCharacters ('"' :: rest)) [] rest := by
  refine ⟨Nat.lt_succ_self _, ?_⟩
  rw [readCharacters]
  rfl

/-- **The characters of a literal are read up to its closing quote.** -/
theorem yields_readCharacters {chars text : List Char} (spelled : SpellsChars chars text)
    (rest : List Char) : Yields (readCharacters (text ++ '"' :: rest)) chars rest := by
  induction spelled with
  | nil => exact yields_readCharacters_quote rest
  | cons first others ih =>
    rw [List.append_assoc]
    cases first with
    | plain quote backslash printable =>
      exact yields_readCharacters_plain quote backslash printable ih
    | letter stands =>
      exact yields_readCharacters_escape (yields_readEscape_letter stands _) ih
    | unit spelled single single' =>
      exact yields_readCharacters_escape
        ((yields_readUnits_single spelled single single' _).behind 'u') ih
    | pair spelled spelled' leads trails =>
      rw [List.cons_append, List.cons_append, List.append_assoc, List.cons_append,
        List.cons_append]
      exact yields_readCharacters_escape
        ((yields_readUnits_pair spelled spelled' leads trails _).behind 'u') ih

/-- **A string is read up to its closing quote.** -/
theorem yields_readQuoted {chars text : List Char} (spelled : SpellsChars chars text)
    (rest : List Char) : Yields (readQuoted (text ++ '"' :: rest)) (String.ofList chars) rest :=
  (yields_readCharacters spelled rest).map String.ofList

/-! ## Numbers -/

/-- No digit follows. -/
def EndsDigits (rest : List Char) : Prop := ∀ char ∈ rest.head?, char.isDigit = false

/-- Nothing follows that a number could go on with. -/
def EndsNumber (rest : List Char) : Prop :=
  ∀ char ∈ rest.head?, char.isDigit = false ∧ char ≠ '.' ∧ char ≠ 'e' ∧ char ≠ 'E'

theorem EndsNumber.endsDigits {rest : List Char} (ends : EndsNumber rest) : EndsDigits rest :=
  fun char first => (ends char first).1

/-- Characters spell decimal digits, of which there is at least one. -/
structure SpellsDigits (digits : List Nat) (text : List Char) : Prop where
  nonempty : text ≠ []
  isDigit : ∀ char ∈ text, char.isDigit = true
  values : text.map digitValue = digits

/-- A text spells a whole part: zero alone, or digits that start with another one. -/
inductive SpellsWhole : List Nat → List Char → Prop where
  | zero : SpellsWhole [0] ['0']
  | digits {digits : List Nat} {text : List Char} (spelled : SpellsDigits digits text)
      (leading : text.head? ≠ some '0') : SpellsWhole digits text

/-- A text spells a fraction, which may be absent. -/
inductive SpellsFraction : List Nat → List Char → Prop where
  | absent : SpellsFraction [] []
  | present {digits : List Nat} {text : List Char} (spelled : SpellsDigits digits text) :
      SpellsFraction digits ('.' :: text)

/-- A text spells the sign of an exponent. -/
inductive SpellsSign : Bool → List Char → Prop where
  | absent : SpellsSign false []
  | plus : SpellsSign false ['+']
  | minus : SpellsSign true ['-']

/-- A text spells an exponent, which may be absent. -/
inductive SpellsExponent : Option Exponent → List Char → Prop where
  | absent : SpellsExponent none []
  | present {letter : Char} {negative : Bool} {digits : List Nat} {sign text : List Char}
      (opens : letter = 'e' ∨ letter = 'E') (signed : SpellsSign negative sign)
      (spelled : SpellsDigits digits text) :
      SpellsExponent (some ⟨negative, digits⟩) (letter :: (sign ++ text))

/-- A text spells a literal with this sign, apart from the sign. -/
inductive SpellsUnsigned (negative : Bool) : Literal → List Char → Prop where
  | mk {whole fraction : List Nat} {exponent : Option Exponent} {first second third : List Char}
      (spelledWhole : SpellsWhole whole first) (spelledFraction : SpellsFraction fraction second)
      (spelledExponent : SpellsExponent exponent third) :
      SpellsUnsigned negative ⟨negative, whole, fraction, exponent⟩ (first ++ (second ++ third))

/-- A text spells a literal. -/
inductive SpellsLiteral : Literal → List Char → Prop where
  | positive {literal : Literal} {text : List Char} (spelled : SpellsUnsigned false literal text) :
      SpellsLiteral literal text
  | negative {literal : Literal} {text : List Char} (spelled : SpellsUnsigned true literal text) :
      SpellsLiteral literal ('-' :: text)

/-- A text spells a number: it is a literal that stands for it. -/
def SpellsNumber (number : Number) (text : List Char) : Prop :=
  ∃ literal, SpellsLiteral literal text ∧ literal.number = .ok number

/-! ### Digits -/

/-- Digits are taken up to where they end. -/
theorem digits?_append {digits : List Nat} {text rest : List Char}
    (spelled : SpellsDigits digits text) (ends : EndsDigits rest) :
    ∃ shorter, digits? (text ++ rest) = some ⟨digits, rest, shorter⟩ := by
  obtain ⟨nonempty, isDigit, rfl⟩ := spelled
  cases text with
  | nil => exact absurd rfl nonempty
  | cons first text =>
    obtain ⟨digit, isDigit⟩ := List.forall_mem_cons.mp isDigit
    have stop : rest.takeWhile Char.isDigit = [] ∧ rest.dropWhile Char.isDigit = rest := by
      cases rest with
      | nil => exact ⟨rfl, rfl⟩
      | cons char rest =>
        have noDigit : char.isDigit = false := ends char rfl
        exact ⟨List.takeWhile_cons_of_neg (by simp [noDigit]),
          List.dropWhile_cons_of_neg (by simp [noDigit])⟩
    have taken : (text ++ rest).takeWhile Char.isDigit = text := by
      rw [List.takeWhile_append_of_pos isDigit, stop.1, List.append_nil]
    have left : (text ++ rest).dropWhile Char.isDigit = rest := by
      rw [List.dropWhile_append_of_pos isDigit, stop.2]
    refine ⟨?_, ?_⟩
    · simp only [List.cons_append, List.length_cons, List.length_append]
      omega
    · simp only [List.cons_append, digits?, digit, if_true, taken, left]

/-- Where no digit is, none is taken. -/
theorem digits?_eq_none {rest : List Char} (ends : EndsDigits rest) : digits? rest = none := by
  cases rest with
  | nil => rfl
  | cons char rest =>
    have noDigit : char.isDigit = false := ends char rfl
    rw [digits?, noDigit, if_neg Bool.false_ne_true]

theorem yields_readDigits {digits : List Nat} {text rest : List Char}
    (spelled : SpellsDigits digits text) (ends : EndsDigits rest) :
    Yields (readDigits (text ++ rest)) digits rest := by
  obtain ⟨shorter, taken⟩ := digits?_append spelled ends
  refine ⟨shorter, ?_⟩
  rw [readDigits, taken]

/-- Digits begin with one. -/
theorem SpellsDigits.opens {digits : List Nat} {text : List Char}
    (spelled : SpellsDigits digits text) :
    ∃ char behind, text = char :: behind ∧ char.isDigit = true := by
  obtain ⟨nonempty, isDigit, _⟩ := spelled
  cases text with
  | nil => exact absurd rfl nonempty
  | cons char behind => exact ⟨char, behind, rfl, isDigit char List.mem_cons_self⟩

/-- What begins with a digit does not begin with a sign. -/
theorem ne_cons_of_isDigit {char sign : Char} (digit : char.isDigit = true)
    (noDigit : sign.isDigit = false) (first second : List Char) : char :: first ≠ sign :: second := by
  intro same
  rw [(List.cons.inj same).1, noDigit] at digit
  exact Bool.false_ne_true digit

/-! ### The parts of a literal -/

theorem yields_readWhole {digits : List Nat} {text rest : List Char}
    (spelled : SpellsWhole digits text) (ends : EndsDigits rest) :
    Yields (readWhole (text ++ rest)) digits rest := by
  cases spelled with
  | zero =>
    refine ⟨Nat.lt_succ_self _, ?_⟩
    simp only [List.cons_append, List.nil_append, readWhole, digits?_eq_none ends,
      Option.isSome_none, Bool.false_eq_true, if_false]
    rfl
  | digits spelled leading =>
    obtain ⟨shorter, read⟩ := yields_readDigits spelled ends
    refine ⟨shorter, ?_⟩
    rw [readWhole]
    · exact read
    · intro behind same
      apply leading
      cases text with
      | nil => exact absurd rfl spelled.nonempty
      | cons char text => rw [List.head?_cons, (List.cons.inj same).1]

/-- A fraction is read up to its end; without a point there is none. -/
theorem readFraction_append {digits : List Nat} {text rest : List Char}
    (spelled : SpellsFraction digits text) (ends : EndsDigits rest)
    (noPoint : '.' ∉ rest.head?) :
    ∃ within, readFraction (text ++ rest) = .ok (digits, ⟨rest, within⟩) := by
  cases spelled with
  | absent =>
    show ∃ within, readFraction rest = .ok ([], ⟨rest, within⟩)
    refine ⟨Nat.le_refl _, ?_⟩
    rw [readFraction]
    · rfl
    · rintro behind rfl
      exact noPoint rfl
  | present spelled =>
    obtain ⟨shorter, read⟩ := yields_readDigits spelled ends
    refine ⟨?_, ?_⟩
    · simp only [List.cons_append, List.length_cons, List.length_append]
      omega
    · simp only [List.cons_append, readFraction, read]
      rfl

theorem yields_readSignedExponent {negative : Bool} {digits : List Nat} {sign text rest : List Char}
    (signed : SpellsSign negative sign) (spelled : SpellsDigits digits text)
    (ends : EndsDigits rest) :
    Yields (readSignedExponent (sign ++ text ++ rest)) ⟨negative, digits⟩ rest := by
  have read (negative : Bool) : Yields (readExponentDigits negative (text ++ rest))
      ⟨negative, digits⟩ rest := (yields_readDigits spelled ends).map _
  cases signed with
  | plus => exact (read false).behind '+'
  | minus => exact (read true).behind '-'
  | absent =>
    show Yields (readSignedExponent (text ++ rest)) ⟨false, digits⟩ rest
    obtain ⟨char, behind, rfl, digit⟩ := spelled.opens
    obtain ⟨shorter, read⟩ := read false
    refine ⟨shorter, ?_⟩
    rw [readSignedExponent]
    · exact read
    · exact ne_cons_of_isDigit digit rfl _
    · exact ne_cons_of_isDigit digit rfl _

/-- An exponent is read up to its end; without its letter there is none. -/
theorem readExponent_append {exponent : Option Exponent} {text rest : List Char}
    (spelled : SpellsExponent exponent text) (ends : EndsNumber rest) :
    ∃ within, readExponent (text ++ rest) = .ok (exponent, ⟨rest, within⟩) := by
  cases spelled with
  | absent =>
    refine ⟨Nat.le_refl _, ?_⟩
    cases rest with
    | nil => rfl
    | cons char rest =>
      obtain ⟨_, _, lower, upper⟩ := ends char rfl
      simp only [List.nil_append, readExponent, lower, upper, decide_false, Bool.or_self,
        Bool.false_eq_true, if_false]
      rfl
  | @present letter _ _ sign text opens signed spelled =>
    obtain ⟨shorter, read⟩ := yields_readSignedExponent signed spelled ends.endsDigits
    refine ⟨Nat.le_of_lt (Nat.lt_succ_of_lt shorter), ?_⟩
    have letters : (decide (letter = 'e') || decide (letter = 'E')) = true := by
      rcases opens with rfl | rfl <;> rfl
    simp only [List.cons_append, readExponent, letters, if_true, read]
    rfl

/-! ### Literals -/

/-- No digit and no point opens an exponent. -/
theorem SpellsExponent.head?_append {exponent : Option Exponent} {text rest : List Char}
    (spelled : SpellsExponent exponent text) (ends : EndsNumber rest) :
    ∀ char ∈ (text ++ rest).head?, char.isDigit = false ∧ char ≠ '.' := by
  intro char first
  cases spelled with
  | absent =>
    obtain ⟨noDigit, noPoint, _, _⟩ := ends char first
    exact ⟨noDigit, noPoint⟩
  | present opens =>
    cases first
    rcases opens with rfl | rfl
    · exact ⟨rfl, by decide⟩
    · exact ⟨rfl, by decide⟩

/-- No digit opens a fraction and what follows it. -/
theorem SpellsFraction.endsDigits_append {digits : List Nat} {text rest : List Char}
    (spelled : SpellsFraction digits text) (ends : EndsDigits rest) :
    EndsDigits (text ++ rest) := by
  cases spelled with
  | absent => exact ends
  | present =>
    intro char first
    cases first
    rfl

theorem yields_readUnsigned {negative : Bool} {literal : Literal} {text rest : List Char}
    (spelled : SpellsUnsigned negative literal text) (ends : EndsNumber rest) :
    Yields (readUnsigned negative (text ++ rest)) literal rest := by
  obtain ⟨spelledWhole, spelledFraction, spelledExponent⟩ := spelled
  have opening := spelledExponent.head?_append ends
  have noDigit : EndsDigits _ := fun char first => (opening char first).1
  have noPoint : '.' ∉ _ := fun first => (opening '.' first).2 rfl
  obtain ⟨shorter, read⟩ :=
    yields_readWhole spelledWhole (spelledFraction.endsDigits_append noDigit)
  obtain ⟨within, read'⟩ := readFraction_append spelledFraction noDigit noPoint
  obtain ⟨within', read''⟩ := readExponent_append spelledExponent ends
  rw [List.append_assoc, List.append_assoc]
  refine ⟨Nat.lt_of_le_of_lt (Nat.le_trans within' within) shorter, ?_⟩
  simp only [readUnsigned, read, read', read'', bind, Except.bind]
  rfl

/-- A literal without its sign begins with a digit. -/
theorem SpellsUnsigned.opens {negative : Bool} {literal : Literal} {text : List Char}
    (spelled : SpellsUnsigned negative literal text) :
    ∃ char behind, text = char :: behind ∧ char.isDigit = true := by
  obtain ⟨spelledWhole, _, _⟩ := spelled
  cases spelledWhole with
  | zero => exact ⟨'0', _, rfl, rfl⟩
  | digits spelled =>
    obtain ⟨char, behind, rfl, digit⟩ := spelled.opens
    exact ⟨char, _, rfl, digit⟩

/-- A literal is read up to its end. -/
theorem yields_readLiteral {literal : Literal} {text rest : List Char}
    (spelled : SpellsLiteral literal text) (ends : EndsNumber rest) :
    Yields (readLiteral (text ++ rest)) literal rest := by
  cases spelled with
  | negative spelled => exact (yields_readUnsigned spelled ends).behind '-'
  | positive spelled =>
    obtain ⟨shorter, read⟩ := yields_readUnsigned spelled ends
    obtain ⟨char, behind, rfl, digit⟩ := spelled.opens
    refine ⟨shorter, ?_⟩
    rw [readLiteral]
    · exact read
    · exact ne_cons_of_isDigit digit rfl _

/-- A number begins with a digit or a minus sign. -/
theorem SpellsNumber.opens {number : Number} {text : List Char}
    (spelled : SpellsNumber number text) :
    ∃ char behind, text = char :: behind ∧ (char = '-' || char.isDigit) = true := by
  obtain ⟨literal, spelled, _⟩ := spelled
  cases spelled with
  | negative => exact ⟨'-', _, rfl, rfl⟩
  | positive spelled =>
    obtain ⟨char, behind, rfl, digit⟩ := spelled.opens
    exact ⟨char, behind, rfl, by rw [digit, Bool.or_true]⟩

/-- **A number is read up to its end.** -/
theorem yields_readNumber {number : Number} {text rest : List Char}
    (spelled : SpellsNumber number text) (ends : EndsNumber rest) :
    Yields (readNumber (text ++ rest)) number rest := by
  obtain ⟨literal, spelled, stands⟩ := spelled
  obtain ⟨shorter, read⟩ := yields_readLiteral spelled ends
  refine ⟨shorter, ?_⟩
  simp only [readNumber, read, stands]
  rfl

end CustomProperties.Json
