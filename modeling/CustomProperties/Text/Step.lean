/-!
# Steps over a text

Whoever reads the front of a text leaves a shorter one unread.  That the rest is
shorter is part of a step, so that a reader which repeats another one is seen to
come to an end.
-/

namespace CustomProperties.Text

set_option autoImplicit false

/-- A value read from the front of `input`, and what is left. -/
structure Step (α : Type) (input : List Char) where
  value : α
  rest : List Char
  shorter : rest.length < input.length

/-- What is left of a text, which may be all of it. -/
structure Rest (input : List Char) where
  text : List Char
  within : text.length ≤ input.length

/-! ## Rests -/

/-- All of a text is left. -/
def Rest.all (input : List Char) : Rest input := ⟨input, Nat.le_refl _⟩

/-- What is left of a text is left of every longer text. -/
def Rest.widen {input longer : List Char} (left : Rest input)
    (within : input.length ≤ longer.length) : Rest longer :=
  ⟨left.text, Nat.le_trans left.within within⟩

/-- What is left behind one more character. -/
def Rest.behind {rest : List Char} (first : Char) (left : Rest rest) : Rest (first :: rest) :=
  left.widen (Nat.le_succ _)

/-! ## Steps -/

variable {α β : Type}

/-- The same step with another value. -/
def Step.map {input : List Char} (change : α → β) (step : Step α input) : Step β input :=
  ⟨change step.value, step.rest, step.shorter⟩

/-- A step from a text is one from every longer text. -/
def Step.widen {input longer : List Char} (step : Step α input)
    (within : input.length ≤ longer.length) : Step α longer :=
  ⟨step.value, step.rest, Nat.lt_of_lt_of_le step.shorter within⟩

/-- What a step leaves. -/
def Step.left {input : List Char} (step : Step α input) : Rest input :=
  ⟨step.rest, Nat.le_of_lt step.shorter⟩

/-- A step from what was left of a text. -/
def Step.after {input : List Char} (left : Rest input) (step : Step α left.text) :
    Step α input :=
  step.widen left.within

/-- The step over one character. -/
def Step.char (first : Char) (rest : List Char) (value : α) : Step α (first :: rest) :=
  ⟨value, rest, Nat.lt_succ_self _⟩

/-- A step, with one more character in front of it. -/
def Step.behind {rest : List Char} (first : Char) (step : Step α rest) :
    Step α (first :: rest) :=
  step.widen (Nat.le_succ _)

/-- The step over one character to what is left behind it. -/
def Step.before {rest : List Char} (first : Char) (left : Rest rest) (value : α) :
    Step α (first :: rest) :=
  ⟨value, left.text, Nat.lt_succ_of_le left.within⟩

/-! ## Parts that are passed over -/

/-- Dropping never lengthens. -/
theorem length_dropWhile_le (keep : Char → Bool) (input : List Char) :
    (input.dropWhile keep).length ≤ input.length :=
  (List.dropWhile_sublist keep).length_le

/-- What is left behind the characters with a property. -/
def Rest.dropWhile (keep : Char → Bool) (input : List Char) : Rest input :=
  ⟨input.dropWhile keep, length_dropWhile_le keep input⟩

end CustomProperties.Text
