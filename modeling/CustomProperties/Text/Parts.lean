/-!
# Parts of a text

Cutting a text at every occurrence of a separator.  The parts, joined with the
separator, are the text again, and none of them holds the separator.
-/

namespace CustomProperties.Text

set_option autoImplicit false

/-- The parts of a text between separators; a text without one is its only part. -/
def parts (separator : Char) : List Char → List (List Char)
  | [] => [[]]
  | char :: rest =>
    if char = separator then [] :: parts separator rest
    else
      match parts separator rest with
      | [] => [[char]]
      | first :: others => (char :: first) :: others

/-- There is at least one part. -/
theorem parts_ne_nil (separator : Char) (text : List Char) : parts separator text ≠ [] := by
  fun_cases parts separator text <;> simp_all

/-- The parts, joined with the separator, are the text. -/
theorem intercalate_parts (separator : Char) (text : List Char) :
    [separator].intercalate (parts separator text) = text := by
  induction text with
  | nil => rfl
  | cons char rest ih =>
    rw [parts]
    cases found : parts separator rest with
    | nil => exact absurd found (parts_ne_nil separator rest)
    | cons first others =>
      rw [found] at ih
      split
      · next same => rw [List.intercalate_cons_cons, ih, same, List.nil_append, List.singleton_append]
      · cases others with
        | nil => simpa using ih
        | cons second later =>
          rw [List.intercalate_cons_cons] at ih ⊢
          rw [List.cons_append, List.cons_append, ih]

/-- No part holds the separator. -/
theorem not_mem_of_mem_parts {separator : Char} {text part : List Char}
    (member : part ∈ parts separator text) : separator ∉ part := by
  induction text generalizing part with
  | nil => simp_all [parts]
  | cons char rest ih =>
    rw [parts] at member
    split at member
    · rcases List.mem_cons.mp member with first | later
      · simp [first]
      · exact ih later
    · next other =>
      split at member
      · next none => exact absurd none (parts_ne_nil separator rest)
      · next first others found =>
        rcases List.mem_cons.mp member with same | later
        · have inFirst : separator ∉ first := ih (by simp [found])
          rw [same, List.mem_cons]
          exact fun held => held.elim (fun equal => other equal.symm) inFirst
        · exact ih (by simp [found, later])

/-- A text without the separator is its only part. -/
theorem parts_of_not_mem {separator : Char} {text : List Char} (without : separator ∉ text) :
    parts separator text = [text] := by
  induction text with
  | nil => rfl
  | cons char rest ih =>
    have other : char ≠ separator := fun same => without (same ▸ List.mem_cons_self)
    rw [parts, if_neg other, ih fun later => without (List.mem_cons_of_mem _ later)]

/-- A separator ends one part and begins another. -/
theorem parts_append_separator (separator : Char) (text rest : List Char) :
    parts separator (text ++ separator :: rest) = parts separator text ++ parts separator rest := by
  induction text with
  | nil => simp only [List.nil_append, parts, if_true, List.cons_append]
  | cons char text ih =>
    rw [List.cons_append, parts, parts, ih]
    split
    · rfl
    · cases found : parts separator text with
      | nil => exact absurd found (parts_ne_nil separator text)
      | cons first others => rfl

end CustomProperties.Text
