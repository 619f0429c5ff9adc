/-!
# Texts in bytes

Lengths and parts of a text, counted in the bytes of its UTF-8 form.
-/

namespace CustomProperties.Text

set_option autoImplicit false

/-- How many bytes a text takes. -/
def utf8Size : List Char → Nat
  | [] => 0
  | char :: rest => char.utf8Size + utf8Size rest

/-- What is left behind a number of bytes; a character cut in two goes with them. -/
def dropBytes : Nat → List Char → List Char
  | _, [] => []
  | bytes, char :: rest => if bytes = 0 then char :: rest else dropBytes (bytes - char.utf8Size) rest

/-- What a number of bytes in front holds, with a character that is cut in two. -/
def takeBytes : Nat → List Char → List Char
  | _, [] => []
  | bytes, char :: rest => if bytes = 0 then [] else char :: takeBytes (bytes - char.utf8Size) rest

/-- The two parts make up the text. -/
theorem takeBytes_append_dropBytes (bytes : Nat) (text : List Char) :
    takeBytes bytes text ++ dropBytes bytes text = text := by
  induction text generalizing bytes with
  | nil => rfl
  | cons char rest ih =>
    by_cases none : bytes = 0
    · simp [takeBytes, dropBytes, none]
    · simp [takeBytes, dropBytes, none, ih]

/-- Parts that end between two characters are cut there. -/
theorem takeBytes_utf8Size (first second : List Char) :
    takeBytes (utf8Size first) (first ++ second) = first := by
  induction first with
  | nil => cases second <;> simp [takeBytes, utf8Size]
  | cons char rest ih =>
    have positive := char.utf8Size_pos
    have nonzero : char.utf8Size + utf8Size rest ≠ 0 := by omega
    rw [utf8Size, List.cons_append, takeBytes, if_neg nonzero, Nat.add_sub_cancel_left, ih]

end CustomProperties.Text
