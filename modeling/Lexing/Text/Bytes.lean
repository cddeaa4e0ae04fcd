import Lexing.Text.CharClass

set_option relaxedAutoImplicit false
set_option autoImplicit false

/-!
# Byte offsets

Lengths and slices of text in bytes of its UTF-8 form. A slice exists only where both of its
ends fall between characters.

## Main definitions

* `Lexing.Text.byteLength` — the length of the UTF-8 form.
* `Lexing.Text.slice?` — the text between two byte offsets.

## Main results

* `Lexing.Text.byteLength_append` — lengths add up.
* `Lexing.Text.slice?_byteLength` — the slice between the ends of a middle part is that part.
-/

namespace Lexing

namespace Text

/-- The number of bytes of the UTF-8 form of a text. -/
def byteLength : Text → Nat
  | [] => 0
  | c :: rest => c.utf8Size + byteLength rest

/-- The text after its first `n` bytes, if a character ends there. -/
def dropBytes? : Text → Nat → Option Text
  | text, 0 => some text
  | [], _ + 1 => none
  | c :: rest, n + 1 =>
    if c.utf8Size ≤ n + 1 then dropBytes? rest (n + 1 - c.utf8Size) else none

/-- The first `n` bytes of a text, if a character ends there. -/
def takeBytes? : Text → Nat → Option Text
  | _, 0 => some []
  | [], _ + 1 => none
  | c :: rest, n + 1 =>
    if c.utf8Size ≤ n + 1 then (takeBytes? rest (n + 1 - c.utf8Size)).map (c :: ·) else none

/-- The text between the byte offsets `start` and `stop`, unless they are out of order, out of
bounds or inside a character. -/
def slice? (text : Text) (start stop : Nat) : Option Text :=
  if start ≤ stop then (dropBytes? text start).bind fun rest => takeBytes? rest (stop - start)
  else none

@[simp] theorem byteLength_nil : byteLength [] = 0 := rfl

@[simp] theorem byteLength_cons (c : Char) (rest : Text) :
    byteLength (c :: rest) = c.utf8Size + byteLength rest := rfl

/-- The byte length of a concatenation is the sum of the byte lengths. -/
@[simp] theorem byteLength_append (a b : Text) :
    byteLength (a ++ b) = byteLength a + byteLength b := by
  induction a with
  | nil => simp
  | cons c a ih => simp [ih, Nat.add_assoc]

/-- A text has at least as many bytes as characters. -/
theorem length_le_byteLength (text : Text) : text.length ≤ byteLength text := by
  induction text with
  | nil => simp
  | cons c rest ih =>
    have := c.utf8Size_pos
    simp only [List.length_cons, byteLength_cons]
    omega

/-- Dropping the bytes of a leading part leaves what follows it. -/
@[simp] theorem dropBytes?_byteLength (a b : Text) :
    dropBytes? (a ++ b) (byteLength a) = some b := by
  induction a with
  | nil => cases b <;> simp [dropBytes?]
  | cons c a ih =>
    obtain ⟨k, hk⟩ : ∃ k, byteLength (c :: a) = k + 1 :=
      Nat.exists_eq_succ_of_ne_zero (by have := c.utf8Size_pos; simp only [byteLength_cons]; omega)
    rw [hk, List.cons_append, dropBytes?]
    simp only [byteLength_cons] at hk
    rw [if_pos (by omega), show k + 1 - c.utf8Size = byteLength a by omega, ih]

/-- Taking the bytes of a leading part gives that part. -/
@[simp] theorem takeBytes?_byteLength (a b : Text) :
    takeBytes? (a ++ b) (byteLength a) = some a := by
  induction a with
  | nil => cases b <;> simp [takeBytes?]
  | cons c a ih =>
    obtain ⟨k, hk⟩ : ∃ k, byteLength (c :: a) = k + 1 :=
      Nat.exists_eq_succ_of_ne_zero (by have := c.utf8Size_pos; simp only [byteLength_cons]; omega)
    rw [hk, List.cons_append, takeBytes?]
    simp only [byteLength_cons] at hk
    rw [if_pos (by omega), show k + 1 - c.utf8Size = byteLength a by omega, ih]
    rfl

/-- The slice between the ends of a middle part is that part. -/
theorem slice?_byteLength (a b c : Text) :
    slice? (a ++ b ++ c) (byteLength a) (byteLength (a ++ b)) = some b := by
  rw [slice?, if_pos (by simp), List.append_assoc, dropBytes?_byteLength]
  simp

end Text

end Lexing
