import Lexing.Text.Bytes

set_option relaxedAutoImplicit false
set_option autoImplicit false

/-!
# Positions

A position is a place between two characters of a source text, counted four ways at once. A
line feed ends its line: the position after it is the start of the next line.

## Main definitions

* `Lexing.Position` — line, column, character offset and byte offset, all counted from zero.
* `Lexing.Position.advance` — the position after one more character.
* `Lexing.Position.after` — the position after a further stretch of text.

## Main results

* `Lexing.Position.after_append` — stretches are passed one after another.
* `Lexing.Position.offset_after`, `Lexing.Position.byte_after` — what these counts gain from a
  stretch of text.
-/

namespace Lexing

/-- A place in a source text. Lines and columns count from zero; columns and the offset count
characters, `byte` counts the bytes of the UTF-8 form. -/
structure Position where
  line : Nat
  column : Nat
  offset : Nat
  byte : Nat
deriving DecidableEq, Repr

namespace Position

/-- The place before the first character. -/
def start : Position := ⟨0, 0, 0, 0⟩

/-- The place after one more character. -/
def advance (p : Position) (c : Char) : Position :=
  if CharClass.isLineFeed c then ⟨p.line + 1, 0, p.offset + 1, p.byte + c.utf8Size⟩
  else ⟨p.line, p.column + 1, p.offset + 1, p.byte + c.utf8Size⟩

/-- The place after a further stretch of text. -/
def after (p : Position) (passed : Text) : Position :=
  passed.foldl advance p

@[simp] theorem after_nil (p : Position) : p.after [] = p := rfl

@[simp] theorem after_cons (p : Position) (c : Char) (rest : Text) :
    p.after (c :: rest) = (p.advance c).after rest := rfl

/-- Two stretches are passed one after the other. -/
theorem after_append (p : Position) (a b : Text) : p.after (a ++ b) = (p.after a).after b := by
  simp [after, List.foldl_append]

/-- The offset grows by the number of characters passed. -/
theorem offset_after (p : Position) (passed : Text) :
    (p.after passed).offset = p.offset + passed.length := by
  induction passed generalizing p with
  | nil => simp
  | cons c rest ih =>
    rw [after_cons, ih, List.length_cons, advance]
    split <;> simp <;> omega

/-- The byte offset grows by the number of bytes passed. -/
theorem byte_after (p : Position) (passed : Text) :
    (p.after passed).byte = p.byte + Text.byteLength passed := by
  induction passed generalizing p with
  | nil => simp
  | cons c rest ih =>
    rw [after_cons, ih, Text.byteLength_cons, advance]
    split <;> simp <;> omega

end Position

end Lexing
