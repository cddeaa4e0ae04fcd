import Lexing.Position
import Lexing.Text.Lines

set_option relaxedAutoImplicit false
set_option autoImplicit false

/-!
# Cursors

A cursor is a place in a source text together with the text itself. It only moves forward, one
character at a time, and keeps its position up to date.

## Main definitions

* `Lexing.Cursor` — what lies before the place, what is left, and the position.
* `Lexing.Cursor.step` — the cursor past the next character.
* `Lexing.Cursor.advance` — a step that also tells whether a character remains.
* `Lexing.Cursor.current` — the character at the place; reading past the end is a failure of
  its own.
* `Lexing.Cursor.collectWhile` — the longest run of characters of a class.

## Main results

* `Lexing.Cursor.source_skip` — moving does not change the text.
* `Lexing.Cursor.rest_skip` — moving by `n` drops `n` characters from what is left.
-/

namespace Lexing

/-- A place in a source text. `before` lists the characters before it, nearest first, and `rest`
those after it. -/
structure Cursor where
  before : Text
  rest : Text
  position : Position
deriving DecidableEq, Repr

namespace Cursor

/-- The cursor at the start of a text. -/
def ofText (source : Text) : Cursor := ⟨[], source, .start⟩

/-- The whole text. -/
def source (c : Cursor) : Text := c.before.reverse ++ c.rest

/-- Whether no character is left. -/
def isAtEnd (c : Cursor) : Bool := c.rest.isEmpty

/-- The character at the place, if one is left. -/
def current? (c : Cursor) : Option Char := c.rest.head?

/-- The character after the current one. -/
def next? (c : Cursor) : Option Char := c.rest.tail.head?

/-- The character just before the place. -/
def previous? (c : Cursor) : Option Char := c.before.head?

/-- A read past the end of a text: where it was tried, and how long the text is, in
characters. -/
structure PastEnd where
  offset : Nat
  length : Nat
deriving DecidableEq, Repr

/-- The wording of a read past the end. -/
def PastEnd.message (e : PastEnd) : Text :=
  "cursor read past end of input (offset ".toList ++ Text.decimal e.offset ++
    ", length ".toList ++ Text.decimal e.length ++ ")".toList

/-- The character at the place; a failure at the end of the text. -/
def current (c : Cursor) : Except PastEnd Char :=
  match c.rest with
  | [] => .error ⟨c.position.offset, c.source.length⟩
  | x :: _ => .ok x

/-- The cursor past the next character, or the same cursor at the end of the text. -/
def step (c : Cursor) : Cursor :=
  match c.rest with
  | [] => c
  | x :: rest => ⟨x :: c.before, rest, c.position.advance x⟩

/-- Steps past the next character; the answer tells whether a character remains after it. -/
def advance (c : Cursor) : Bool × Cursor :=
  (!c.step.isAtEnd, c.step)

/-- The cursor `n` steps further on. -/
def skip (c : Cursor) : Nat → Cursor
  | 0 => c
  | n + 1 => c.step.skip n

/-- Passes the longest run of characters of a class and appends it to `buffer`. -/
def collectWhile (c : Cursor) (member : Char → Bool) (buffer : Text) : Text × Cursor :=
  let run := c.rest.takeWhile member
  (buffer ++ run, c.skip run.length)

@[simp] theorem source_ofText (source : Text) : (ofText source).source = source := rfl

@[simp] theorem source_step (c : Cursor) : c.step.source = c.source := by
  unfold step
  split
  · rfl
  · next x rest h => simp [source, h]

/-- Moving does not change the text. -/
@[simp] theorem source_skip (c : Cursor) (n : Nat) : (c.skip n).source = c.source := by
  induction n generalizing c with
  | zero => rfl
  | succ n ih => rw [skip, ih, source_step]

@[simp] theorem rest_step (c : Cursor) : c.step.rest = c.rest.tail := by
  unfold step
  split
  · next h => simp [h]
  · next h => simp [h]

/-- Moving by `n` drops `n` characters from what is left. -/
@[simp] theorem rest_skip (c : Cursor) (n : Nat) : (c.skip n).rest = c.rest.drop n := by
  induction n generalizing c with
  | zero => rfl
  | succ n ih => rw [skip, ih, rest_step, List.drop_tail]

/-- Two moves in a row are one move. -/
theorem skip_add (c : Cursor) (m n : Nat) : c.skip (m + n) = (c.skip m).skip n := by
  induction m generalizing c with
  | zero => simp [skip]
  | succ m ih => rw [Nat.succ_add, skip, skip, ih]

/-- Moving past a leading part of what is left puts that part behind the cursor and counts it
into the position. -/
theorem skip_length {c : Cursor} {passed left : Text} (h : c.rest = passed ++ left) :
    c.skip passed.length = ⟨passed.reverse ++ c.before, left, c.position.after passed⟩ := by
  induction passed generalizing c with
  | nil => cases c; simp_all [skip]
  | cons x passed ih =>
    have hstep : c.step = ⟨x :: c.before, passed ++ left, c.position.advance x⟩ := by
      simp [step, h]
    rw [List.length_cons, skip, ih (by rw [hstep]), hstep]
    simp

end Cursor

end Lexing
