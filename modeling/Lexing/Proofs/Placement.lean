import Lexing.Proofs.Text.Line
import Lexing.Session

set_option relaxedAutoImplicit false
set_option autoImplicit false

/-!
# Placement

A cursor is well placed if its position is that of the text before it. Every cursor that is
reached from the start of a text is, and stretches of the text can then be cut out by their byte
offsets.

## Main definitions

* `Lexing.Position.behind` — the place behind a text, counted from the text as a whole.
* `Lexing.Cursor.Placed` — the position counts what lies before the cursor.

## Main results

* `Lexing.Position.start_after` — counting character by character comes to the place behind.
* `Lexing.Cursor.Placed.skip_length` — moving over a stretch keeps a cursor well placed.
* `Lexing.Cursor.Placed.slice?_after` — the bytes between two places are the text between them.
-/

namespace Lexing

namespace Position

/-- The place behind a text, counted from the text as a whole: its line feeds, the characters
behind the last of them, all its characters, and all its bytes. -/
def behind (text : Text) : Position :=
  ⟨text.countP CharClass.isLineFeed, (Text.lastLine text).length, text.length,
    Text.byteLength text⟩

/-- The place behind one more character is one step further on. -/
theorem behind_concat (text : Text) (c : Char) :
    behind (text ++ [c]) = (behind text).advance c := by
  by_cases feed : CharClass.isLineFeed c = true
  · simp [behind, advance, Text.lastLine_concat, feed]
  · simp [behind, advance, Text.lastLine_concat, feed]

/-- **Counting is exact.** Counting character by character from the start of a text comes to the
place behind it.

**Proof sketch.** Induction from the end of the text, for the place behind it is told by its last
line and by counts that grow with its last character (`behind_concat`). -/
theorem start_after (text : Text) : start.after text = behind text := by
  induction text using List.reverseRecOn with
  | nil => rfl
  | append_singleton text c ih => rw [after_append, ih, behind_concat, after_cons, after_nil]

end Position

namespace Cursor

/-- The position counts exactly what lies before the cursor. -/
def Placed (c : Cursor) : Prop := c.position = Position.start.after c.before.reverse

variable {c : Cursor} {passed left : Text}

/-- The start of a text is well placed. -/
theorem placed_ofText (source : Text) : (ofText source).Placed := rfl

/-- Moving over a stretch leaves what follows it. -/
theorem rest_skip_length (split : c.rest = passed ++ left) :
    (c.skip passed.length).rest = left := by
  rw [rest_skip, split, List.drop_left]

/-- Moving over a stretch counts it into the position. -/
theorem position_skip_length (split : c.rest = passed ++ left) :
    (c.skip passed.length).position = c.position.after passed := by
  rw [Cursor.skip_length split]

/-- Moving over a stretch keeps a cursor well placed. -/
theorem Placed.skip_length (placed : c.Placed) (split : c.rest = passed ++ left) :
    (c.skip passed.length).Placed := by
  rw [Cursor.skip_length split, Placed, List.reverse_append, List.reverse_reverse,
    Position.after_append]
  exact congrArg (fun p => p.after passed) placed

/-- The offset of a well placed cursor is the number of characters before it. -/
theorem Placed.offset_eq (placed : c.Placed) : c.position.offset = c.before.length := by
  rw [placed, Position.offset_after, List.length_reverse]
  exact Nat.zero_add _

/-- The byte offset of a well placed cursor is the length of what lies before it. -/
theorem Placed.byte_eq (placed : c.Placed) :
    c.position.byte = Text.byteLength c.before.reverse := by
  rw [placed, Position.byte_after]
  exact Nat.zero_add _

/-- A well placed cursor cuts its text at its offset. -/
theorem Placed.cut (placed : c.Placed) :
    c.before.reverse = c.source.take c.position.offset ∧
      c.rest = c.source.drop c.position.offset := by
  have length : c.position.offset = c.before.reverse.length := by
    rw [placed.offset_eq, List.length_reverse]
  rw [length, source, List.take_left, List.drop_left]
  exact ⟨rfl, rfl⟩

/-- The place behind a stretch is the place behind what lies before the cursor and the stretch. -/
theorem Placed.after_eq (placed : c.Placed) (passed : Text) :
    c.position.after passed = .behind (c.before.reverse ++ passed) := by
  rw [← Position.start_after, Position.after_append]
  exact congrArg (fun p => p.after passed) placed

/-- The place behind a stretch that comes next is the place behind the text up to there. -/
theorem Placed.after_eq_behind (placed : c.Placed) (split : c.rest = passed ++ left) :
    c.position.after passed = .behind (c.source.take (c.position.offset + passed.length)) := by
  have front : c.source.take (c.position.offset + passed.length) = c.before.reverse ++ passed := by
    obtain ⟨before, rest⟩ := placed.cut
    rw [List.take_add, ← before, ← rest, split, List.take_left]
  rw [front, placed.after_eq]

/-- The position of a well placed cursor is the place behind the text up to it. -/
theorem Placed.position_eq_behind (placed : c.Placed) :
    c.position = .behind (c.source.take c.position.offset) :=
  placed.after_eq_behind (List.nil_append c.rest).symm

/-- The bytes between two places of a text are the text between them. -/
theorem Placed.slice?_after (placed : c.Placed) (lead : Text) {stretch : Text}
    (split : c.rest = lead ++ (stretch ++ left)) :
    Text.slice? c.source (c.position.after lead).byte (c.position.after (lead ++ stretch)).byte =
      some stretch := by
  have source : c.source = (c.before.reverse ++ lead) ++ stretch ++ left := by
    simp [Cursor.source, split]
  have start : (c.position.after lead).byte = Text.byteLength (c.before.reverse ++ lead) := by
    rw [Position.byte_after, placed.byte_eq, Text.byteLength_append]
  have stop : (c.position.after (lead ++ stretch)).byte =
      Text.byteLength ((c.before.reverse ++ lead) ++ stretch) := by
    rw [Position.byte_after, placed.byte_eq, List.append_assoc, Text.byteLength_append _ (_ ++ _)]
  rw [source, start, stop, Text.slice?_byteLength]

/-- The bytes that a move passes are the text that it passes. -/
theorem Placed.slice?_skip (placed : c.Placed) (split : c.rest = passed ++ left) :
    Text.slice? c.source c.position.byte (c.skip passed.length).position.byte = some passed := by
  rw [position_skip_length split]
  exact placed.slice?_after [] split

end Cursor

end Lexing
