import Lexing.Proofs.Reachable
import Lexing.Proofs.Text.Slice

set_option relaxedAutoImplicit false
set_option autoImplicit false

/-!
# Walks of a cursor

A cursor is asked about its place and moved along its text, in any order. Whatever is done with it,
it stays behind some leading part of the text: its position counts this part, and all its answers
are told by the text and the length of this part. Reading past the end of the text fails, and
changes nothing.

## Main definitions

* `Lexing.Cursor.Operation`, `Lexing.Cursor.Answer` — what can be done with a cursor, and what it
  answers.
* `Lexing.Cursor.perform`, `Lexing.Cursor.walk` — one operation, and several one after another.
* `Lexing.Cursor.Follows` — a cursor on a text whose position counts what lies before it.
* `Lexing.Text.IsLongestRun` — a run of a class is the longest one that a text begins with.
* `Lexing.Cursor.Tells` — the answers of a cursor to all operations, told by its text.

## Main results

* `Lexing.Cursor.perform_moves` — an operation moves over a leading part of what is left.
* `Lexing.Cursor.Follows.walk` — walks keep the place.
* `Lexing.Cursor.walk_exact` — on every walk all answers are exact, and no walk leads backward.
-/

namespace Lexing

namespace Cursor

/-! ## Operations -/

/-- What can be done with a cursor. -/
inductive Operation where
  /-- The character at the place is read. This fails at the end of the text. -/
  | current
  /-- The character at the place is looked at, if one is left. -/
  | tryCurrent
  /-- The character after the one at the place is looked at. -/
  | peekNext
  /-- The character before the place is looked at. -/
  | peekPrevious
  /-- The cursor steps past the next character. -/
  | advance
  /-- The cursor passes the longest run of a class, which is appended to a buffer. -/
  | collectWhile (member : Char → Bool) (buffer : Text)

/-- What a cursor answers to an operation. -/
inductive Answer where
  | read (result : Except PastEnd Char)
  | found (character : Option Char)
  | remains (more : Bool)
  | collected (buffer : Text)

/-- Performs an operation. -/
def perform (c : Cursor) : Operation → Answer × Cursor
  | .current => (.read c.current, c)
  | .tryCurrent => (.found c.current?, c)
  | .peekNext => (.found c.next?, c)
  | .peekPrevious => (.found c.previous?, c)
  | .advance => (.remains c.advance.1, c.advance.2)
  | .collectWhile member buffer =>
    let call := c.collectWhile member buffer
    (.collected call.1, call.2)

/-- The cursor after some operations. -/
def walk (c : Cursor) : List Operation → Cursor
  | [] => c
  | operation :: later => (c.perform operation).2.walk later

variable {c : Cursor} {source : Text}

/-- **An operation moves over a leading part of what is left**, which may be empty.

**Proof sketch.** By cases on the operation. Those that only look move over nothing, one step over
one character if there is one, and collecting over the run that it collects. -/
theorem perform_moves (c : Cursor) (operation : Operation) :
    ∃ passed left, c.rest = passed ++ left ∧
      (c.perform operation).2 = c.skip passed.length := by
  cases operation with
  | current => exact ⟨[], c.rest, rfl, rfl⟩
  | tryCurrent => exact ⟨[], c.rest, rfl, rfl⟩
  | peekNext => exact ⟨[], c.rest, rfl, rfl⟩
  | peekPrevious => exact ⟨[], c.rest, rfl, rfl⟩
  | advance =>
    cases left : c.rest with
    | nil =>
      have stays : c.step = c := by simp [step, left]
      exact ⟨[], [], rfl, stays⟩
    | cons x rest => exact ⟨[x], rest, rfl, rfl⟩
  | collectWhile member buffer =>
    exact ⟨c.rest.takeWhile member, c.rest.dropWhile member,
      List.takeWhile_append_dropWhile.symm, rfl⟩

/-- Moving is stepping as many times. -/
theorem skip_eq_walk (c : Cursor) (n : Nat) :
    c.skip n = c.walk (List.replicate n .advance) := by
  induction n generalizing c with
  | zero => rfl
  | succ n ih => exact ih c.step

/-! ## The place -/

/-- A cursor follows a text: it is on this text, and its position counts what lies before it. -/
structure Follows (source : Text) (c : Cursor) : Prop where
  text : c.source = source
  placed : c.Placed

/-- An operation keeps the place. -/
theorem Follows.perform (follows : c.Follows source) (operation : Operation) :
    (c.perform operation).2.Follows source := by
  obtain ⟨passed, left, split, moved⟩ := c.perform_moves operation
  rw [moved]
  exact ⟨(source_skip c _).trans follows.text, follows.placed.skip_length split⟩

/-- **Walks keep the place.** -/
theorem Follows.walk (follows : c.Follows source) (script : List Operation) :
    (c.walk script).Follows source := by
  induction script generalizing c with
  | nil => exact follows
  | cons operation later ih => exact ih (follows.perform operation)

/-- No operation leads backward. -/
theorem precedes_perform (c : Cursor) (operation : Operation) :
    c.position.Precedes (c.perform operation).2.position := by
  obtain ⟨passed, left, split, moved⟩ := c.perform_moves operation
  rw [moved, position_skip_length split]
  exact Position.precedes_after c.position passed

/-- No walk leads backward. -/
theorem precedes_walk (c : Cursor) (script : List Operation) :
    c.position.Precedes (c.walk script).position := by
  induction script generalizing c with
  | nil => exact .refl c.position
  | cons operation later ih =>
    exact (c.precedes_perform operation).trans (ih (c.perform operation).2)

/-- What lies before the place and what is left, counted on the text. -/
theorem Follows.cut (follows : c.Follows source) :
    c.before.reverse = source.take c.position.offset ∧ c.rest = source.drop c.position.offset := by
  rw [← follows.text]
  exact follows.placed.cut

/-- The place lies in the text. -/
theorem Follows.offset_le (follows : c.Follows source) : c.position.offset ≤ source.length := by
  rw [← follows.text]
  exact follows.placed.offset_le

/-- Nothing is left exactly where all characters lie before the place. -/
theorem Follows.rest_eq_nil_iff (follows : c.Follows source) :
    c.rest = [] ↔ c.position.offset = source.length := by
  have inside := follows.offset_le
  rw [follows.cut.2, List.drop_eq_nil_iff]
  omega

/-- Nothing is left exactly where all bytes lie before the place. -/
theorem Follows.rest_eq_nil_iff_byte (follows : c.Follows source) :
    c.rest = [] ↔ c.position.byte = Text.byteLength source := by
  rw [follows.placed.byte_eq, ← follows.text, Cursor.source, Text.byteLength_append]
  constructor
  · intro ended
    simp [ended]
  · intro bytes
    exact Text.eq_nil_of_byteLength (by omega)

end Cursor

/-! ## Runs -/

/-- A run of a class is the longest one that a text begins with. -/
structure Text.IsLongestRun (member : Char → Bool) (text run : Text) : Prop where
  leading : run <+: text
  inside : ∀ x ∈ run, member x = true
  longest : ∀ other, other <+: text → (∀ x ∈ other, member x = true) → other <+: run

/-- Taking members from a text as long as there are any gives the longest run. -/
theorem Text.isLongestRun_takeWhile (member : Char → Bool) (text : Text) :
    IsLongestRun member text (text.takeWhile member) := by
  refine ⟨List.takeWhile_prefix member, fun x => List.mem_takeWhile_imp, ?_⟩
  rintro other ⟨left, rfl⟩ inside
  rw [List.takeWhile_append_of_pos inside]
  exact List.prefix_append other (left.takeWhile member)

namespace Cursor

variable {c : Cursor} {source : Text}

/-! ## Answers -/

/-- What a cursor on a text tells. Its position is that of a leading part of the text, and what it
answers to each operation is told by the text and the length of this part. -/
structure Tells (source : Text) (c : Cursor) : Prop where
  inside : c.position.offset ≤ source.length
  position : c.position = .behind (source.take c.position.offset)
  /-- The end of the text is where all its bytes lie before the place. -/
  isAtEnd : c.isAtEnd = true ↔ c.position.byte = Text.byteLength source
  /-- Reading gives the character at the place. -/
  current : ∀ x, c.perform .current = (.read (.ok x), c) ↔ source[c.position.offset]? = some x
  /-- Reading fails exactly at the end of the text, and leaves the cursor as it was. -/
  currentAtEnd : c.perform .current = (.read (.error ⟨source.length, source.length⟩), c) ↔
    c.isAtEnd = true
  tryCurrent : c.perform .tryCurrent = (.found source[c.position.offset]?, c)
  peekNext : c.perform .peekNext = (.found source[c.position.offset + 1]?, c)
  /-- There is a character before the place unless the place is the start of the text. -/
  peekPrevious : ∃ x, c.perform .peekPrevious = (.found x, c) ∧
    (c.position.offset = 0 → x = none) ∧
    ∀ k, c.position.offset = k + 1 → k < source.length ∧ x = source[k]?
  /-- In front of the end a step leads past one character. -/
  advance : c.position.offset < source.length →
    ∃ d, c.perform .advance = (.remains (decide (c.position.offset + 1 < source.length)), d) ∧
      d.position = .behind (source.take (c.position.offset + 1))
  advanceAtEnd : c.isAtEnd = true → c.perform .advance = (.remains false, c)
  /-- Collecting appends the longest run to the buffer, and leads as far as one step for each
  character of the run. -/
  collectWhile : ∀ member buffer, ∃ run,
    Text.IsLongestRun member (source.drop c.position.offset) run ∧
      c.perform (.collectWhile member buffer) =
        (.collected (buffer ++ run), c.walk (List.replicate run.length .advance))

/-- Reading gives what is left first, or fails where nothing is left. -/
theorem Follows.current_eq (follows : c.Follows source) :
    c.current = match source[c.position.offset]? with
      | some x => .ok x
      | none => .error ⟨source.length, source.length⟩ := by
  rw [← List.head?_drop, ← follows.cut.2]
  cases left : c.rest with
  | nil => simp [Cursor.current, left, follows.text, follows.rest_eq_nil_iff.1 left]
  | cons x rest => simp [Cursor.current, left]

/-- The character before the place. -/
theorem Follows.previous?_eq (follows : c.Follows source) {k : Nat}
    (behind : c.position.offset = k + 1) : c.previous? = source[k]? := by
  have place := follows.placed.offset_eq
  cases before : c.before with
  | nil =>
    rw [before, behind] at place
    cases place
  | cons x others =>
    have count : k = others.reverse.length := by
      rw [before, List.length_cons, behind] at place
      rw [List.length_reverse]
      omega
    rw [← follows.text, Cursor.source, before, count, previous?, before]
    simp

/-- A step in front of the end leads past one character, and tells whether another one is left. -/
theorem Follows.advance_eq (follows : c.Follows source)
    (more : c.position.offset < source.length) :
    c.advance.1 = decide (c.position.offset + 1 < source.length) ∧
      c.advance.2.position = .behind (source.take (c.position.offset + 1)) := by
  have next : c.advance.2.Follows source := follows.perform .advance
  have place : c.advance.2.position.offset = c.position.offset + 1 := by
    obtain ⟨x, rest, left⟩ : ∃ x rest, c.rest = [x] ++ rest := by
      apply List.exists_cons_of_ne_nil
      rw [Ne, follows.rest_eq_nil_iff]
      omega
    have moved : c.step.position = c.position.after [x] := position_skip_length left
    show c.step.position.offset = c.position.offset + 1
    rw [moved, Position.offset_after]
    rfl
  constructor
  · have inside := next.offset_le
    have ended := next.rest_eq_nil_iff
    rw [place] at inside ended
    show (!c.advance.2.isAtEnd) = _
    rw [Bool.eq_iff_iff, isAtEnd, Bool.not_eq_true', ← Bool.not_eq_true, List.isEmpty_iff, ended,
      decide_eq_true_eq]
    omega
  · rw [← place, ← next.text]
    exact next.placed.position_eq_behind

/-- **A cursor on a text tells what the text tells.**

**Proof sketch.** What is left is the text behind as many characters as the position counts
(`Follows.cut`), so that each answer is told by a character of the text at this place or next to
it. A step moves over one character (`advance_eq`), and collecting over the longest run
(`isLongestRun_takeWhile`). -/
theorem Follows.tells (follows : c.Follows source) : c.Tells source where
  inside := follows.offset_le
  position := by
    rw [← follows.text]
    exact follows.placed.position_eq_behind
  isAtEnd := by
    rw [isAtEnd, List.isEmpty_iff]
    exact follows.rest_eq_nil_iff_byte
  current := by
    intro x
    show (Answer.read c.current, c) = _ ↔ _
    rw [follows.current_eq]
    cases source[c.position.offset]? <;> simp
  currentAtEnd := by
    show (Answer.read c.current, c) = _ ↔ _
    rw [follows.current_eq, isAtEnd, List.isEmpty_iff, follows.cut.2, ← List.head?_eq_none_iff,
      List.head?_drop]
    cases source[c.position.offset]? <;> simp
  tryCurrent := by
    show (Answer.found c.rest.head?, c) = _
    rw [follows.cut.2, List.head?_drop]
  peekNext := by
    show (Answer.found c.rest.tail.head?, c) = _
    rw [follows.cut.2, List.tail_drop, List.head?_drop]
  peekPrevious := by
    refine ⟨c.previous?, rfl, ?_, ?_⟩
    · intro start
      rw [follows.placed.offset_eq, List.length_eq_zero_iff] at start
      rw [previous?, start]
      rfl
    · intro k behind
      have inside := follows.offset_le
      exact ⟨by omega, follows.previous?_eq behind⟩
  advance := by
    intro more
    obtain ⟨answer, moved⟩ := follows.advance_eq more
    exact ⟨c.advance.2, by rw [← answer]; rfl, moved⟩
  advanceAtEnd := by
    intro ended
    have nothing : c.rest = [] := List.isEmpty_iff.1 ended
    simp [Cursor.perform, Cursor.advance, step, nothing, Cursor.isAtEnd]
  collectWhile := by
    intro member buffer
    refine ⟨c.rest.takeWhile member, ?_, ?_⟩
    · rw [← follows.cut.2]
      exact Text.isLongestRun_takeWhile member c.rest
    · rw [← skip_eq_walk]
      rfl

/-- **Walks are exact.** Whatever has been done with a cursor on a text, its position is that of a
leading part of the text, all its answers are told by the text and the length of this part, and
nothing that is done with it later leads backward.

**Proof sketch.** The start of a text follows it, each operation keeps to it, and so does a whole
walk (`Follows.walk`). `Follows.tells` gives the answers, and `precedes_walk` that no walk leads
backward. -/
theorem walk_exact (source : Text) (script : List Operation) :
    ((ofText source).walk script).Tells source ∧
      ∀ more, ((ofText source).walk script).position.Precedes
        (((ofText source).walk script).walk more).position := by
  have starts : (ofText source).Follows source := ⟨rfl, placed_ofText source⟩
  exact ⟨(starts.walk script).tells, precedes_walk _⟩

end Cursor

end Lexing
