import Lexing.Proofs.Call
import Lexing.TokenStream
import Mathlib.Logic.Relation

set_option relaxedAutoImplicit false
set_option autoImplicit false

/-!
# Reachable sessions

A session is asked for what comes next in three ways: by a call that keeps its token in the slot,
by a call that hands it over, and by a pull of a stream. Calls of all three kinds may follow one
another, each with a suppression and a mode of its own, and they go on after faults. Whatever the
calls are, the four counts of the position agree with the text up to it, and tokens lie exactly
where their spans say.

## Main definitions

* `Lexing.Session.Asks` — a call of any kind, with what it comes to and the session it leaves.
* `Lexing.Session.AsksIn` — the same for calls in a given mode.
* `Lexing.Session.Reaches` — the sessions that calls lead to.
* `Lexing.Session.Reads` — a session reads a text and knows its place in it.
* `Lexing.Position.Precedes` — a position does not lie behind another one.
* `Lexing.Token.LiesBetween` — a token lies exactly between two places of a text.

## Main results

* `Lexing.Session.asks_iff_exists_asksIn` — every call is made in some mode.
* `Lexing.Session.AsksIn.pulls_or_stays`, `Lexing.Session.Asks.pulls_or_stays` — what a call of
  any kind can come to.
* `Lexing.Session.Reaches.reads` — calls never lose the place.
* `Lexing.Session.places_exact` — positions and spans are exact in every run.
-/

namespace Lexing

/-! ## Order of positions -/

namespace Position

/-- A position does not lie behind another one, by characters, by bytes, and by line and
column. -/
structure Precedes (p q : Position) : Prop where
  offset : p.offset ≤ q.offset
  byte : p.byte ≤ q.byte
  lineColumn : p.line < q.line ∨ p.line = q.line ∧ p.column ≤ q.column

variable {p q r : Position}

theorem Precedes.refl (p : Position) : p.Precedes p :=
  ⟨Nat.le_refl _, Nat.le_refl _, .inr ⟨rfl, Nat.le_refl _⟩⟩

theorem Precedes.trans (first : p.Precedes q) (second : q.Precedes r) : p.Precedes r := by
  refine ⟨first.offset.trans second.offset, first.byte.trans second.byte, ?_⟩
  have lines := first.lineColumn
  have others := second.lineColumn
  omega

/-- One more character leads forward. -/
theorem precedes_advance (p : Position) (x : Char) : p.Precedes (p.advance x) := by
  by_cases feed : CharClass.isLineFeed x = true
  · rw [advance, if_pos feed]
    exact ⟨Nat.le_succ _, Nat.le_add_right _ _, .inl (Nat.lt_succ_self _)⟩
  · rw [advance, if_neg feed]
    exact ⟨Nat.le_succ _, Nat.le_add_right _ _, .inr ⟨rfl, Nat.le_succ _⟩⟩

/-- A further stretch of text leads forward. -/
theorem precedes_after (p : Position) (passed : Text) : p.Precedes (p.after passed) := by
  induction passed generalizing p with
  | nil => exact .refl p
  | cons x passed ih => exact (p.precedes_advance x).trans (ih (p.advance x))

end Position

/-! ## Tokens in their text -/

/-- A token lies exactly between two places of a text, both counted in characters: its span names
the bytes up to each of them, and the line and column of the first. -/
structure Token.LiesBetween (source : Text) (i j : Nat) (t : Token) : Prop where
  nonempty : i < j
  inside : j ≤ source.length
  start : t.span.start = Text.byteLength (source.take i)
  stop : t.span.stop = Text.byteLength (source.take j)
  line : t.span.line = (source.take i).countP CharClass.isLineFeed
  column : t.span.column = (Text.lastLine (source.take i)).length

variable {suppression : Suppression} {mode : Mode}

/-- Only a token has a token. -/
theorem Outcome.eq_token_of_token? {o : Outcome} {t : Token} (found : o.token? = some t) :
    o = .token t := by
  cases o with
  | token u =>
    cases found
    rfl
  | failed failure => cases found
  | finished => cases found

namespace Cursor

variable {c d : Cursor}

/-- A well placed cursor lies within its text. -/
theorem Placed.offset_le (placed : c.Placed) : c.position.offset ≤ c.source.length := by
  rw [placed.offset_eq, source, List.length_append, List.length_reverse]
  exact Nat.le_add_right _ _

/-- The token of a call lies between the place before the call and the place after it, and ends
at the latter. -/
theorem Pulls.liesBetween {t : Token} (h : Pulls suppression mode c (.token t) d)
    (placed : c.Placed) :
    ∃ i, c.position.offset ≤ i ∧ t.LiesBetween c.source i d.position.offset := by
  have inside : d.position.offset ≤ d.source.length := (h.placed placed).offset_le
  cases h with
  | @token kind trivia raw text left split suppressed kept lexeme follows =>
    have joined : c.rest = (trivia ++ raw) ++ left := by rw [split, List.append_assoc trivia]
    have first := placed.after_eq_behind split
    have past := placed.after_eq_behind joined
    have positive := List.length_pos_iff.2 lexeme.ne_nil
    have stop : (c.skip (trivia ++ raw).length).position.offset =
        c.position.offset + (trivia ++ raw).length := by
      rw [position_skip_length joined, Position.offset_after]
    rw [source_skip] at inside
    refine ⟨c.position.offset + trivia.length, Nat.le_add_right _ _, ?_, inside, ?_, ?_, ?_, ?_⟩
    · rw [stop, List.length_append]
      omega
    · exact congrArg Position.byte first
    · rw [stop]
      exact congrArg Position.byte past
    · exact congrArg Position.line first
    · exact congrArg Position.column first

end Cursor

namespace Session

/-! ## Calls of any kind -/

/-- A call on a session, in any of the ways to ask for what comes next: what it comes to, and the
session that it leaves. -/
inductive Asks (s : Session) (o : Outcome) (after : Session) : Prop where
  /-- The token is kept in the slot. -/
  | next {suppression : Suppression} {mode : Mode} (call : s.next suppression mode = (o, after))
  /-- The token is handed over. -/
  | take {suppression : Suppression} {mode : Mode} (call : s.take suppression mode = (o, after))
  /-- A stream of the session is pulled. It may have stopped before. -/
  | pull {stream later : TokenStream} (belongs : stream.session = s)
      (call : stream.next = (o, later)) (leaves : later.session = after)

/-- Calls of any kind, one after another, lead from the first session to the second. -/
def Reaches : Session → Session → Prop :=
  Relation.ReflTransGen fun s after => ∃ o, s.Asks o after

variable {s after : Session} {o : Outcome} {source : Text}

/-- A call on a session in a given mode, in any of the ways to ask for what comes next: what it
comes to, and the session that it leaves. -/
inductive AsksIn (mode : Mode) (s : Session) (o : Outcome) (after : Session) : Prop where
  /-- The token is kept in the slot. -/
  | next {suppression : Suppression} (call : s.next suppression mode = (o, after))
  /-- The token is handed over. -/
  | take {suppression : Suppression} (call : s.take suppression mode = (o, after))
  /-- A stream of the session is pulled. It may have stopped before. -/
  | pull {stream later : TokenStream} (belongs : stream.session = s) (reads : stream.mode = mode)
      (call : stream.next = (o, later)) (leaves : later.session = after)

/-- Every call is made in some mode. -/
theorem asks_iff_exists_asksIn : s.Asks o after ↔ ∃ mode, s.AsksIn mode o after := by
  constructor
  · intro asked
    cases asked with
    | @next suppression mode call => exact ⟨mode, .next call⟩
    | @take suppression mode call => exact ⟨mode, .take call⟩
    | @pull stream later belongs call leaves =>
      exact ⟨stream.mode, .pull belongs rfl call leaves⟩
  · rintro ⟨mode, asked⟩
    cases asked with
    | next call => exact .next call
    | take call => exact .take call
    | pull belongs _ call leaves => exact .pull belongs call leaves

/-- What a call in a mode can come to. It comes to what a call on its cursor can come to, and keeps
at most the token that it comes to. Only a stream that has stopped does nothing. -/
theorem AsksIn.pulls_or_stays (asked : s.AsksIn mode o after) :
    (∃ suppression, Cursor.Pulls suppression mode s.cursor o after.cursor ∧
        ∀ t, after.held = some t → o = .token t) ∨
      (o = .finished ∧ after = s) := by
  cases asked with
  | @next suppression call =>
    cases call
    exact .inl ⟨suppression, Cursor.pulls_pull suppression mode s.cursor,
      fun _ => Outcome.eq_token_of_token?⟩
  | @take suppression call =>
    cases call
    exact .inl ⟨suppression, Cursor.pulls_pull suppression mode s.cursor,
      fun _ kept => by cases kept⟩
  | @pull stream later belongs reads call leaves =>
    subst belongs reads leaves
    cases running : stream.stopped with
    | true =>
      rw [TokenStream.next_of_stopped running] at call
      cases call
      exact .inr ⟨rfl, rfl⟩
    | false =>
      rw [TokenStream.next_of_running running] at call
      cases call
      exact .inl ⟨stream.suppression, Cursor.pulls_pull _ _ stream.session.cursor,
        fun _ kept => by cases kept⟩

/-- **What a call of any kind can come to** is what a call in some mode can come to. -/
theorem Asks.pulls_or_stays (asked : s.Asks o after) :
    (∃ suppression mode, Cursor.Pulls suppression mode s.cursor o after.cursor ∧
        ∀ t, after.held = some t → o = .token t) ∨
      (o = .finished ∧ after = s) := by
  obtain ⟨mode, asked⟩ := asks_iff_exists_asksIn.1 asked
  rcases asked.pulls_or_stays with ⟨suppression, pulls⟩ | stays
  · exact .inl ⟨suppression, mode, pulls⟩
  · exact .inr stays

/-- A call of any kind moves over a leading part of what is left. -/
theorem Asks.exists_used (asked : s.Asks o after) :
    ∃ used left, s.cursor.rest = used ++ left ∧ after.cursor = s.cursor.skip used.length := by
  rcases asked.pulls_or_stays with ⟨suppression, mode, pulls, -⟩ | ⟨-, rfl⟩
  · obtain ⟨used, left, split, moved, -⟩ := pulls.exists_used
    exact ⟨used, left, split, moved⟩
  · exact ⟨[], after.cursor.rest, rfl, rfl⟩

/-- No call leads backward. -/
theorem Asks.precedes (asked : s.Asks o after) : s.position.Precedes after.position := by
  obtain ⟨used, left, split, moved⟩ := asked.exists_used
  rw [position, position, moved, Cursor.position_skip_length split]
  exact Position.precedes_after _ used

/-! ## Runs of calls -/

/-- A session reads a text: it has this text, its position counts what lies before it, and the
token in its slot is the one that ends at its place. -/
structure Reads (source : Text) (s : Session) : Prop where
  text : s.source = source
  placed : s.cursor.Placed
  held : ∀ t, s.held = some t → ∃ i, t.LiesBetween source i s.position.offset

/-- A session at the start of a text reads it. -/
theorem reads_ofText (source : Text) : (ofText source).Reads source :=
  ⟨rfl, Cursor.placed_ofText source, fun _ kept => by cases kept⟩

/-- The token of a call lies behind the place before the call and ends at the place after it. -/
theorem Reads.liesBetween {t : Token} (reads : s.Reads source) (asked : s.Asks (.token t) after) :
    ∃ i, s.position.offset ≤ i ∧ t.LiesBetween source i after.position.offset := by
  rcases asked.pulls_or_stays with ⟨suppression, mode, pulls, -⟩ | ⟨finished, -⟩
  · rw [← reads.text]
    exact pulls.liesBetween reads.placed
  · cases finished

/-- **A call keeps the place.** Whatever it comes to, the session goes on reading its text.

**Proof sketch.** A call of any kind moves over a part of what is left (`exists_used`), which keeps
the text, and the cursor is well placed again (`Pulls.placed`). A token in the slot is then the one
that the call came to, which lies in the text (`liesBetween`). The call of a stream that has
stopped moves nothing. -/
theorem Reads.asks (reads : s.Reads source) (asked : s.Asks o after) : after.Reads source := by
  rcases asked.pulls_or_stays with ⟨suppression, mode, pulls, kept⟩ | ⟨-, rfl⟩
  · obtain ⟨used, left, split, moved, -⟩ := pulls.exists_used
    refine ⟨?_, pulls.placed reads.placed, ?_⟩
    · rw [Session.source, moved, Cursor.source_skip]
      exact reads.text
    · intro t found
      obtain rfl := kept t found
      obtain ⟨i, -, lies⟩ := reads.liesBetween asked
      exact ⟨i, lies⟩
  · exact reads

/-- **Runs keep the place.** Every session that calls on a text lead to reads this text.

**Proof sketch.** Induction along the calls, with `Reads.asks` for each of them. -/
theorem Reaches.reads (reached : s.Reaches after) (reads : s.Reads source) :
    after.Reads source := by
  induction reached with
  | refl => exact reads
  | tail _ asked ih =>
    obtain ⟨o, asked⟩ := asked
    exact ih.asks asked

/-- No run leads backward. -/
theorem Reaches.precedes (reached : s.Reaches after) : s.position.Precedes after.position := by
  induction reached with
  | refl => exact .refl _
  | tail _ asked ih =>
    obtain ⟨o, asked⟩ := asked
    exact ih.trans asked.precedes

/-- **Positions and spans are exact.** In every session that calls on a text lead to, the position
lies in the text and its four counts are those of the text up to it. It does not lie behind any
later one. The token that a call comes to lies exactly between two places of the text, the first
not before the place of the session and the second where the call leaves off, and so does the
token in the slot, which ends at the place of the session.

**Proof sketch.** A session that calls have led to reads the text (`Reaches.reads`), and a well
placed cursor is at the place behind what it has read (`position_eq_behind`). The order of
positions is `Reaches.precedes`, and where tokens lie is `Reads.liesBetween`. -/
theorem places_exact (source : Text) (s : Session) (reached : (ofText source).Reaches s) :
    s.position.offset ≤ source.length ∧
      s.position = .behind (source.take s.position.offset) ∧
      (∀ later, s.Reaches later → s.position.Precedes later.position) ∧
      (∀ t after, s.Asks (.token t) after →
        ∃ i, s.position.offset ≤ i ∧ t.LiesBetween source i after.position.offset) ∧
      ∀ t, s.held = some t → ∃ i, t.LiesBetween source i s.position.offset := by
  have reads : s.Reads source := reached.reads (reads_ofText source)
  refine ⟨?_, ?_, fun _ => Reaches.precedes, fun _ _ => reads.liesBetween, reads.held⟩
  · rw [← reads.text]
    exact reads.placed.offset_le
  · rw [← reads.text]
    exact reads.placed.position_eq_behind

/-- Behind a string over two lines with a character of two bytes, the place is in the second
line, four characters and five bytes from the start. -/
theorem places_exact_two_lines :
    (ofText ['"', 'é', '\n', '"', 'x']).Reaches
        ⟨⟨['"', '\n', 'é', '"'], ['x'], ⟨1, 1, 4, 5⟩⟩, none⟩ ∧
      (⟨1, 1, 4, 5⟩ : Position) = .behind ['"', 'é', '\n', '"'] := by
  have call : (ofText ['"', 'é', '\n', '"', 'x']).take .none .full =
      (.token ⟨.stringLiteral, ['"', 'é', '\n', '"'], ⟨0, 5, 0, 0⟩⟩,
        ⟨⟨['"', '\n', 'é', '"'], ['x'], ⟨1, 1, 4, 5⟩⟩, none⟩) := by decide +kernel
  have reached : (ofText ['"', 'é', '\n', '"', 'x']).Reaches
      ⟨⟨['"', '\n', 'é', '"'], ['x'], ⟨1, 1, 4, 5⟩⟩, none⟩ := .single ⟨_, .take call⟩
  exact ⟨reached, (places_exact _ _ reached).2.1⟩

end Session

end Lexing
