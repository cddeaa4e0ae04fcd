import Lexing.Proofs.Reachable
import Lexing.Proofs.Text.Slice

set_option relaxedAutoImplicit false
set_option autoImplicit false

/-!
# Tokens found in a run

Every token that a session comes to, by whatever calls, stands in the text: its span cuts out a
stretch, and the grammar has this stretch as a lexeme of its kind that says what the token says.
This holds for as long as the session lasts, for calls do not change the text. Where the stretch
lies, and what it is in front of, can be read off the span as well.

## Main definitions

* `Lexing.Token.Fills` — a token fills a stretch of a text.
* `Lexing.Token.StandsIn` — a token stands in a text.
* `Lexing.Session.Finds` — calls come to a token on their way.

## Main results

* `Lexing.Token.Fills.unique` — a token fills one stretch only.
* `Lexing.Cursor.Pulls.exists_fills`, `Lexing.Cursor.Pulls.exists_standsIn` — the token of a call
  fills a stretch behind suppressed characters, and stands in the text.
* `Lexing.Session.Finds.exists_standsIn` — what is found stands in the text.
-/

namespace Lexing

open Grammar

variable {suppression : Suppression} {mode otherMode : Mode} {source before raw left : Text}
  {otherBefore otherRaw otherLeft : Text} {x : Char} {t : Token}

/-! ## Stretches of tokens -/

namespace Token

/-- A token fills a stretch of a text: the text is what stands before the stretch, the stretch
`raw`, and what is left behind it. The span of the token is that of the stretch, and the grammar has
the stretch, in front of what is left, as a lexeme that says what the token says. -/
structure Fills (mode : Mode) (source before raw left : Text) (t : Token) : Prop where
  split : source = before ++ (raw ++ left)
  span : t.span = .between (.behind before) (.behind (before ++ raw))
  lexeme : Lexeme mode t.kind raw t.text
  follows : MayPrecede mode t.kind raw left

/-- A token stands in a text: its span cuts out the stretch `raw`, and this is a lexeme of its kind
that says what the token says. -/
structure StandsIn (mode : Mode) (source raw : Text) (t : Token) : Prop where
  lexeme : Lexeme mode t.kind raw t.text
  slice : Text.slice? source t.span.start t.span.stop = some raw

/-- The span of a token begins at the first byte of its stretch. -/
theorem Fills.start_eq (fills : t.Fills mode source before raw left) :
    t.span.start = Text.byteLength before := by
  rw [fills.span]
  rfl

/-- The span of a token stops behind the last byte of its stretch. -/
theorem Fills.stop_eq (fills : t.Fills mode source before raw left) :
    t.span.stop = Text.byteLength (before ++ raw) := by
  rw [fills.span]
  rfl

/-- **A token fills one stretch.** Its span tells where the stretch begins and where it ends, in
whatever mode it is read.

**Proof sketch.** Both cuts are cuts of one text, and the span tells how many bytes stand before
each stretch and up to its end. Leading parts with as many bytes are equal (`eq_of_byteLength_eq`),
first before the stretches and then for the stretches themselves. -/
theorem Fills.unique (one : t.Fills mode source before raw left)
    (other : t.Fills otherMode source otherBefore otherRaw otherLeft) :
    before = otherBefore ∧ raw = otherRaw ∧ left = otherLeft := by
  have same : before ++ (raw ++ left) = otherBefore ++ (otherRaw ++ otherLeft) := by
    rw [← one.split, other.split]
  have starts : Text.byteLength before = Text.byteLength otherBefore := by
    rw [← one.start_eq, other.start_eq]
  obtain ⟨rfl, behind⟩ := Text.eq_of_byteLength_eq same starts
  have stops : Text.byteLength raw = Text.byteLength otherRaw := by
    have ends := one.stop_eq.symm.trans other.stop_eq
    rw [Text.byteLength_append, Text.byteLength_append] at ends
    omega
  obtain ⟨rfl, rfl⟩ := Text.eq_of_byteLength_eq behind stops
  exact ⟨rfl, rfl, rfl⟩

/-- The stretch of a token is what its span cuts out of the text. -/
theorem Fills.lexeme? (fills : t.Fills mode source before raw left) :
    (Session.ofText source).lexeme? t.span = some raw := by
  have cut := Text.slice?_byteLength before raw left
  rw [List.append_assoc, ← fills.split, ← fills.start_eq, ← fills.stop_eq] at cut
  exact cut

/-- A stretch of one character begins and ends with it. -/
theorem Fills.single {front back : Text} {c : Char}
    (fills : t.Fills mode source before (front ++ x :: back) left)
    (single : front ++ x :: back = [c]) :
    t.Fills mode source (before ++ front) [x] (back ++ left) := by
  rcases List.append_eq_singleton_iff.1 single with ⟨rfl, only⟩ | ⟨-, none⟩
  · obtain ⟨rfl, rfl⟩ := List.cons.inj only
    simpa using fills
  · cases none

/-- A token that fills a stretch stands in the text with it. -/
theorem Fills.standsIn (fills : t.Fills mode source before raw left) : t.StandsIn mode source raw :=
  ⟨fills.lexeme, fills.lexeme?⟩

end Token

/-! ## Calls -/

namespace Cursor

variable {c d : Cursor}

/-- The token of a call fills a stretch behind suppressed characters, up to where the call stops. -/
theorem Pulls.exists_fills (h : Pulls suppression mode c (.token t) d) (placed : c.Placed) :
    ∃ trivia raw, c.rest = trivia ++ (raw ++ d.rest) ∧
      (∀ y ∈ trivia, suppression.suppresses y = true) ∧
      Text.Stops suppression.suppresses (raw ++ d.rest) ∧
      t.Fills mode c.source (c.before.reverse ++ trivia) raw d.rest ∧
      d = c.skip (trivia ++ raw).length := by
  cases h with
  | @token kind trivia raw text left split suppressed kept lexeme follows =>
    have joined : c.rest = (trivia ++ raw) ++ left := by rw [split, List.append_assoc trivia]
    rw [rest_skip_length joined]
    refine ⟨trivia, raw, split, suppressed, kept, ⟨?_, ?_, lexeme, follows⟩, rfl⟩
    · rw [Cursor.source, split, List.append_assoc]
    · rw [placed.after_eq, placed.after_eq, List.append_assoc]

/-- The token of a call stands in the text. It comes behind suppressed characters, is not suppressed
itself, and the call stops behind it. -/
theorem Pulls.exists_standsIn (h : Pulls suppression mode c (.token t) d) (placed : c.Placed) :
    ∃ trivia raw, t.StandsIn mode c.source raw ∧ c.rest = trivia ++ (raw ++ d.rest) ∧
      (∀ x ∈ trivia, suppression.suppresses x = true) ∧
      Text.Stops suppression.suppresses (raw ++ d.rest) := by
  obtain ⟨trivia, raw, split, suppressed, kept, fills, -⟩ := h.exists_fills placed
  exact ⟨trivia, raw, fills.standsIn, split, suppressed, kept⟩

end Cursor

namespace Session

variable {s after later : Session}

/-! ## Tokens on the way -/

/-- A call that comes to a token is one on the cursor, in the same mode. -/
theorem AsksIn.pulls (asked : s.AsksIn mode (.token t) after) :
    ∃ suppression, Cursor.Pulls suppression mode s.cursor (.token t) after.cursor := by
  rcases asked.pulls_or_stays with ⟨suppression, pulls, -⟩ | ⟨finished, -⟩
  · exact ⟨suppression, pulls⟩
  · cases finished

/-- Calls lead from the first session to the second, and a call on the way, in the given mode,
comes to the token. -/
def Finds (mode : Mode) (s : Session) (t : Token) (later : Session) : Prop :=
  ∃ here next, s.Reaches here ∧ here.AsksIn mode (.token t) next ∧ next.Reaches later

/-- Calls that find a token lead on. -/
theorem Finds.reaches (found : s.Finds mode t later) : s.Reaches later := by
  obtain ⟨here, next, before, asked, behind⟩ := found
  have step : here.Reaches next := .single ⟨.token t, asks_iff_exists_asksIn.2 ⟨mode, asked⟩⟩
  exact (before.trans step).trans behind

/-- **What is found stands in the text**, and the span cuts it out of the text from then on.

**Proof sketch.** Along the way to the call and behind it the sessions read the same text
(`Reaches.reads`). The call is one of the grammar, whose lexeme stands where the span of the token
says. -/
theorem Finds.exists_standsIn (found : (ofText source).Finds mode t later) :
    ∃ raw, t.StandsIn mode source raw ∧ later.lexeme? t.span = some raw := by
  have reads : later.Reads source := found.reaches.reads (reads_ofText source)
  obtain ⟨here, next, before, asked, -⟩ := found
  have readsHere : here.Reads source := before.reads (reads_ofText source)
  obtain ⟨suppression, pulls⟩ := asked.pulls
  obtain ⟨-, raw, stands, -⟩ := pulls.exists_standsIn readsHere.placed
  have text : here.cursor.source = source := readsHere.text
  rw [text] at stands
  refine ⟨raw, stands, ?_⟩
  rw [lexeme?, reads.text]
  exact stands.slice

end Session

end Lexing
