import Lexing.Proofs.Reachable

set_option relaxedAutoImplicit false
set_option autoImplicit false

/-!
# Verdicts

What a call comes to where a token begins is told by the text in front of it alone. A verdict on
this text is a reading: the kind, the lexeme and the text of a token, or a fault with what lies
before and behind its place. Whatever calls have led to a session, and whatever is suppressed, the
next call comes to the verdict on what is left.

## Main definitions

* `Lexing.Session.MovesOver` — a session stands behind a stretch of what another one has left.
* `Lexing.Session.ComesTo` — a call comes to what a reading says.
* `Lexing.Session.Answers` — all calls in a mode come to what a reading says.

## Main results

* `Lexing.Suppression.suppresses_of_visible` — no visible character is suppressed.
* `Lexing.Session.Reads.answers` — calls come to what is recognised in front of them.
* `Lexing.Session.Reads.verdict_exact` — a verdict that is recognised is the only one, and calls
  come to it.
-/

namespace Lexing

/-- No visible character is suppressed: blanks and line feeds come before the visible ASCII
characters. -/
theorem Suppression.suppresses_of_visible (suppression : Suppression) {c : Char}
    (visible : 0x20 < c.toNat) : suppression.suppresses c = false := by
  have blank : ¬ CharClass.isBlank c = true := by
    rw [CharClass.isBlank_iff]
    omega
  have feed : ¬ CharClass.isLineFeed c = true := by
    rw [CharClass.isLineFeed_iff]
    omega
  simp [suppresses, blank, feed]

namespace Session

/-- A session stands right behind a stretch of what another one has left. -/
def MovesOver (s after : Session) (used : Text) : Prop :=
  s.cursor.rest = used ++ after.cursor.rest ∧ after.position = s.position.after used

/-- A call comes to what a reading says of the text in front of it. For a lexeme it hands over a
token of this kind that says this text, and its span, from the place before the call to the place
after it, cuts out the lexeme. For a fault it fails with a report of this fault, at the place behind
its lead. In either case it stops right behind what the reading uses up. -/
def ComesTo (s : Session) (call : Outcome × Session) : Reading → Prop
  | .lexeme kind raw text =>
    (∃ t, call.1 = .token t ∧ t.kind = kind ∧ t.text = text ∧
        t.span = .between s.position call.2.position ∧ s.lexeme? t.span = some raw) ∧
      s.MovesOver call.2 raw
  | .fault f lead tail =>
    call.1 = .failed (.fault (.ofPosition f s.source (s.position.after lead))) ∧
      s.MovesOver call.2 (lead ++ tail)
  | .defect _ => False

/-- Whatever is suppressed, and whether the token is handed over or kept in the slot, a call in the
mode comes to what a reading says. -/
def Answers (s : Session) (mode : Mode) (reading : Reading) : Prop :=
  ∀ suppression, s.ComesTo (s.take suppression mode) reading ∧
    s.ComesTo (s.next suppression mode) reading

variable {suppression : Suppression} {mode : Mode} {source rest used left : Text} {x : Char}
  {s : Session} {reading : Reading}

/-- Moving over a stretch of what is left comes to stand right behind it. -/
theorem movesOver_skip (split : s.cursor.rest = used ++ left) (held : Option Token) :
    s.MovesOver ⟨s.cursor.skip used.length, held⟩ used := by
  refine ⟨?_, Cursor.position_skip_length split⟩
  rw [Cursor.rest_skip_length split, split]

/-- A call that settles a reading and moves over its text comes to what the reading says. -/
theorem Reads.comesTo (reads : s.Reads source) (conforms : reading.Conforms mode s.cursor.rest)
    (held : Option Token) :
    s.ComesTo (s.cursor.settle reading, ⟨s.cursor.skip reading.consumed.length, held⟩)
      reading := by
  cases reading with
  | lexeme kind raw text =>
    obtain ⟨-, left, here, -⟩ := conforms
    have place : (s.cursor.skip raw.length).position = s.position.after raw :=
      Cursor.position_skip_length here
    refine ⟨⟨_, rfl, rfl, rfl, ?_, ?_⟩, movesOver_skip here held⟩
    · exact congrArg (Span.between s.position) place.symm
    · exact reads.placed.slice?_after [] here
  | fault f lead tail =>
    obtain ⟨-, left, here, -⟩ := conforms
    exact ⟨rfl, movesOver_skip here held⟩
  | defect d => exact conforms

/-- **Calls come to what is recognised.** Where a visible character is the first that is left, all
calls come to what is recognised from there on.

**Proof sketch.** A visible character is suppressed by nothing, so every call settles what is
recognised at once (`pull_of_front`), and `comesTo` tells what this is in terms of the text. -/
theorem Reads.answers (reads : s.Reads source) (split : s.cursor.rest = x :: rest)
    (visible : 0x20 < x.toNat) (found : recognise mode x rest = reading) :
    s.Answers mode reading := by
  intro suppression
  have conforms : reading.Conforms mode s.cursor.rest := by
    rw [split, ← found]
    exact conforms_recognise mode x rest
  have call : s.cursor.pull suppression mode =
      (s.cursor.settle reading, s.cursor.skip reading.consumed.length) := by
    rw [Cursor.pull_of_front split (suppression.suppresses_of_visible visible), found]
  rw [take, next, call]
  exact ⟨reads.comesTo conforms _, reads.comesTo conforms _⟩

/-- **Verdicts are exact.** If there is a verdict, and whatever has it is recognised, then there is
exactly one reading that has it, and all calls come to this one.

**Proof sketch.** Readings that have the verdict are recognised, and only one reading is. It
answers all calls (`Reads.answers`). -/
theorem Reads.verdict_exact {verdict : Reading → Prop} (reads : s.Reads source)
    (split : s.cursor.rest = x :: rest) (visible : 0x20 < x.toNat)
    (reaches : ∃ reading, verdict reading)
    (recognised : ∀ reading, verdict reading → recognise mode x rest = reading) :
    (∃! reading, verdict reading) ∧ ∀ reading, verdict reading → s.Answers mode reading := by
  obtain ⟨reading, given⟩ := reaches
  refine ⟨⟨reading, given, ?_⟩, ?_⟩
  · intro other otherGiven
    exact (recognised other otherGiven).symm.trans (recognised reading given)
  · intro reading given
    exact reads.answers split visible (recognised reading given)

end Session

end Lexing
