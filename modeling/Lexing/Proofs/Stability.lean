import Lexing.Proofs.Composition

set_option relaxedAutoImplicit false
set_option autoImplicit false

/-!
# Faults are stable under later text

A fault that is found before the text ends stays what it is when more text comes behind: the
tokens before it, the report with its excerpt, and the place where reading gives up are the same.
Only a string or a block comment that the end of the text cuts off can be mended by more text.
Number faults need the line feed at the end, for a number at the very end of a text could go on.

## Main definitions

* `Lexing.Session.FailsAfter` — the tokens up to the first fault, and the session behind it.

## Main results

* `Lexing.Excerpt.render_below` — an excerpt shows nothing behind the line of its place.
* `Lexing.Grammar.Breaks.extend` — a fault lies in front of more text, too.
* `Lexing.Session.FailsAfter.extend` — a run up to a fault is the same with more text behind.
* `Lexing.tokenize_fault_stable` — the first fault of a text with more text behind it.
-/

namespace Lexing

open Grammar

variable {suppression : Suppression} {mode : Mode}

/-! ## Excerpts -/

namespace Excerpt

variable {a b : Text} {line : Nat}

/-- A line of the text is the one shown last. -/
theorem lastShown_of_lt (inside : line < (Text.lines a).length) : lastShown a line = line := by
  rw [lastShown]
  omega

/-- Texts with the same lines up to a place have the same excerpt there. -/
theorem render_congr (inside : line < (Text.lines a).length) (other : line < (Text.lines b).length)
    (same : (Text.lines a).take (line + 1) = (Text.lines b).take (line + 1)) (column : Nat) :
    render a line column = render b line column := by
  have pointed : (Text.lines a)[line]? = (Text.lines b)[line]? := by
    rw [← List.getElem?_take_of_lt (Nat.lt_succ_self line), same,
      List.getElem?_take_of_lt (Nat.lt_succ_self line)]
  simp only [render, rows, caretRow, gutterWidth, lastShown_of_lt inside, lastShown_of_lt other,
    same, pointed]

/-- An excerpt shows nothing behind the line of its place: in a line of an upper text, what stands
below the line feed behind it does not matter. -/
theorem render_below (u v w : Text) (inside : line ≤ u.countP CharClass.isLineFeed)
    (column : Nat) : render (u ++ '\n' :: v) line column = render (u ++ '\n' :: w) line column := by
  have length := Text.length_lines u
  have upper (below : Text) :
      line < (Text.lines (u ++ '\n' :: below)).length ∧
        (Text.lines (u ++ '\n' :: below)).take (line + 1) = (Text.lines u).take (line + 1) := by
    rw [Text.lines_append_lineFeed, List.length_append]
    exact ⟨by omega, List.take_append_of_le_length (by omega)⟩
  exact render_congr (upper v).1 (upper w).1 ((upper v).2.trans (upper w).2.symm) column

end Excerpt

/-! ## Faults -/

/-- A fault in a text that ends with a line feed lies before the end, and it lies in front of more
text, too, unless it is that a string or a block comment has no end.

**Proof sketch.** By cases on the fault. Most rules of the grammar do not look behind the fault.
Missing digits are told by what follows the mark, and with a line feed at the end of the text
something does follow it. -/
theorem Grammar.Breaks.extend {f : Fault} {lead tail left : Text} (breaks : Breaks f lead tail left)
    (noString : f ≠ .unterminatedString) (noComment : f ≠ .unterminatedBlockComment)
    (closed : (lead ++ tail ++ left).getLast? = some '\n') (more : Text) :
    tail ++ left ≠ [] ∧ Breaks f lead tail (left ++ more) := by
  cases breaks with
  | @missingHexDigits digits left hexadecimal uncounted noDigit noPoint =>
    cases left with
    | nil =>
      -- the line feed would be the mark's letter or a digit
      rw [List.append_nil, List.append_nil] at closed
      rcases List.mem_cons.1 (List.mem_of_getLast? closed) with zero | letter
      · cases zero
      · rcases List.mem_cons.1 letter with letter | digit
        · cases letter
        · exact absurd (hexadecimal _ digit) (by decide)
    | cons x left =>
      have nonempty : x :: left ≠ [] := List.cons_ne_nil x left
      exact ⟨nonempty,
        .missingHexDigits hexadecimal uncounted (noDigit.append nonempty more) noPoint⟩
  | hexadecimalDot hexadecimal => exact ⟨List.cons_ne_nil _ _, .hexadecimalDot hexadecimal⟩
  | negativeHexadecimal => exact ⟨List.cons_ne_nil _ _, .negativeHexadecimal⟩
  | doubleDot signed nonempty decimal decimalFraction =>
    exact ⟨List.cons_ne_nil _ _, .doubleDot signed nonempty decimal decimalFraction⟩
  | unexpectedEscape pieces unknown =>
    exact ⟨List.cons_ne_nil _ _, .unexpectedEscape pieces unknown⟩
  | unterminatedString => exact absurd rfl noString
  | unterminatedEscape => exact absurd rfl noString
  | unterminatedBlockComment => exact absurd rfl noComment

namespace Cursor

variable {c d : Cursor} {u : Text}

/-- More text behind what is left is more text behind the whole. -/
@[simp] theorem source_extend (c : Cursor) (more : Text) :
    (c.extend more).source = c.source ++ more := by
  simp [source, extend]

/-- Before the line feed at the end of a text there are no more line feeds than in front of it. -/
theorem Placed.line_le {passed left : Text} (placed : c.Placed) (source : c.source = u ++ ['\n'])
    (split : c.rest = passed ++ left) (nonempty : left ≠ []) :
    (c.position.after passed).line ≤ u.countP CharClass.isLineFeed := by
  have length : c.source.length = c.position.offset + (passed.length + left.length) := by
    rw [Cursor.source, List.length_append, List.length_reverse, ← placed.offset_eq, split,
      List.length_append]
  have positive := List.length_pos_iff.2 nonempty
  rw [source, List.length_append, List.length_singleton] at length
  rw [placed.after_eq_behind split, source, List.take_append_of_le_length (by omega)]
  exact (List.take_sublist _ u).countP_le

/-- **Faults stay.** A fault of a text that ends with a line feed is found in the same way, with
the same excerpt, if more text comes behind.

**Proof sketch.** Text is left at the place of the fault, and the same fault is there when more
text comes behind (`Breaks.extend`), so the same case of the call finds it (`pull_of_breaks`). Its
line is one of `u` (`Placed.line_le`), and the rows of an excerpt go no further than the line that
it points at (`Excerpt.render_below`). -/
theorem pull_extend_of_fault {r : FaultReport}
    (pulls : Pulls suppression mode c (.failed (.fault r)) d) (placed : c.Placed)
    (source : c.source = u ++ ['\n']) (noString : r.fault ≠ .unterminatedString)
    (noComment : r.fault ≠ .unterminatedBlockComment) (v : Text) :
    (c.extend v).pull suppression mode = (.failed (.fault r), d.extend v) := by
  cases pulls with
  | @fault f trivia lead tail left full split suppressed kept breaks =>
    subst full
    have nonempty : lead ++ tail ++ left ≠ [] := List.append_ne_nil_of_left_ne_nil breaks.ne_nil _
    have closed : (lead ++ tail ++ left).getLast? = some '\n' := by
      have whole : (c.before.reverse ++ trivia) ++ (lead ++ tail ++ left) = u ++ ['\n'] := by
        rw [← source, Cursor.source, split, List.append_assoc]
      rw [← List.getLast?_append_of_ne_nil (c.before.reverse ++ trivia) nonempty, whole,
        List.getLast?_concat]
    obtain ⟨behind, there⟩ := breaks.extend noString noComment closed v
    have whole : (c.extend v).rest = trivia ++ (lead ++ tail ++ (left ++ v)) := by
      simp [Cursor.extend, split]
    have keptThere : Text.Stops suppression.suppresses (lead ++ tail ++ (left ++ v)) := by
      rw [← List.append_assoc]
      exact kept.append nonempty v
    have line : (c.position.after (trivia ++ lead)).line ≤ u.countP CharClass.isLineFeed :=
      placed.line_le source (by simp [split]) behind
    have shown := Excerpt.render_below u v [] line (c.position.after (trivia ++ lead)).column
    have joined : c.rest = (trivia ++ (lead ++ tail)) ++ left := by simp [split]
    have place : (c.extend v).position = c.position := rfl
    rw [pull_of_breaks whole suppressed keptThere there, skip_extend joined]
    simp only [FaultReport.ofPosition, FaultReport.ofPlace, source_extend, source, place,
      List.append_assoc, List.singleton_append, shown]

end Cursor

/-! ## Runs up to a fault -/

namespace Session

/-- The calls on a session come to tokens and then to a fault, which leaves the last session. -/
inductive FailsAfter (suppression : Suppression) (mode : Mode) :
    Session → List Token → FaultReport → Session → Prop where
  | here {s last : Session} {r : FaultReport}
      (call : s.take suppression mode = (.failed (.fault r), last)) :
      FailsAfter suppression mode s [] r last
  | later {s next last : Session} {t : Token} {tokens : List Token} {r : FaultReport}
      (call : s.take suppression mode = (.token t, next))
      (rest : FailsAfter suppression mode next tokens r last) :
      FailsAfter suppression mode s (t :: tokens) r last

variable {s last : Session} {tokens : List Token} {r : FaultReport} {u : Text}

/-- A run up to a fault begins before the end of the text. -/
theorem FailsAfter.rest_ne_nil (fails : FailsAfter suppression mode s tokens r last) :
    s.cursor.rest ≠ [] := by
  intro nothing
  cases fails with
  | here call =>
    rw [take_of_rest_nil nothing] at call
    cases call
  | later call rest =>
    rw [take_of_rest_nil nothing] at call
    cases call

/-- What a run gathers is a fault if it comes to this fault after tokens. -/
theorem FailsAfter.gather_eq (fails : FailsAfter suppression mode s tokens r last) :
    Outcome.gather (s.outcomes suppression mode) = .error (.fault r) := by
  induction fails with
  | here call =>
    rw [outcomes_of_goesOn call rfl]
    rfl
  | later call _ ih =>
    rw [outcomes_of_goesOn call rfl, Outcome.gather, ih]
    rfl

/-- Where a run gathers a fault, it comes to this fault after tokens. -/
theorem exists_failsAfter
    (failed : Outcome.gather (s.outcomes suppression mode) = .error (.fault r)) :
    ∃ tokens last, FailsAfter suppression mode s tokens r last := by
  refine drain_induction (motive := fun s run _ =>
    Outcome.gather (run.map Prod.fst) = .error (.fault r) →
      ∃ tokens last, FailsAfter suppression mode s tokens r last) ?_ ?_ s failed
  · intro s next call failed
    cases failed
  · intro s o next run last call goes _ ih failed
    cases o with
    | token t =>
      obtain ⟨tokens, last, rest⟩ := ih (Outcome.gather_token_error failed)
      exact ⟨t :: tokens, last, .later call rest⟩
    | failed failure =>
      cases failed
      exact ⟨[], next, .here call⟩
    | finished => cases goes

/-- **Runs up to a fault stay.** If more text comes behind a text that ends with a line feed, a
run up to a fault comes to the same tokens and the same report, and stands at the same place.

**Proof sketch.** Induction along the run up to the fault: `pull_extend_of_fault` for the failing
call, and `take_extend_of_token` for each token before it. -/
theorem FailsAfter.extend (fails : FailsAfter suppression mode s tokens r last)
    (placed : s.cursor.Placed) (source : s.source = u ++ ['\n'])
    (noString : r.fault ≠ .unterminatedString) (noComment : r.fault ≠ .unterminatedBlockComment)
    (v : Text) :
    FailsAfter suppression mode (s.extend v) tokens r (last.extend v) := by
  induction fails with
  | here call =>
    obtain ⟨d, rfl, pulls⟩ := pulls_of_take call
    have found := Cursor.pull_extend_of_fault pulls placed source noString noComment v
    exact .here (by simp only [take, Session.extend, found])
  | @later s next last t tokens r call rest ih =>
    -- text is left behind the token, for the fault lies there
    have taken : (s.extend v).take suppression mode = (.token t, next.extend v) :=
      take_extend_of_token call (.inl rest.rest_ne_nil)
    exact .later taken (ih (placed_of_take placed call) ((source_of_take call).trans source)
      noString noComment)

end Session

/-- **Faults are stable under later text.** If a text that ends with a line feed fails first with
a fault other than a string or a block comment without an end, then it fails with the same report
when any text comes behind: the same fault at the same line and column, with the same excerpt, and
so shown in the same way. The tokens before the fault are the same, and so is the place where the
failing call gives up.

**Proof sketch.** A text that fails has a run up to its first fault (`exists_failsAfter`), which
carries over to the longer text (`FailsAfter.extend`), and its fault is the one that is gathered
there (`gather_eq`). -/
theorem tokenize_fault_stable (u v : Text) (suppression : Suppression) (mode : Mode)
    (r : FaultReport) (failed : tokenize (u ++ ['\n']) suppression mode = .error (.fault r))
    (noString : r.fault ≠ .unterminatedString) (noComment : r.fault ≠ .unterminatedBlockComment) :
    tokenize (u ++ '\n' :: v) suppression mode = .error (.fault r) ∧
      ∃ tokens last lastThere,
        Session.FailsAfter suppression mode (.ofText (u ++ ['\n'])) tokens r last ∧
        Session.FailsAfter suppression mode (.ofText (u ++ '\n' :: v)) tokens r lastThere ∧
        lastThere.position = last.position := by
  rw [tokenize_eq_gather] at failed ⊢
  obtain ⟨tokens, last, fails⟩ := Session.exists_failsAfter failed
  have there := fails.extend (Cursor.placed_ofText _) rfl noString noComment v
  have whole : (Session.ofText (u ++ ['\n'])).extend v = .ofText (u ++ '\n' :: v) := by
    simp [Session.extend, Session.ofText, Cursor.extend, Cursor.ofText]
  rw [whole] at there
  exact ⟨there.gather_eq, tokens, last, last.extend v, fails, there, rfl⟩

/-- A backslash in front of the last line feed stays at fault, though the string that it stands in
is closed later on. -/
theorem tokenize_fault_stable_escape :
    tokenize ['a', '\n', '"', '\\', '\n'] .none .full =
        .error (.fault (.ofPlace (.unexpectedEscape '\n') ['a', '\n', '"', '\\', '\n'] 1 1)) ∧
      tokenize ['a', '\n', '"', '\\', '\n', 'n', '"'] .none .full =
        .error (.fault (.ofPlace (.unexpectedEscape '\n') ['a', '\n', '"', '\\', '\n'] 1 1)) := by
  have failed : tokenize ['a', '\n', '"', '\\', '\n'] .none .full =
      .error (.fault (.ofPlace (.unexpectedEscape '\n') ['a', '\n', '"', '\\', '\n'] 1 1)) := by
    decide +kernel
  have there := tokenize_fault_stable ['a', '\n', '"', '\\'] ['n', '"'] .none .full _ failed
    (by decide) (by decide)
  exact ⟨failed, there.1⟩

end Lexing
