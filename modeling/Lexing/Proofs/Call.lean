import Lexing.Proofs.Placement
import Lexing.Proofs.Recognition

set_option relaxedAutoImplicit false
set_option autoImplicit false

/-!
# Calls

Everything that one call can come to, and how the calls of a run follow one another. A call
passes over the suppressed characters in front of it and then finds a lexeme, a fault, or the
end of the text. It is never a defect, so a run ends only at the end of the text.

## Main definitions

* `Lexing.Cursor.Pulls` — what a call can come to, and where it leaves the cursor.

## Main results

* `Lexing.Cursor.pulls_pull` — a call comes to nothing else.
* `Lexing.Cursor.Pulls.placed`, `Lexing.Cursor.Pulls.offset_lt`,
  `Lexing.Cursor.Pulls.span_bounds` — where a call leads, and where its token lies.
* `Lexing.Cursor.pull_of_kept` — a call is what is recognised behind the suppressed characters.
* `Lexing.Cursor.pull_of_lexeme`, `Lexing.Cursor.pull_of_breaks` — a lexeme or a fault behind the
  suppressed characters is found.
* `Lexing.Session.drain_induction` — induction along all calls of a run.
-/

namespace Lexing

open Grammar

/-- Without flags only the empty text is suppressed. -/
theorem Suppression.eq_nil_of_none {trivia : Text}
    (suppressed : ∀ x ∈ trivia, none.suppresses x = true) : trivia = [] := by
  refine List.eq_nil_iff_forall_not_mem.2 ?_
  intro x hx
  simpa using suppressed x hx

/-- Without flags nothing is passed over in front of any text. -/
theorem Suppression.stops_none (left : Text) : Text.Stops none.suppresses left := by
  intro x _
  exact suppresses_none x

namespace Cursor

variable {suppression : Suppression} {mode : Mode} {c : Cursor} {trivia left rest : Text}
  {x : Char} {o : Outcome} {d : Cursor}

/-! ## One call -/

/-- What a call can come to, and where it leaves the cursor. -/
inductive Pulls (suppression : Suppression) (mode : Mode) (c : Cursor) :
    Outcome → Cursor → Prop where
  /-- Only suppressed characters are left. -/
  | finished (suppressed : ∀ x ∈ c.rest, suppression.suppresses x = true) :
      Pulls suppression mode c .finished (c.skip c.rest.length)
  /-- A lexeme comes after some suppressed characters. -/
  | token {kind : Token.Kind} {trivia raw text left : Text}
      (split : c.rest = trivia ++ (raw ++ left))
      (suppressed : ∀ x ∈ trivia, suppression.suppresses x = true)
      (kept : Text.Stops suppression.suppresses (raw ++ left))
      (lexeme : Lexeme mode kind raw text) (follows : MayPrecede mode kind raw left) :
      Pulls suppression mode c
        (.token ⟨kind, text,
          .between (c.position.after trivia) (c.position.after (trivia ++ raw))⟩)
        (c.skip (trivia ++ raw).length)
  /-- A fault comes after some suppressed characters. -/
  | fault {f : Fault} {trivia lead tail left : Text} (full : mode = .full)
      (split : c.rest = trivia ++ (lead ++ tail ++ left))
      (suppressed : ∀ x ∈ trivia, suppression.suppresses x = true)
      (kept : Text.Stops suppression.suppresses (lead ++ tail ++ left))
      (breaks : Breaks f lead tail left) :
      Pulls suppression mode c
        (.failed (.fault (.ofPosition f c.source (c.position.after (trivia ++ lead)))))
        (c.skip (trivia ++ (lead ++ tail)).length)

/-- Passing over a maximal run of suppressed characters moves by its length. -/
theorem pass_of_split (split : c.rest = trivia ++ left)
    (suppressed : ∀ x ∈ trivia, suppression.suppresses x = true)
    (kept : Text.Stops suppression.suppresses left) :
    c.pass suppression = c.skip trivia.length := by
  rw [pass_eq_skip, split, Text.takeWhile_run suppressed kept]

/-- Where only suppressed characters are left, a call comes to the end of the text. -/
theorem pull_of_suppressed (suppressed : ∀ x ∈ c.rest, suppression.suppresses x = true) :
    c.pull suppression mode = (.finished, c.skip c.rest.length) := by
  have hpass : c.pass suppression = c.skip c.rest.length :=
    pass_of_split (List.append_nil _).symm suppressed Text.stops_nil
  have nothing : (c.pass suppression).rest = [] := by
    rw [hpass, rest_skip, List.drop_length]
  rw [pull_of_rest_nil mode nothing, hpass]

/-- Where nothing is left, a call comes to the end of the text and stays where it is. -/
theorem pull_of_nothing (nothing : c.rest = []) : c.pull suppression mode = (.finished, c) := by
  have suppressed : ∀ x ∈ c.rest, suppression.suppresses x = true := by simp [nothing]
  rw [pull_of_suppressed suppressed, nothing]
  rfl

/-- A call is what is recognised behind the suppressed characters. -/
theorem pull_of_kept (split : c.rest = trivia ++ x :: rest)
    (suppressed : ∀ y ∈ trivia, suppression.suppresses y = true)
    (kept : suppression.suppresses x = false) :
    c.pull suppression mode =
      ((c.skip trivia.length).settle (recognise mode x rest),
        c.skip (trivia ++ (recognise mode x rest).consumed).length) := by
  have hpass := pass_of_split split suppressed (Text.stops_cons.2 kept)
  have hrest : (c.pass suppression).rest = x :: rest := by
    rw [hpass, rest_skip_length split]
  rw [pull_of_rest_cons mode hrest, hpass, List.length_append, skip_add]

/-- A call is what is recognised at the place if the character there is kept. -/
theorem pull_of_front (split : c.rest = x :: rest) (kept : suppression.suppresses x = false) :
    c.pull suppression mode =
      (c.settle (recognise mode x rest), c.skip (recognise mode x rest).consumed.length) := by
  have behind : c.rest = [] ++ x :: rest := split
  exact pull_of_kept behind (by simp) kept

/-- With nothing suppressed a call is what is recognised at the place. -/
theorem pull_none (mode : Mode) (split : c.rest = x :: rest) :
    c.pull .none mode =
      (c.settle (recognise mode x rest), c.skip (recognise mode x rest).consumed.length) :=
  pull_of_front split (Suppression.suppresses_none x)

/-- Suppressed characters may be passed over before the call. -/
theorem pull_skip (mode : Mode) (split : c.rest = trivia ++ left)
    (suppressed : ∀ y ∈ trivia, suppression.suppresses y = true) :
    (c.skip trivia.length).pull suppression mode = c.pull suppression mode := by
  have same : (c.skip trivia.length).pass suppression = c.pass suppression := by
    rw [pass_eq_skip, pass_eq_skip, rest_skip, split, List.drop_left,
      List.takeWhile_append_of_pos suppressed, List.length_append, skip_add]
  simp only [pull, same]

/-- A lexeme that may stand in front of what follows is what a call comes to. -/
theorem pull_of_lexeme {kind : Token.Kind} {raw text : Text}
    (split : c.rest = trivia ++ (raw ++ left))
    (suppressed : ∀ y ∈ trivia, suppression.suppresses y = true)
    (kept : Text.Stops suppression.suppresses (raw ++ left))
    (lexeme : Lexeme mode kind raw text) (follows : MayPrecede mode kind raw left) :
    c.pull suppression mode =
      (.token ⟨kind, text,
        .between (c.position.after trivia) (c.position.after (trivia ++ raw))⟩,
        c.skip (trivia ++ raw).length) := by
  obtain ⟨x, others, rfl⟩ := List.exists_cons_of_ne_nil lexeme.ne_nil
  have here : c.skip trivia.length = ⟨trivia.reverse ++ c.before, x :: (others ++ left),
      c.position.after trivia⟩ := skip_length split
  have found : recognise mode x (others ++ left) = .lexeme kind (x :: others) text :=
    recognise_of_lexeme lexeme follows rfl
  rw [List.cons_append] at split kept
  rw [pull_of_kept split suppressed (Text.stops_cons.1 kept), found, here, settle,
    ← Position.after_append]
  rfl

/-- A fault behind the suppressed characters is what a call comes to. -/
theorem pull_of_breaks {f : Fault} {lead tail : Text}
    (split : c.rest = trivia ++ (lead ++ tail ++ left))
    (suppressed : ∀ y ∈ trivia, suppression.suppresses y = true)
    (kept : Text.Stops suppression.suppresses (lead ++ tail ++ left))
    (breaks : Breaks f lead tail left) :
    c.pull suppression .full =
      (.failed (.fault (.ofPosition f c.source (c.position.after (trivia ++ lead)))),
        c.skip (trivia ++ (lead ++ tail)).length) := by
  obtain ⟨x, others, front⟩ := List.exists_cons_of_ne_nil breaks.ne_nil
  have here : c.skip trivia.length = ⟨trivia.reverse ++ c.before, lead ++ tail ++ left,
      c.position.after trivia⟩ := skip_length split
  have whole : x :: (others ++ left) = lead ++ tail ++ left := by rw [front, List.cons_append]
  have found : recognise .full x (others ++ left) = .fault f lead tail :=
    recognise_of_breaks breaks whole
  rw [← whole] at split kept
  rw [pull_of_kept split suppressed (Text.stops_cons.1 kept), found, settle, source_skip, here,
    ← Position.after_append]
  rfl

/-- **What a call can come to.** The cases exclude a defect.

**Proof sketch.** Cut what is left of the text into its suppressed run and the rest
(`Text.exists_run`). If nothing is left, the call finishes. Otherwise it settles what is recognised
at the first character, and by `conforms_recognise` this is a lexeme or a fault of the grammar. -/
theorem pulls_pull (suppression : Suppression) (mode : Mode) (c : Cursor) :
    Pulls suppression mode c (c.pull suppression mode).1 (c.pull suppression mode).2 := by
  obtain ⟨trivia, left, split, suppressed, kept⟩ :=
    Text.exists_run suppression.suppresses c.rest
  cases left with
  | nil =>
    rw [List.append_nil] at split
    rw [← split] at suppressed
    rw [pull_of_suppressed suppressed]
    exact .finished suppressed
  | cons x rest =>
    have conforms := conforms_recognise mode x rest
    have here : c.skip trivia.length = ⟨trivia.reverse ++ c.before, x :: rest,
        c.position.after trivia⟩ := skip_length split
    rw [pull_of_kept split suppressed (Text.stops_cons.1 kept)]
    cases hr : recognise mode x rest with
    | lexeme kind raw text =>
      rw [hr] at conforms
      obtain ⟨lexeme, left, found, follows⟩ := conforms
      rw [found] at split kept
      rw [here, settle, ← Position.after_append]
      exact .token split suppressed kept lexeme follows
    | fault f lead tail =>
      rw [hr] at conforms
      obtain ⟨full, left, found, breaks⟩ := conforms
      rw [found] at split kept
      rw [settle, source_skip, here, ← Position.after_append]
      exact .fault full split suppressed kept breaks
    | defect d =>
      rw [hr] at conforms
      exact conforms.elim

/-- A call moves over a leading part of what is left, and over nothing only at the end of the
text. -/
theorem Pulls.exists_used (h : Pulls suppression mode c o d) :
    ∃ used left, c.rest = used ++ left ∧ d = c.skip used.length ∧
      (o ≠ .finished → used ≠ []) := by
  cases h with
  | finished suppressed =>
    exact ⟨c.rest, [], (List.append_nil _).symm, rfl, fun h => absurd rfl h⟩
  | @token kind trivia raw text left split suppressed kept lexeme follows =>
    refine ⟨trivia ++ raw, left, by rw [split, List.append_assoc trivia], rfl, ?_⟩
    intro _ h
    exact lexeme.ne_nil (List.append_eq_nil_iff.1 h).2
  | @fault f trivia lead tail left full split suppressed kept breaks =>
    refine ⟨trivia ++ (lead ++ tail), left, by rw [split, List.append_assoc trivia], rfl, ?_⟩
    intro _ h
    exact breaks.ne_nil (List.append_eq_nil_iff.1 h).2

/-- A call keeps a cursor well placed. -/
theorem Pulls.placed (h : Pulls suppression mode c o d) (placed : c.Placed) : d.Placed := by
  obtain ⟨used, left, split, rfl, -⟩ := h.exists_used
  exact placed.skip_length split

/-- A call that is not the last moves forward. -/
theorem Pulls.offset_lt (h : Pulls suppression mode c o d) (more : o ≠ .finished) :
    c.position.offset < d.position.offset := by
  obtain ⟨used, left, split, rfl, progress⟩ := h.exists_used
  have positive := List.length_pos_iff.2 (progress more)
  rw [skip_length split, Position.offset_after]
  omega

/-- No call moves backward. -/
theorem Pulls.byte_le (h : Pulls suppression mode c o d) : c.position.byte ≤ d.position.byte := by
  obtain ⟨used, left, split, rfl, -⟩ := h.exists_used
  rw [skip_length split, Position.byte_after]
  omega

/-- A token lies between the places before and after its call, and ends at the latter. -/
theorem Pulls.span_bounds {t : Token} (h : Pulls suppression mode c (.token t) d) :
    c.position.byte ≤ t.span.start ∧ t.span.start < t.span.stop ∧
      t.span.stop = d.position.byte := by
  cases h with
  | @token kind trivia raw text left split suppressed kept lexeme follows =>
    have joined : c.rest = (trivia ++ raw) ++ left := by rw [split, List.append_assoc trivia]
    have positive := List.length_pos_iff.2 lexeme.ne_nil
    have wide := Text.length_le_byteLength raw
    rw [position_skip_length joined]
    simp only [Span.between, Position.byte_after, Text.byteLength_append]
    refine ⟨?_, ?_, trivial⟩ <;> omega

end Cursor

/-! ## Runs -/

namespace Session

variable {suppression : Suppression} {mode : Mode} {s next : Session} {o : Outcome}

/-- A call comes to what it can come to, and leaves the slot empty. -/
theorem pulls_of_take (call : s.take suppression mode = (o, next)) :
    ∃ d, next = ⟨d, none⟩ ∧ Cursor.Pulls suppression mode s.cursor o d := by
  cases call
  exact ⟨_, rfl, Cursor.pulls_pull suppression mode s.cursor⟩

/-- A call goes on or comes to the end of the text. -/
theorem goesOn_or_finished (s : Session) (suppression : Suppression) (mode : Mode) :
    (∃ o next, s.take suppression mode = (o, next) ∧ o.goesOn = true) ∨
      ∃ next, s.take suppression mode = (.finished, next) := by
  cases call : s.take suppression mode with
  | mk o next =>
    obtain ⟨d, -, pulls⟩ := pulls_of_take call
    cases pulls with
    | finished => exact .inr ⟨next, rfl⟩
    | token => exact .inl ⟨_, next, rfl, rfl⟩
    | fault => exact .inl ⟨_, next, rfl, rfl⟩

/-- A call does not change the text. -/
theorem source_of_take (call : s.take suppression mode = (o, next)) : next.source = s.source := by
  cases call
  exact Cursor.source_pull s.cursor suppression mode

/-- A call keeps a session well placed. -/
theorem placed_of_take (placed : s.cursor.Placed)
    (call : s.take suppression mode = (o, next)) : next.cursor.Placed := by
  obtain ⟨d, rfl, pulls⟩ := pulls_of_take call
  exact pulls.placed placed

/-- A call that goes on uses up some text. -/
theorem length_rest_lt (call : s.take suppression mode = (o, next)) (goes : o.goesOn = true) :
    next.cursor.rest.length < s.cursor.rest.length := by
  have shorter : (s.take suppression mode).1.goesOn = true →
      (s.take suppression mode).2.cursor.rest.length < s.cursor.rest.length :=
    length_rest_take_lt
  rw [call] at shorter
  exact shorter goes

/-- Where nothing is left, a call comes to the end of the text and stays where it is. -/
theorem take_of_rest_nil (nothing : s.cursor.rest = []) :
    s.take suppression mode = (.finished, ⟨s.cursor, none⟩) := by
  rw [take, Cursor.pull_of_nothing nothing]

/-- A call with nothing suppressed comes to the end of the text only where nothing is left. -/
theorem rest_of_take_finished (call : s.take .none mode = (.finished, next)) :
    s.cursor.rest = [] := by
  obtain ⟨d, -, pulls⟩ := pulls_of_take call
  cases pulls with
  | finished suppressed => exact Suppression.eq_nil_of_none suppressed

/-- A run ends where a call comes to the end of the text. -/
theorem drain_of_finished (call : s.take suppression mode = (.finished, next)) :
    s.drain suppression mode = ([], next) := by
  rw [drain, call]
  rfl

/-- A run goes on where a call finds a token or a fault. -/
theorem drain_of_goesOn (call : s.take suppression mode = (o, next)) (goes : o.goesOn = true) :
    s.drain suppression mode =
      ((o, next) :: (next.drain suppression mode).1, (next.drain suppression mode).2) := by
  rw [drain, call]
  exact dif_pos goes

/-- Where nothing is left the run is empty. -/
theorem drain_of_rest_nil (nothing : s.cursor.rest = []) :
    s.drain suppression mode = ([], ⟨s.cursor, none⟩) :=
  drain_of_finished (take_of_rest_nil nothing)

/-- Sessions that agree on the next call agree on the whole run. -/
theorem drain_congr {other : Session}
    (same : s.take suppression mode = other.take suppression mode) :
    s.drain suppression mode = other.drain suppression mode := by
  rcases goesOn_or_finished s suppression mode with ⟨o, next, call, goes⟩ | ⟨next, call⟩
  · rw [drain_of_goesOn call goes, drain_of_goesOn (same.symm.trans call) goes]
  · rw [drain_of_finished call, drain_of_finished (same.symm.trans call)]

/-- **Induction along a run.** What holds where a call comes to the end of the text, and is
carried back over a call that goes on, holds of the calls of every run and of the session at its
end.

**Proof sketch.** Well-founded induction on the length of the text that is left. A call that goes
on makes it shorter (`length_rest_lt`), and `drain_of_goesOn` and `drain_of_finished` unfold the
run by one call. -/
theorem drain_induction {motive : Session → List (Outcome × Session) → Session → Prop}
    (finish : ∀ s next, s.take suppression mode = (.finished, next) → motive s [] next)
    (goOn : ∀ s o next run last, s.take suppression mode = (o, next) → o.goesOn = true →
      next.drain suppression mode = (run, last) → motive next run last →
        motive s ((o, next) :: run) last)
    (s : Session) :
    motive s (s.drain suppression mode).1 (s.drain suppression mode).2 := by
  rcases goesOn_or_finished s suppression mode with ⟨o, next, call, goes⟩ | ⟨next, call⟩
  · -- the measure is the text that is left, which a call that goes on makes shorter
    have shorter : next.cursor.rest.length < s.cursor.rest.length := length_rest_lt call goes
    have later := drain_induction finish goOn next
    rw [drain_of_goesOn call goes]
    exact goOn s o next _ _ call goes rfl later
  · rw [drain_of_finished call]
    exact finish s next call
termination_by s.cursor.rest.length

end Session

end Lexing
