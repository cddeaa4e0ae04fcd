import Lexing.Proofs.Call

set_option relaxedAutoImplicit false
set_option autoImplicit false

/-!
# Coverage of the source

A run over a text comes to an end, and loses nothing of the text on the way, faults included.
Every call but the last moves forward, so there are at most as many of them as characters. What
the calls pass over, the lexemes of their tokens and what their faults use up are, one after the
other, the source text.

## Main definitions

* `Lexing.Call` — a call with the sessions before and after it.
* `Lexing.Call.stretches` — the stretches of source text that a call uses up.
* `Lexing.Call.Accounts` — a call moves forward and says truthfully what it used up.
* `Lexing.Session.Covers` — the calls of a run account for all that is left of the text.

## Main results

* `Lexing.Session.accounts_of_take` — what one call does with the text.
* `Lexing.Session.covers_drain` — what a whole run does with the text.
* `Lexing.Session.drain_loses_nothing` — a run over a text from its start.
-/

namespace Lexing

open Grammar

/-! ## Calls with their sessions -/

/-- One call: the session it is made on, what it comes to, and the session it leaves. -/
structure Call where
  before : Session
  outcome : Outcome
  after : Session

/-- The stretch between two byte offsets of a text holds suppressed characters only. -/
def Suppression.Fills (suppression : Suppression) (source : Text) (start stop : Nat) : Prop :=
  ∃ trivia, Text.slice? source start stop = some trivia ∧
    ∀ x ∈ trivia, suppression.suppresses x = true

namespace Call

/-- The calls of a run, given by what each comes to and the session that it leaves. Each call is
made on the session that the call before it left. -/
def ofRun : Session → List (Outcome × Session) → List Call
  | _, [] => []
  | s, next :: later => ⟨s, next.1, next.2⟩ :: ofRun next.2 later

/-- The stretches of source text that a call uses up, cut out by their byte offsets: for a token
what is passed over and the lexeme, otherwise everything up to the new place. -/
def stretches (call : Call) : List (Option Text) :=
  match call.outcome with
  | .token t =>
    [Text.slice? call.before.source call.before.position.byte t.span.start,
      call.after.lexeme? t.span]
  | _ => [Text.slice? call.before.source call.before.position.byte call.after.position.byte]

/-- What a call on a source text has to keep to. -/
structure Accounts (source : Text) (suppression : Suppression) (mode : Mode) (call : Call) :
    Prop where
  /-- The call is made on the session before it and leaves the session after it. -/
  made : call.before.take suppression mode = (call.outcome, call.after)
  /-- The text stays the same. -/
  sourceBefore : call.before.source = source
  sourceAfter : call.after.source = source
  /-- A token or a failure moves strictly forward. -/
  moved : call.outcome ≠ .finished → call.before.position.offset < call.after.position.offset
  /-- In front of a token only suppressed characters are passed over, its lexeme is not empty,
  and its span ends at the new place. -/
  token : ∀ t, call.outcome = .token t →
    suppression.Fills source call.before.position.byte t.span.start ∧
      (∃ raw, call.after.lexeme? t.span = some raw ∧ raw ≠ []) ∧
      t.span.stop = call.after.position.byte
  /-- At the end of the text only suppressed characters were left, and nothing is left now. -/
  finished : call.outcome = .finished →
    suppression.Fills source call.before.position.byte call.after.position.byte ∧
      call.after.isCompleted = true ∧ call.after.position.byte = Text.byteLength source

end Call

/-- Spans lie one behind the other: none is empty, and none begins before an earlier one ends. -/
def Span.Ordered (spans : List Span) : Prop :=
  (∀ span ∈ spans, span.start < span.stop) ∧
    spans.Pairwise fun earlier later => earlier.stop ≤ later.start

/-- The spans of the tokens among the calls of a run. -/
def tokenSpans (run : List (Outcome × Session)) : List Span :=
  run.filterMap fun item => item.1.token?.map Token.span

/-! ## One call -/

variable {suppression : Suppression} {mode : Mode}

namespace Cursor

variable {c d : Cursor} {o : Outcome}

/-- The token of a call, if it comes to one, lies in front of the tokens of all later calls. -/
theorem Pulls.ordered {run : List (Outcome × Session)} (after : Session)
    (h : Pulls suppression mode c o d) (ordered : Span.Ordered (tokenSpans run))
    (ahead : ∀ span ∈ tokenSpans run, d.position.byte ≤ span.start) :
    Span.Ordered (tokenSpans ((o, after) :: run)) ∧
      ∀ span ∈ tokenSpans ((o, after) :: run), c.position.byte ≤ span.start := by
  have forward := h.byte_le
  have farther : ∀ span ∈ tokenSpans run, c.position.byte ≤ span.start := by
    intro span member
    exact Nat.le_trans forward (ahead span member)
  cases o with
  | token t =>
    obtain ⟨low, nonempty, stop⟩ := h.span_bounds
    have spans : tokenSpans ((.token t, after) :: run) = t.span :: tokenSpans run := rfl
    rw [spans]
    refine ⟨⟨?_, List.pairwise_cons.2 ⟨?_, ordered.2⟩⟩, ?_⟩
    · intro span member
      rcases List.mem_cons.1 member with rfl | member
      · exact nonempty
      · exact ordered.1 span member
    · intro span member
      rw [stop]
      exact ahead span member
    · intro span member
      rcases List.mem_cons.1 member with rfl | member
      · exact low
      · exact farther span member
  | failed failure => exact ⟨ordered, farther⟩
  | finished => exact ⟨ordered, farther⟩

end Cursor

namespace Session

variable {s next : Session} {o : Outcome} {d : Cursor}

/-- The stretches of a call lie one behind the other at the front of what is left. -/
theorem stretches_of_pulls (placed : s.cursor.Placed)
    (pulls : Cursor.Pulls suppression mode s.cursor o d) :
    ∃ parts : List Text, Call.stretches ⟨s, o, ⟨d, none⟩⟩ = parts.map some ∧
      s.cursor.rest = parts.flatten ++ d.rest := by
  cases pulls with
  | finished suppressed =>
    have split : s.cursor.rest = s.cursor.rest ++ [] := (List.append_nil _).symm
    refine ⟨[s.cursor.rest], ?_, ?_⟩
    · exact congrArg (fun a => [a]) (placed.slice?_skip split)
    · rw [Cursor.rest_skip, List.drop_length]
      simp
  | @token kind trivia raw text left split suppressed kept lexeme follows =>
    refine ⟨[trivia, raw], ?_, ?_⟩
    · have passed := placed.slice?_after [] split
      have read := placed.slice?_after trivia split
      rw [← Cursor.source_skip s.cursor (trivia ++ raw).length] at read
      exact congrArg₂ (fun a b => [a, b]) passed read
    · rw [Cursor.rest_skip, split, ← List.append_assoc, List.drop_left]
      simp
  | @fault f trivia lead tail left full split suppressed kept breaks =>
    have joined : s.cursor.rest = (trivia ++ (lead ++ tail)) ++ left := by
      rw [split, List.append_assoc trivia]
    refine ⟨[trivia ++ (lead ++ tail)], ?_, ?_⟩
    · exact congrArg (fun a => [a]) (placed.slice?_skip joined)
    · rw [Cursor.rest_skip_length joined, joined]
      simp

/-- A call keeps to what is asked of it. -/
theorem accounts_of_pulls (placed : s.cursor.Placed)
    (made : s.take suppression mode = (o, ⟨d, none⟩))
    (pulls : Cursor.Pulls suppression mode s.cursor o d) :
    Call.Accounts s.source suppression mode ⟨s, o, ⟨d, none⟩⟩ := by
  refine ⟨made, rfl, source_of_take made, pulls.offset_lt, ?_, ?_⟩
  · rintro t ⟨⟩
    cases pulls with
    | @token kind trivia raw text left split suppressed kept lexeme follows =>
      have passed := placed.slice?_after [] split
      have read := placed.slice?_after trivia split
      have joined : s.cursor.rest = (trivia ++ raw) ++ left := by
        rw [split, List.append_assoc trivia]
      rw [← Cursor.source_skip s.cursor (trivia ++ raw).length] at read
      refine ⟨⟨trivia, passed, suppressed⟩, ⟨raw, read, lexeme.ne_nil⟩, ?_⟩
      exact congrArg Position.byte (Cursor.position_skip_length joined).symm
  · rintro ⟨⟩
    have there : d.Placed := pulls.placed placed
    have same : d.source = s.source := source_of_take made
    cases pulls with
    | finished suppressed =>
      have split : s.cursor.rest = s.cursor.rest ++ [] := (List.append_nil _).symm
      have nothing : (s.cursor.skip s.cursor.rest.length).rest = [] := by
        rw [Cursor.rest_skip, List.drop_length]
      refine ⟨⟨s.cursor.rest, placed.slice?_skip split, suppressed⟩, ?_, ?_⟩
      · exact List.isEmpty_iff.2 nothing
      · rw [← same, Cursor.source, nothing, List.append_nil]
        exact there.byte_eq

/-- **What one call does with the text.** -/
theorem accounts_of_take (placed : s.cursor.Placed)
    (call : s.take suppression mode = (o, next)) :
    Call.Accounts s.source suppression mode ⟨s, o, next⟩ := by
  obtain ⟨d, rfl, pulls⟩ := pulls_of_take call
  exact accounts_of_pulls placed call pulls

/-! ## Whole runs -/

/-- The calls of a run and the last call, which comes to the end of the text, account for all
that is left of the text in a session. -/
structure Covers (s : Session) (suppression : Suppression) (mode : Mode)
    (run : List (Outcome × Session)) (last : Session) : Prop where
  /-- Each call of the run comes to a token or to a fault of the text. -/
  goesOn : ∀ item ∈ run, item.1.goesOn = true
  /-- There are at most as many calls as characters left. -/
  bounded : run.length ≤ s.cursor.rest.length
  /-- Every call keeps to what is asked of it, and the last one comes to the end of the text. -/
  accounts : ∀ call ∈ Call.ofRun s (run ++ [(.finished, last)]),
    call.Accounts s.source suppression mode
  /-- What the calls use up is, in order, all that is left. -/
  covered : ∃ parts : List Text,
    (Call.ofRun s (run ++ [(.finished, last)])).flatMap Call.stretches = parts.map some ∧
      parts.flatten = s.cursor.rest
  /-- The tokens lie one behind the other. -/
  ordered : Span.Ordered (tokenSpans run)
  /-- No token lies behind the place where the run begins. -/
  ahead : ∀ span ∈ tokenSpans run, s.position.byte ≤ span.start

/-- At the end of the text the run is over, and its last call accounts for what was left. -/
theorem covers_of_finished (placed : s.cursor.Placed)
    (call : s.take suppression mode = (.finished, next)) :
    Covers s suppression mode [] next := by
  have accounts := accounts_of_take placed call
  obtain ⟨d, rfl, pulls⟩ := pulls_of_take call
  obtain ⟨parts, stretches, split⟩ := stretches_of_pulls placed pulls
  have nothing : d.rest = [] := List.isEmpty_iff.1 (accounts.finished rfl).2.1
  refine ⟨by simp, by simp, ?_, ⟨parts, ?_, ?_⟩, ?_, by simp [tokenSpans]⟩
  · intro last member
    rw [List.mem_singleton.1 member]
    exact accounts
  · exact (List.append_nil _).trans stretches
  · rw [split, nothing, List.append_nil]
  · exact ⟨by simp [tokenSpans], List.Pairwise.nil⟩

/-- **A call in front of a run.** If the later calls of a run account for what a call leaves,
then they do so together with it for what was left before.

**Proof sketch.** One conjunct after another. The first call accounts for itself
(`accounts_of_take`), and its stretches come in front of those of the later calls
(`stretches_of_pulls`). It uses up at least one character (`length_rest_lt`), which pays for the
bound on their number, and its token ends before where the later ones begin (`Pulls.ordered`). -/
theorem Covers.cons {run : List (Outcome × Session)} {last : Session}
    (placed : s.cursor.Placed) (call : s.take suppression mode = (o, next))
    (goes : o.goesOn = true) (later : Covers next suppression mode run last) :
    Covers s suppression mode ((o, next) :: run) last := by
  have accounts := accounts_of_take placed call
  have shorter := length_rest_lt call goes
  obtain ⟨d, rfl, pulls⟩ := pulls_of_take call
  obtain ⟨parts, stretches, split⟩ := stretches_of_pulls placed pulls
  obtain ⟨others, otherStretches, otherSplit⟩ := later.covered
  have spans := pulls.ordered ⟨d, none⟩ later.ordered later.ahead
  refine ⟨?_, ?_, ?_, ⟨parts ++ others, ?_, ?_⟩, spans.1, spans.2⟩
  · intro item member
    rcases List.mem_cons.1 member with rfl | member
    · exact goes
    · exact later.goesOn item member
  · have bounded := later.bounded
    rw [List.length_cons]
    omega
  · intro made member
    rcases List.mem_cons.1 member with rfl | member
    · exact accounts
    · rw [← accounts.sourceAfter]
      exact later.accounts made member
  · rw [List.map_append, ← otherStretches, ← stretches]
    rfl
  · rw [List.flatten_append, otherSplit]
    exact split.symm

/-- **What a whole run does with the text.** From a well placed session the run comes to the end
of the text and accounts for all that is left.

**Proof sketch.** Induction along the run: `covers_of_finished` where the text ends, and
`Covers.cons` in front of the later calls, from a session that is well placed again
(`placed_of_take`). -/
theorem covers_drain (placed : s.cursor.Placed) (suppression : Suppression) (mode : Mode) :
    Covers s suppression mode (s.drain suppression mode).1 (s.drain suppression mode).2 := by
  revert placed
  refine drain_induction (motive := fun s run last => s.cursor.Placed →
    Covers s suppression mode run last) ?_ ?_ s
  · intro s next call placed
    exact covers_of_finished placed call
  · intro s o next run last call goes _ ih placed
    exact .cons placed call goes (ih (placed_of_take placed call))

/-- **A run loses nothing of a text.** The calls on a text, one after another and going on after
faults, come to the end of the text after at most as many tokens and faults as it has characters.
Each of them keeps to what is asked of it. What they use up, suppressed characters, lexemes and
what faults take, is in order the text itself, and the tokens lie one behind the other.

**Proof sketch.** The start of a text is well placed, and `covers_drain` says all of it. -/
theorem drain_loses_nothing (source : Text) (suppression : Suppression) (mode : Mode) :
    let run := (ofText source).drain suppression mode
    let calls := Call.ofRun (ofText source) (run.1 ++ [(.finished, run.2)])
    (∀ item ∈ run.1, item.1.goesOn = true) ∧ run.1.length ≤ source.length ∧
      (∀ call ∈ calls, call.Accounts source suppression mode) ∧
      (∃ parts : List Text, calls.flatMap Call.stretches = parts.map some ∧
        parts.flatten = source) ∧
      Span.Ordered (tokenSpans run.1) := by
  have placed : (ofText source).cursor.Placed := Cursor.placed_ofText source
  have covers := covers_drain placed suppression mode
  exact ⟨covers.goesOn, covers.bounded, covers.accounts, covers.covered, covers.ordered⟩

end Session

end Lexing
