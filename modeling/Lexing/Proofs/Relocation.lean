import Lexing.Proofs.Gathering

set_option relaxedAutoImplicit false
set_option autoImplicit false

/-!
# Relocation

Reading looks at what is left of a text and at nothing before it. Two cursors with the same rest
come to the same tokens and faults, up to the places that these name. If the one counts from
where a text begins and the other from where a longer text around it begins, then all places
differ by the same way.

## Main definitions

* `Lexing.Position.within` — a position of a text, counted from where a longer text begins.
* `Lexing.Token.within`, `Lexing.Failure.within`, `Lexing.Outcome.within` — tokens, failures and
  outcomes with their places counted so.
* `Lexing.Cursor.Within` — two cursors with the same rest that count from different places.

## Main results

* `Lexing.Cursor.Within.pull` — a call within a longer text comes to the same.
* `Lexing.Session.outcomes_of_within` — a run within a longer text comes to the same.
* `Lexing.Outcome.gather_within` — gathering does not see the difference.
-/

namespace Lexing

/-! ## Places within a longer text -/

namespace Position

/-- A column of a line, counted within a longer text: on the first line of the inner text the
columns in front of it are added. -/
def columnWithin (base : Position) (line column : Nat) : Nat :=
  if line = 0 then base.column + column else column

/-- A position of a text that begins at the place `base` of a longer text, counted from where
the longer text begins. -/
def within (base p : Position) : Position :=
  ⟨base.line + p.line, base.columnWithin p.line p.column, base.offset + p.offset,
    base.byte + p.byte⟩

end Position

/-- A span, counted within a longer text. -/
def Span.within (base : Position) (s : Span) : Span :=
  ⟨base.byte + s.start, base.byte + s.stop, base.line + s.line,
    base.columnWithin s.line s.column⟩

/-- A token within a longer text. Kind and text stay. -/
def Token.within (base : Position) (t : Token) : Token :=
  { t with span := t.span.within base }

/-- A report within a longer text. The fault stays, and the excerpt shows the longer text. -/
def FaultReport.within (source : Text) (base : Position) (r : FaultReport) : FaultReport :=
  .ofPlace r.fault source (base.line + r.line) (base.columnWithin r.line r.column)

/-- A failure within a longer text. -/
def Failure.within (source : Text) (base : Position) : Failure → Failure
  | .fault r => .fault (r.within source base)
  | .defect d => .defect d

/-- An outcome within a longer text. -/
def Outcome.within (source : Text) (base : Position) : Outcome → Outcome
  | .token t => .token (t.within base)
  | .failed failure => .failed (failure.within source base)
  | .finished => .finished

namespace Position

variable {base : Position}

/-- The inner text begins at its base. -/
theorem within_start (base : Position) : base.within start = base := rfl

/-- A step within a longer text is the same step. -/
theorem within_advance (base p : Position) (x : Char) :
    base.within (p.advance x) = (base.within p).advance x := by
  by_cases feed : CharClass.isLineFeed x = true
  · simp only [advance, if_pos feed, within, columnWithin, mk.injEq]
    refine ⟨?_, if_neg (Nat.succ_ne_zero _), ?_, ?_⟩
    all_goals omega
  · simp only [advance, if_neg feed, within, columnWithin, mk.injEq]
    refine ⟨trivial, ?_, ?_, ?_⟩
    · split
      · omega
      · rfl
    all_goals omega

/-- The way past a stretch within a longer text is the same way. -/
theorem within_after (base p : Position) (passed : Text) :
    base.within (p.after passed) = (base.within p).after passed := by
  induction passed generalizing p with
  | nil => rfl
  | cons x passed ih => rw [after_cons, after_cons, ih, within_advance]

end Position

variable {suppression : Suppression} {mode : Mode} {base : Position}

/-- An outcome after which reading goes on is still one within a longer text. -/
theorem Outcome.goesOn_within (source : Text) (o : Outcome) :
    (o.within source base).goesOn = o.goesOn := by
  cases o with
  | token t => rfl
  | failed failure => cases failure <;> rfl
  | finished => rfl

/-! ## One call -/

namespace Cursor

variable {c d : Cursor}

/-- Two cursors with the same rest, of which the second counts from where a longer text begins.
What lies before them does not matter. -/
structure Within (base : Position) (c d : Cursor) : Prop where
  rest : d.rest = c.rest
  position : d.position = base.within c.position

/-- A step keeps two cursors the one within the other. -/
theorem Within.step (h : Within base c d) : Within base c.step d.step := by
  cases rest : c.rest with
  | nil =>
    have restBelow := h.rest.trans rest
    simp only [Cursor.step, rest, restBelow]
    exact h
  | cons x others =>
    have restBelow := h.rest.trans rest
    simp only [Cursor.step, rest, restBelow]
    exact ⟨rfl, by rw [h.position, Position.within_advance]⟩

/-- Moving over the same number of characters keeps two cursors the one within the other. -/
theorem Within.skip (h : Within base c d) (n : Nat) : Within base (c.skip n) (d.skip n) := by
  induction n generalizing c d with
  | zero => exact h
  | succ n ih => exact ih h.step

/-- Both cursors pass over the same suppressed characters. -/
theorem Within.pass (h : Within base c d) (suppression : Suppression) :
    Within base (c.pass suppression) (d.pass suppression) := by
  rw [pass_eq_skip, pass_eq_skip, h.rest]
  exact h.skip _

/-- A reading comes to the same within a longer text. -/
theorem Within.settle (h : Within base c d) (reading : Reading) :
    d.settle reading = (c.settle reading).within d.source base := by
  cases reading with
  | lexeme kind raw text =>
    simp only [Cursor.settle, h.position, ← Position.within_after]
    rfl
  | fault f lead tail =>
    simp only [Cursor.settle, h.position, ← Position.within_after]
    rfl
  | defect found => rfl

/-- **A call within a longer text** comes to the same, and leaves the one cursor within the
other.

**Proof sketch.** Both cursors have the same text left, so they pass over the same suppressed run
(`Within.pass`) and recognise the same. What they settle differs by the places alone
(`Within.settle`). -/
theorem Within.pull (h : Within base c d) (suppression : Suppression) (mode : Mode) :
    (d.pull suppression mode).1 = (c.pull suppression mode).1.within d.source base ∧
      Within base (c.pull suppression mode).2 (d.pull suppression mode).2 := by
  have passed := h.pass suppression
  cases rest : (c.pass suppression).rest with
  | nil =>
    rw [pull_of_rest_nil mode rest, pull_of_rest_nil mode (passed.rest.trans rest)]
    exact ⟨rfl, passed⟩
  | cons x others =>
    rw [pull_of_rest_cons mode rest, pull_of_rest_cons mode (passed.rest.trans rest),
      passed.settle, source_pass]
    exact ⟨rfl, passed.skip _⟩

end Cursor

/-! ## Runs -/

namespace Session

variable {s t next : Session} {o : Outcome}

/-- A call of a session within a longer text comes to the same. -/
theorem take_of_within (h : Cursor.Within base s.cursor t.cursor)
    (call : s.take suppression mode = (o, next)) :
    ∃ there, t.take suppression mode = (o.within t.source base, there) ∧
      Cursor.Within base next.cursor there.cursor ∧ there.source = t.source := by
  obtain ⟨same, after⟩ := h.pull suppression mode
  cases call
  exact ⟨_, Prod.ext same rfl, after, source_of_take rfl⟩

/-- **A run within a longer text** comes to the same.

**Proof sketch.** Induction along the run of the shorter text. By `take_of_within` each call comes
to the same, moved, and leaves the sessions one within the other. -/
theorem outcomes_of_within (h : Cursor.Within base s.cursor t.cursor)
    (suppression : Suppression) (mode : Mode) :
    t.outcomes suppression mode =
      (s.outcomes suppression mode).map (Outcome.within t.source base) := by
  revert t
  refine drain_induction (motive := fun s run _ => ∀ {t : Session},
    Cursor.Within base s.cursor t.cursor →
      t.outcomes suppression mode =
        (run.map Prod.fst).map (Outcome.within t.source base)) ?_ ?_ s
  · intro s next call t h
    obtain ⟨there, taken, -, -⟩ := take_of_within h call
    exact outcomes_of_finished taken
  · intro s o next run last call goes _ ih t h
    obtain ⟨there, taken, after, same⟩ := take_of_within h call
    have goesThere : (o.within t.source base).goesOn = true := by
      rw [Outcome.goesOn_within]
      exact goes
    have later := ih after
    rw [same] at later
    rw [outcomes_of_goesOn taken goesThere, later]
    rfl

end Session

/-- Gathering does not see whether places are counted within a longer text before or after. -/
theorem Outcome.gather_within (source : Text) (base : Position) (outcomes : List Outcome) :
    gather (outcomes.map (within source base)) =
      ((gather outcomes).map (List.map (Token.within base))).mapError
        (Failure.within source base) := by
  induction outcomes with
  | nil => rfl
  | cons o later ih =>
    cases o with
    | token t =>
      rw [List.map_cons, within, gather, ih, gather]
      cases gather later <;> rfl
    | failed failure => rfl
    | finished => exact ih

end Lexing
