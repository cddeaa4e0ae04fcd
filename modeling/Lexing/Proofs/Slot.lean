import Lexing.Proofs.Interchange
import Lexing.Proofs.Reachable
import Lexing.Proofs.Text.Slice

set_option relaxedAutoImplicit false
set_option autoImplicit false

/-!
# The slot and the end of the text

A session may be read by calls of every kind, in any order, each with a suppression and a mode of
its own, and it may be looked at in between. The slot then holds a token exactly if the last call
that read on has kept one: no call leaves a token there that an earlier one has kept. Reading comes
to the end of the text where only suppressed characters are left, and never leaves it again.

## Main definitions

* `Lexing.Move` — what can be done with a session.
* `Lexing.Scan` — a call that reads on, with what it comes to.
* `Lexing.Client.perform` — one move, with the call that it makes, if it makes one.
* `Lexing.Client.after`, `Lexing.Client.scans` — moves one after another, and their calls.
* `Lexing.Client.SlotExact` — what the slot and the end of the text tell behind some calls.

## Main results

* `Lexing.Client.perform_cases` — what a move can do.
* `Lexing.Client.held_after` — the slot holds what the last call has kept.
* `Lexing.Client.completed_after` — at the end of the text no moves lead on.
* `Lexing.Client.slotExact_after` — the slot and the end of the text are exact after all moves.
-/

namespace Lexing

/-! ## Moves -/

/-- What can be done with a session. -/
inductive Move where
  /-- The next token is read and kept in the slot. -/
  | keep (suppression : Suppression) (mode : Mode)
  /-- The next token is read and handed over. -/
  | handOver (suppression : Suppression) (mode : Mode)
  /-- A stream is opened. A call of another kind, or another stream, puts an end to it. -/
  | openStream (suppression : Suppression) (mode : Mode)
  /-- The stream that is open is pulled. -/
  | pull
  /-- The slot is looked at, or the place, the text, a lexeme, or whether the text is at its end. -/
  | look
deriving DecidableEq, Repr

/-- A call that reads on: whether it keeps its token, how it reads, and what it comes to. -/
structure Scan where
  keeps : Bool
  suppression : Suppression
  mode : Mode
  outcome : Outcome
deriving DecidableEq, Repr

/-- The token that a call keeps. -/
def Scan.kept? (scan : Scan) : Option Token :=
  if scan.keeps then scan.outcome.token? else none

/-- A call keeps a token if it comes to the token and is one of those that keep theirs. -/
theorem Scan.kept?_eq_some_iff {scan : Scan} {t : Token} :
    scan.kept? = some t ↔ scan.keeps = true ∧ scan.outcome = .token t := by
  have found : scan.outcome.token? = some t ↔ scan.outcome = .token t :=
    ⟨Outcome.eq_token_of_token?, fun same => by rw [same]; rfl⟩
  rw [kept?, ← found]
  cases scan.keeps <;> simp

namespace Client

/-- Makes a move. A stream that has failed does not read on when it is pulled. -/
def perform (c : Client) : Move → Option Scan × Client
  | .keep suppression mode =>
    let call := c.session.next suppression mode
    (some ⟨true, suppression, mode, call.1⟩, .holding call.2)
  | .handOver suppression mode =>
    let call := c.session.take suppression mode
    (some ⟨false, suppression, mode, call.1⟩, .holding call.2)
  | .openStream suppression mode => (none, .streaming (.ofSession c.session suppression mode))
  | .pull =>
    match c with
    | .holding s => (none, .holding s)
    | .streaming stream =>
      let call := stream.next
      (if stream.stopped then none else some ⟨false, stream.suppression, stream.mode, call.1⟩,
        .streaming call.2)
  | .look => (none, c)

/-- The client after some moves. -/
def after (c : Client) : List Move → Client
  | [] => c
  | move :: later => (c.perform move).2.after later

/-- The calls that read on in some moves. -/
def scans (c : Client) : List Move → List Scan
  | [] => []
  | move :: later => (c.perform move).1.toList ++ (c.perform move).2.scans later

variable {c d : Client} {scan : Scan} {move : Move} {source : Text} {t : Token}

/-- **What a move can do.** It leaves the session as it is, or it makes a call on it, and then the
slot holds what this call keeps.

**Proof sketch.** By cases on the move. Opening a stream and looking make no call, and neither does
pulling without a stream or from a stream that has stopped. All others make a call, and only `keep`
leaves its token in the slot. -/
theorem perform_cases (c : Client) (move : Move) :
    (∃ d, c.perform move = (none, d) ∧ d.session = c.session) ∨
      ∃ scan d, c.perform move = (some scan, d) ∧ c.session.Asks scan.outcome d.session ∧
        Cursor.Pulls scan.suppression scan.mode c.session.cursor scan.outcome d.session.cursor ∧
        d.session.held = scan.kept? := by
  cases move with
  | keep suppression mode =>
    exact .inr ⟨_, _, rfl, .next rfl, Cursor.pulls_pull suppression mode c.session.cursor, rfl⟩
  | handOver suppression mode =>
    exact .inr ⟨_, _, rfl, .take rfl, Cursor.pulls_pull suppression mode c.session.cursor, rfl⟩
  | openStream suppression mode => exact .inl ⟨_, rfl, rfl⟩
  | look => exact .inl ⟨_, rfl, rfl⟩
  | pull =>
    cases c with
    | holding s => exact .inl ⟨_, rfl, rfl⟩
    | streaming stream =>
      cases running : stream.stopped with
      | true =>
        have pulled := TokenStream.next_of_stopped running
        exact .inl ⟨.streaming stream, by simp [perform, running, pulled], rfl⟩
      | false =>
        have pulled := TokenStream.next_of_running running
        have asked : stream.session.Asks stream.next.1 stream.next.2.session := .pull rfl rfl rfl
        refine .inr ⟨⟨false, stream.suppression, stream.mode, stream.next.1⟩,
          .streaming stream.next.2, by simp [perform, running], asked, ?_, ?_⟩
        · rw [pulled]
          exact Cursor.pulls_pull stream.suppression stream.mode stream.session.cursor
        · change stream.next.2.session.held = none
          rw [pulled]
          rfl

/-- What a call does that a move makes. -/
theorem pulls_of_perform (made : c.perform move = (some scan, d)) :
    Cursor.Pulls scan.suppression scan.mode c.session.cursor scan.outcome d.session.cursor ∧
      d.session.held = scan.kept? := by
  rcases c.perform_cases move with ⟨_, idle, -⟩ | ⟨_, _, called, -, pulls, held⟩
  · rw [made] at idle
    cases idle
  · rw [made] at called
    cases called
    exact ⟨pulls, held⟩

/-- A move that makes no call leaves the session as it is. -/
theorem session_of_perform (idle : c.perform move = (none, d)) : d.session = c.session := by
  rcases c.perform_cases move with ⟨_, still, same⟩ | ⟨_, _, made, -⟩
  · rw [idle] at still
    cases still
    exact same
  · rw [idle] at made
    cases made

/-! ## The slot -/

/-- **The slot is what the last call has kept.** Where no call was made, it is as before. -/
theorem held_after (c : Client) (moves : List Move) :
    (c.after moves).session.held =
      (c.scans moves).getLast?.elim c.session.held Scan.kept? := by
  induction moves generalizing c with
  | nil => rfl
  | cons move later ih =>
    -- the last of the later calls decides, and where there is none, the first move does
    rw [after, scans, ih, List.getLast?_append]
    rcases c.perform_cases move with ⟨d, idle, same⟩ | ⟨scan, d, made, -, -, held⟩
    · rw [idle, ← same]
      cases (d.scans later).getLast? <;> rfl
    · rw [made, held]
      cases (d.scans later).getLast? <;> rfl

/-- Moves keep the place. -/
theorem reads_after (reads : c.session.Reads source) (moves : List Move) :
    (c.after moves).session.Reads source := by
  induction moves generalizing c with
  | nil => exact reads
  | cons move later ih =>
    rw [after]
    rcases c.perform_cases move with ⟨d, idle, same⟩ | ⟨scan, d, made, asked, -⟩
    · rw [idle]
      exact ih (same ▸ reads)
    · rw [made]
      exact ih (reads.asks asked)

end Client

/-- The token in the slot ends at the place of the session, and its lexeme is what the text up to
there ends in. -/
theorem Session.Reads.held_ends {s : Session} {source : Text} {t : Token} (reads : s.Reads source)
    (kept : s.held = some t) :
    t.span.stop = s.position.byte ∧ ∃ raw, s.lexeme? t.span = some raw ∧ raw ≠ [] ∧
      raw <:+ source.take s.position.offset := by
  obtain ⟨i, lies⟩ := reads.held t kept
  obtain ⟨nonempty, inside, start, stop, -, -⟩ := lies
  have place : s.position = .behind (source.take s.position.offset) :=
    reads.text ▸ reads.placed.position_eq_behind
  have first : (source.take s.position.offset).take i = source.take i := by
    rw [List.take_take, Nat.min_eq_left nonempty.le]
  have parted : source.take s.position.offset =
      source.take i ++ (source.take s.position.offset).drop i := by
    rw [← first, List.take_append_drop]
  refine ⟨by rw [stop]; exact (congrArg Position.byte place).symm,
    (source.take s.position.offset).drop i, ?_, ?_, List.drop_suffix ..⟩
  · have cut := Text.slice?_byteLength (source.take i) ((source.take s.position.offset).drop i)
      (source.drop s.position.offset)
    rw [← parted, List.take_append_drop, ← start, ← stop] at cut
    rw [lexeme?, reads.text]
    exact cut
  · rw [ne_eq, List.drop_eq_nil_iff, List.length_take, Nat.min_eq_left inside]
    omega

/-! ## The end of the text -/

namespace Cursor

variable {suppression : Suppression} {mode : Mode} {c d : Cursor} {o : Outcome}

/-- A call comes to the end of the text exactly if only suppressed characters are left. -/
theorem Pulls.finished_iff (pulls : Pulls suppression mode c o d) :
    o = .finished ↔ ∀ x ∈ c.rest, suppression.suppresses x = true := by
  -- what a token or a fault begins with is not suppressed
  have unread {trivia stretch : Text} (split : c.rest = trivia ++ stretch)
      (nonempty : stretch ≠ []) (kept : Text.Stops suppression.suppresses stretch) :
      ¬ ∀ x ∈ c.rest, suppression.suppresses x = true := by
    intro suppressed
    obtain ⟨x, others, rfl⟩ := List.exists_cons_of_ne_nil nonempty
    have passed := suppressed x (by simp [split])
    rw [Text.stops_cons.1 kept] at passed
    cases passed
  cases pulls with
  | finished suppressed => exact iff_of_true rfl suppressed
  | token split _ kept lexeme _ =>
    refine iff_of_false (fun same => by cases same) (unread split ?_ kept)
    exact List.append_ne_nil_of_left_ne_nil lexeme.ne_nil _
  | fault _ split _ kept breaks =>
    refine iff_of_false (fun same => by cases same) (unread split ?_ kept)
    exact List.append_ne_nil_of_left_ne_nil breaks.ne_nil _

/-- A call that comes to the end of the text leaves nothing behind. -/
theorem Pulls.isAtEnd (pulls : Pulls suppression mode c .finished d) : d.isAtEnd = true := by
  cases pulls
  rw [isAtEnd, rest_skip, List.drop_length]
  rfl

/-- At the end of the text a call comes to nothing and stays there. -/
theorem Pulls.eq_of_isAtEnd (pulls : Pulls suppression mode c o d) (atEnd : c.isAtEnd = true) :
    o = .finished ∧ d = c := by
  have nothing : c.rest = [] := List.isEmpty_iff.1 atEnd
  have ended : o = .finished := pulls.finished_iff.2 (by simp [nothing])
  subst ended
  cases pulls
  rw [nothing]
  exact ⟨rfl, rfl⟩

end Cursor

namespace Client

variable {c d : Client}

/-- **The end is the end.** At the end of the text all moves stay there, and their calls come to
nothing.

**Proof sketch.** Induction on the moves. By `perform_cases` a move makes no call, or one that
finds nothing left and does not move (`eq_of_isAtEnd`). -/
theorem completed_after (atEnd : c.session.isCompleted = true) (moves : List Move) :
    (c.after moves).session.cursor = c.session.cursor ∧
      ∀ scan ∈ c.scans moves, scan.outcome = .finished := by
  induction moves generalizing c with
  | nil => exact ⟨rfl, by simp [scans]⟩
  | cons move later ih =>
    rw [after, scans]
    rcases c.perform_cases move with ⟨d, idle, same⟩ | ⟨scan, d, made, -, pulls, -⟩
    · rw [idle, ← same]
      exact ih (same ▸ atEnd)
    · obtain ⟨ended, still⟩ := pulls.eq_of_isAtEnd atEnd
      have stays : d.session.isCompleted = true := by
        rw [Session.isCompleted, still]
        exact atEnd
      obtain ⟨place, calls⟩ := ih stays
      rw [made]
      refine ⟨place.trans still, ?_⟩
      intro other mem
      rcases List.mem_cons.1 mem with rfl | mem
      · exact ended
      · exact calls other mem

/-! ## All moves -/

/-- What the slot and the end of the text tell of a client of a text behind some calls. The slot
holds the token of the last call if that call keeps it, and no other one. The token ends at the
place, and its lexeme is what the text ends in up to there. The next call leaves the slot empty
unless it keeps a token, comes to the end exactly if only suppressed characters are left, and then
nothing is left. At the end all moves stay there, and all calls come to nothing. Moves that make no
call leave the session as it is, and looking at it is one of them. -/
structure SlotExact (source : Text) (calls : List Scan) (c : Client) : Prop where
  held_iff : ∀ t, c.session.held = some t ↔
    ∃ scan, calls.getLast? = some scan ∧ scan.keeps = true ∧ scan.outcome = .token t
  held_ends : ∀ t, c.session.held = some t →
    t.span.stop = c.session.position.byte ∧ ∃ raw, c.session.lexeme? t.span = some raw ∧
      raw ≠ [] ∧ raw <:+ source.take c.session.position.offset
  empties : ∀ move scan d, c.perform move = (some scan, d) →
    scan.keeps = false ∨ scan.outcome.token? = none → d.session.held = none
  finished_iff : ∀ move scan d, c.perform move = (some scan, d) →
    (scan.outcome = .finished ↔
      ∀ x ∈ c.session.cursor.rest, scan.suppression.suppresses x = true)
  completes : ∀ move scan d, c.perform move = (some scan, d) → scan.outcome = .finished →
    d.session.isCompleted = true
  completed : c.session.isCompleted = true → ∀ later,
    (c.after later).session.isCompleted = true ∧
      (c.after later).session.position = c.session.position ∧
      ∀ scan ∈ c.scans later, scan.outcome = .finished
  unscanned : ∀ move d, c.perform move = (none, d) → d.session = c.session
  looks : c.perform .look = (none, c)

/-- **The slot and the end of the text are exact** after all moves on a text.

**Proof sketch.** What the slot holds is told by the last call (`held_after`), and what a single
call does by `pulls_of_perform`. The end of the text is `completed_after`, and that a token in the
slot ends where the session stands is kept by all moves (`reads_after`). -/
theorem slotExact_after (source : Text) (moves : List Move) :
    SlotExact source ((holding (.ofText source)).scans moves)
      ((holding (.ofText source)).after moves) where
  held_iff t := by
    have slot := (holding (.ofText source)).held_after moves
    rw [slot]
    cases (scans (holding (.ofText source)) moves).getLast? with
    | none => simp [session, Session.ofText]
    | some scan => simpa using Scan.kept?_eq_some_iff
  held_ends t kept := by
    have reads : (holding (.ofText source)).session.Reads source := Session.reads_ofText source
    exact (reads_after reads moves).held_ends kept
  empties move scan d made unkept := by
    rw [(pulls_of_perform made).2, Scan.kept?]
    rcases unkept with handed | none
    · rw [handed]
      rfl
    · rw [none, ite_self]
  finished_iff move scan d made := (pulls_of_perform made).1.finished_iff
  completes move scan d made ended := (ended ▸ (pulls_of_perform made).1).isAtEnd
  completed atEnd later := by
    obtain ⟨place, calls⟩ := completed_after atEnd later
    refine ⟨?_, congrArg Cursor.position place, calls⟩
    rw [Session.isCompleted, place]
    exact atEnd
  unscanned move d idle := session_of_perform idle
  looks := rfl

/-- A word that was kept is gone behind the fault that comes next. -/
example : ((holding (.ofText ['a', '"'])).after [.keep .all .full]).session.held ≠ none ∧
    ((holding (.ofText ['a', '"'])).after [.keep .all .full, .keep .all .full]).session.held =
      none := by
  decide +kernel

end Client

end Lexing
