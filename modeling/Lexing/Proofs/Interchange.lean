import Lexing.Command.Run
import Lexing.Proofs.Gathering

set_option relaxedAutoImplicit false
set_option autoImplicit false

/-!
# Ways to read

The tokens that are left in a session can be read in several ways: by calls that keep the token in
the slot, where it is then looked up, by calls that hand it over, and by streams. A reader may
change the way from one token to the next. It makes no difference: up to the end of the text or the
first failure all of them come to the same tokens, and leave the same session.

## Main definitions

* `Lexing.Way` — the ways to ask for the next token.
* `Lexing.Client` — a reader of a session, with or without a stream that is open.
* `Lexing.Client.collect` — what a reader comes to that asks in given ways.
* `Lexing.Gathered` — tokens, the failure behind them, and the session that is left.
* `Lexing.Session.gathered` — what a run comes to up to its first failure.

## Main results

* `Lexing.TokenStream.pullMany_of_ended` — a stream that has come to a failure or to the end of the
  text is at its end for ever.
* `Lexing.Client.InTune.collect_eq` — it makes no difference in which ways a reader asks.
* `Lexing.Session.drain_congr_suppresses` — suppressions are alike that suppress the same
  characters.
* `Lexing.Session.ways_agree` — all ways to read come to the same.
-/

namespace Lexing

/-! ## Readers -/

/-- A way to ask for the next token. -/
inductive Way where
  /-- The token is kept in the slot and looked up there. -/
  | keep
  /-- The token is handed over. -/
  | handOver
  /-- The stream that is open is pulled. If none is, one is opened. -/
  | pull
  /-- The stream that is open is given up, and a new one is pulled. -/
  | pullAnew
deriving DecidableEq, Repr

/-- A reader of a session. While a stream is open, the session is in its hands. -/
inductive Client where
  | holding (session : Session)
  | streaming (stream : TokenStream)
deriving DecidableEq, Repr

/-- What a reader comes to: tokens, the failure behind them, if one ended the reading, and the
session that is left. -/
structure Gathered where
  tokens : List Token
  failure? : Option Failure
  session : Session
deriving DecidableEq, Repr

namespace Gathered

/-- The same with one more token in front. -/
def cons (t : Token) (later : Gathered) : Gathered := { later with tokens := t :: later.tokens }

/-- All the tokens, or the failure behind them. -/
def toExcept (g : Gathered) : Except Failure (List Token) :=
  match g.failure? with
  | none => .ok g.tokens
  | some failure => .error failure

end Gathered

/-- What is known of a call that keeps its token. The answer only tells that there is one, and the
token is looked up in the slot. -/
def Session.lookUp (call : Outcome × Session) : Outcome :=
  match call.1, call.2.held with
  | .token _, some t => .token t
  | .token _, none => .finished
  | other, _ => other

namespace Client

variable {suppression : Suppression} {mode : Mode} {c after : Client} {way : Way} {t : Token}
  {o : Outcome}

/-- The session that a reader reads. -/
def session : Client → Session
  | holding s => s
  | streaming stream => stream.session

/-- The stream that is open, or a new one. -/
def stream (c : Client) (suppression : Suppression) (mode : Mode) : TokenStream :=
  match c with
  | holding s => .ofSession s suppression mode
  | streaming stream => stream

/-- Asks for the next token in one of the ways. -/
def ask (c : Client) (suppression : Suppression) (mode : Mode) : Way → Outcome × Client
  | .keep =>
    let call := c.session.next suppression mode
    (Session.lookUp call, .holding call.2)
  | .handOver =>
    let call := c.session.take suppression mode
    (call.1, .holding call.2)
  | .pull =>
    let call := (c.stream suppression mode).next
    (call.1, .streaming call.2)
  | .pullAnew =>
    let call := (TokenStream.ofSession c.session suppression mode).next
    (call.1, .streaming call.2)

/-- A call that keeps its token lets it be known like a call that hands it over. -/
theorem lookUp_next (s : Session) (suppression : Suppression) (mode : Mode) :
    Session.lookUp (s.next suppression mode) = (s.take suppression mode).1 := by
  simp only [Session.next, Session.take, Session.lookUp]
  cases (s.cursor.pull suppression mode).1 <;> rfl

/-- Asking for a token uses up some text. -/
theorem length_rest_ask_lt (call : c.ask suppression mode way = (.token t, after)) :
    after.session.cursor.rest.length < c.session.cursor.rest.length := by
  have handed : (c.session.take suppression mode).1 = .token t →
      (c.session.take suppression mode).2.cursor.rest.length < c.session.cursor.rest.length :=
    fun found => Session.length_rest_take_lt (by rw [found]; rfl)
  cases way with
  | keep =>
    obtain ⟨found, rfl⟩ := Prod.mk.inj call
    exact handed ((lookUp_next ..).symm.trans found)
  | handOver =>
    obtain ⟨found, rfl⟩ := Prod.mk.inj call
    exact handed found
  | pull =>
    obtain ⟨found, rfl⟩ := Prod.mk.inj call
    have shorter := TokenStream.length_rest_next_lt (Prod.ext found rfl)
    cases c <;> exact shorter
  | pullAnew =>
    obtain ⟨found, rfl⟩ := Prod.mk.inj call
    exact TokenStream.length_rest_next_lt (Prod.ext found rfl)

/-- What a reader comes to that asks in the given ways, one after another, up to the end of the text
or the first failure. -/
def collect (suppression : Suppression) (mode : Mode) (ways : Nat → Way) (c : Client) : Gathered :=
  match _h : c.ask suppression mode (ways 0) with
  | (.token t, after) => .cons t (after.collect suppression mode fun i => ways (i + 1))
  | (.failed failure, after) => ⟨[], some failure, after.session⟩
  | (.finished, after) => ⟨[], none, after.session⟩
termination_by c.session.cursor.rest.length
decreasing_by exact length_rest_ask_lt _h

variable {ways : Nat → Way}

/-- A token is what the reader comes to first. -/
theorem collect_of_token (call : c.ask suppression mode (ways 0) = (.token t, after)) :
    c.collect suppression mode ways =
      .cons t (after.collect suppression mode fun i => ways (i + 1)) := by
  rw [collect, call]

/-- At a failure the reader stops. -/
theorem collect_of_failed {failure : Failure}
    (call : c.ask suppression mode (ways 0) = (.failed failure, after)) :
    c.collect suppression mode ways = ⟨[], some failure, after.session⟩ := by
  rw [collect, call]

/-- At the end of the text the reader stops. -/
theorem collect_of_finished (call : c.ask suppression mode (ways 0) = (.finished, after)) :
    c.collect suppression mode ways = ⟨[], none, after.session⟩ := by
  rw [collect, call]

end Client

/-! ## What a run comes to -/

/-- The tokens of a run up to its first failure, that failure, and the session behind it; without a
failure, all tokens and the session at the end. -/
def Gathered.ofRun : List (Outcome × Session) → Session → Gathered
  | [], last => ⟨[], none, last⟩
  | (.token t, _) :: later, last => .cons t (ofRun later last)
  | (.failed failure, after) :: _, _ => ⟨[], some failure, after⟩
  | (.finished, _) :: later, last => ofRun later last

/-- What a run comes to up to its first failure. -/
def Session.gathered (s : Session) (suppression : Suppression) (mode : Mode) : Gathered :=
  .ofRun (s.drain suppression mode).1 (s.drain suppression mode).2

variable {suppression : Suppression} {mode : Mode} {s next : Session} {o : Outcome} {t : Token}

/-- One more token in front does not change a failure. -/
theorem Gathered.toExcept_cons (t : Token) (later : Gathered) :
    (later.cons t).toExcept = later.toExcept.map (t :: ·) := by
  obtain ⟨tokens, failure?, session⟩ := later
  cases failure? <;> rfl

/-- The tokens or the failure of a run are what its outcomes gather. -/
theorem Gathered.toExcept_ofRun (run : List (Outcome × Session)) (last : Session) :
    (ofRun run last).toExcept = Outcome.gather (run.map Prod.fst) := by
  induction run with
  | nil => rfl
  | cons call later ih =>
    obtain ⟨o, after⟩ := call
    cases o with
    | token t => rw [ofRun, toExcept_cons, ih, List.map_cons, Outcome.gather]
    | failed failure => rfl
    | finished => exact ih

/-- Streams collect what a run comes to. -/
theorem Session.toExcept_gathered (s : Session) (suppression : Suppression) (mode : Mode) :
    (s.gathered suppression mode).toExcept = (TokenStream.ofSession s suppression mode).collect :=
  (Gathered.toExcept_ofRun _ _).trans (TokenStream.collect_ofSession s suppression mode).symm

/-! ## Streams that have ended -/

/-- **Streams end for good.** Behind a failure or the end of the text a stream comes to nothing more
and does not move, even if there is text left.

**Proof sketch.** Behind such a call the stream comes to the end and stays as it is. A stream that
had stopped before, or stops by this failure, does so at once. If the call came to the end, then no
text is left and a further call finds none. The rest is induction on the number of pulls. -/
theorem TokenStream.pullMany_of_ended {stream later : TokenStream}
    (call : stream.next = (o, later)) (ended : o.token? = none) (count : Nat) :
    later.pullMany count = (List.replicate count .finished, later) := by
  have still : later.next = (.finished, later) := by
    cases running : stream.stopped with
    | true =>
      rw [next_of_stopped running] at call
      obtain ⟨-, rfl⟩ := Prod.mk.inj call
      exact next_of_stopped running
    | false =>
      rw [next_of_running running] at call
      obtain ⟨rfl, rfl⟩ := Prod.mk.inj call
      cases found : stream.session.take stream.suppression stream.mode with
      | mk o next =>
        simp only [found] at ended ⊢
        cases o with
        | token t => cases ended
        | failed failure => exact next_of_stopped rfl
        | finished =>
          obtain ⟨d, rfl, pulls⟩ := Session.pulls_of_take found
          have nothing : d.rest = [] := by
            cases pulls
            rw [Cursor.rest_skip, List.drop_length]
          have again : Session.take ⟨d, none⟩ stream.suppression stream.mode =
              (.finished, ⟨d, none⟩) := Session.take_of_rest_nil nothing
          exact next_ofSession again
  induction count with
  | zero => rfl
  | succ count ih => rw [pullMany, still, ih, List.replicate_succ]

/-! ## Changing the way -/

namespace Client

variable {c : Client}

/-- A stream that is open reads with the given suppression and in the given mode, and has not
stopped. -/
def InTune (suppression : Suppression) (mode : Mode) : Client → Prop
  | holding _ => True
  | streaming stream => stream = .ofSession stream.session suppression mode

/-- The stream that is open is like a new one. -/
theorem InTune.stream_eq (tune : c.InTune suppression mode) :
    c.stream suppression mode = .ofSession c.session suppression mode := by
  cases c with
  | holding s => rfl
  | streaming stream => exact tune

/-- **One token in any way.** All ways come to what a call on the session comes to and lead to the
same place. Where there is no token, they leave the same session.

**Proof sketch.** By cases on the way. All four make the same call on the same session and differ
in what they keep of it: `keep` leaves the token in the slot, the others clear it, and a stream
that has not failed is still the stream of its session. -/
theorem InTune.ask (tune : c.InTune suppression mode)
    (call : c.session.take suppression mode = (o, next)) (way : Way) :
    ∃ after, c.ask suppression mode way = (o, after) ∧ after.session.cursor = next.cursor ∧
      (o.token? = none → after.session = next) ∧
      (o.isFailed = false → after.InTune suppression mode) := by
  have pulled : (TokenStream.ofSession c.session suppression mode).next =
      (o, ⟨next, suppression, mode, o.isFailed⟩) := TokenStream.next_ofSession call
  have stays : o.isFailed = false →
      (streaming ⟨next, suppression, mode, o.isFailed⟩).InTune suppression mode := by
    intro fine
    rw [fine]
    rfl
  cases way with
  | keep =>
    have known := lookUp_next c.session suppression mode
    obtain ⟨rfl, rfl⟩ := Prod.mk.inj call
    refine ⟨_, Prod.ext known rfl, rfl, ?_, fun _ => trivial⟩
    intro none
    exact congrArg (Session.mk _) none
  | handOver =>
    exact ⟨holding next, by simp only [Client.ask, call], rfl, fun _ => rfl, fun _ => trivial⟩
  | pull =>
    exact ⟨_, by simp only [Client.ask, tune.stream_eq, pulled], rfl, fun _ => rfl, stays⟩
  | pullAnew => exact ⟨_, by simp only [Client.ask, pulled], rfl, fun _ => rfl, stays⟩

/-- **All ways agree.** In whatever ways a reader asks, it comes to what a run from the same place
comes to up to its first failure.

**Proof sketch.** Induction along the run of the session. At each call `InTune.ask` gives the same
outcome and a reader that is in tune again, at the same place. At the last call it leaves the same
session, too. -/
theorem InTune.collect_eq (tune : c.InTune suppression mode)
    (same : c.session.cursor = s.cursor) (ways : Nat → Way) :
    c.collect suppression mode ways = s.gathered suppression mode := by
  -- along the run of `s`: the reader is at the same place, with whatever is in its slot or open
  refine Session.drain_induction (motive := fun s run last => ∀ c : Client, ∀ ways,
    c.InTune suppression mode → c.session.cursor = s.cursor →
      c.collect suppression mode ways = .ofRun run last) ?_ ?_ s c ways tune same
  · intro s next call c ways tune same
    rw [Session.take, ← same] at call
    obtain ⟨after, asked, -, left, -⟩ := tune.ask call (ways 0)
    rw [collect_of_finished asked, left rfl]
    rfl
  · intro s o next run last call goes _ ih c ways tune same
    rw [Session.take, ← same] at call
    obtain ⟨after, asked, moved, left, stays⟩ := tune.ask call (ways 0)
    cases o with
    | token t =>
      rw [collect_of_token asked, ih after _ (stays rfl) moved]
      rfl
    | failed failure =>
      rw [collect_of_failed asked, left rfl]
      rfl
    | finished => cases goes

end Client

/-! ## Suppressions that suppress the same -/

namespace Session

variable {other : Suppression}

/-- Suppressions that suppress the same characters have the same runs. -/
theorem drain_congr_suppresses (same : suppression.suppresses = other.suppresses) (s : Session)
    (mode : Mode) : s.drain suppression mode = s.drain other mode := by
  have alike (s : Session) : s.take suppression mode = s.take other mode := by
    simp only [take, Cursor.pull, Cursor.pass_eq_skip, same]
  refine drain_induction (motive := fun s run last => (run, last) = s.drain other mode) ?_ ?_ s
  · intro s next call
    exact (drain_of_finished ((alike s).symm.trans call)).symm
  · intro s o next run last call goes _ ih
    rw [drain_of_goesOn ((alike s).symm.trans call) goes, ← ih]

end Session

/-- Flags that agree in the bits that have a meaning suppress the same characters. -/
theorem Suppression.suppresses_of_flags {flags : UInt8}
    (same : flags &&& all.bits = suppression.bits &&& all.bits) :
    (truncate ⟨flags⟩).suppresses = suppression.suppresses := by
  rw [← suppresses_truncate suppression]
  exact congrArg (fun bits => suppresses ⟨bits⟩) same

/-- **All ways to read agree.** From whatever session a reader starts, it makes no difference in
which ways it asks for one token after another: it comes to the same tokens, to the same failure, if
there is one, and leaves the same session. A stream collects these tokens or this failure, and once
it has come to a failure or to the end, it is at its end for ever and does not move. From the start
of a text, the library, an embedding with the same flags, whatever other bits it has, and the
command line come to these tokens or to this failure.

**Proof sketch.** A reader that holds a session is in tune with any suppression and mode, so that
`InTune.collect_eq` applies to it. Streams that have ended are `pullMany_of_ended`. The embedding
suppresses what its two lowest bits say (`suppresses_of_flags`), hence runs alike, and a request of
the command line calls the library. -/
theorem Session.ways_agree (suppression : Suppression) (mode : Mode) :
    (∀ s : Session,
        (∀ ways : Nat → Way, (Client.holding s).collect suppression mode ways =
          s.gathered suppression mode) ∧
        (TokenStream.ofSession s suppression mode).collect =
          (s.gathered suppression mode).toExcept) ∧
      (∀ (stream later : TokenStream) (o : Outcome) (count : Nat), stream.next = (o, later) →
        o.token? = none → later.pullMany count = (List.replicate count .finished, later)) ∧
      ∀ source found, ((ofText source).gathered suppression mode).toExcept = found →
        tokenize source suppression mode = found ∧
          (∀ (flags : UInt8) (literal : Bool), flags &&& 3 = suppression.bits &&& 3 →
            mode = .ofLiteral literal → Embedding.tokens source flags literal = found) ∧
          ∀ request : Command.Request, request.suppression = suppression → request.mode = mode →
            request.run (.ok source) =
              match found with
              | .error failure => .failure (Command.failureMessage failure)
              | .ok tokens => request.reportTokens tokens := by
  refine ⟨fun s => ⟨fun ways => ?_, (s.toExcept_gathered suppression mode).symm⟩, ?_, ?_⟩
  · have tune : (Client.holding s).InTune suppression mode := trivial
    exact tune.collect_eq rfl ways
  · intro stream later o count call ended
    exact TokenStream.pullMany_of_ended call ended count
  · intro source found comes
    have library : tokenize source suppression mode = found :=
      ((ofText source).toExcept_gathered suppression mode).symm.trans comes
    refine ⟨library, ?_, ?_⟩
    · rintro flags literal same rfl
      have runs := drain_congr_suppresses (Suppression.suppresses_of_flags same)
      rw [Embedding.tokens, tokenize_eq_gather, outcomes, runs, ← outcomes, ← tokenize_eq_gather,
        library]
    · rintro request rfl rfl
      cases found with
      | error failure => simp only [Command.Request.run, library]
      | ok tokens => simp only [Command.Request.run, library]

end Lexing
