import Lexing.Proofs.Call
import Lexing.TokenStream

set_option relaxedAutoImplicit false
set_option autoImplicit false

/-!
# Gathering

A stream of tokens stops at the first failure, while a run goes on after faults. The tokens of a
stream are those that the calls of the run come to, up to the first failure.

## Main definitions

* `Lexing.Outcome.gather` — the tokens of a list of outcomes, or the first failure in it.
* `Lexing.Session.outcomes` — what the calls of a run come to.

## Main results

* `Lexing.Session.accepted_induction` — induction along a run that comes to tokens only.
* `Lexing.TokenStream.collect_ofSession` — a stream collects what its run gathers.
* `Lexing.tokenize_eq_gather` — the tokens of a text are what its run gathers.
* `Lexing.tokenize_of_lexeme` — a text that is one lexeme is one token.
* `Lexing.tokenize_of_breaks` — a text that is one fault is refused.
-/

namespace Lexing

open Grammar

/-- All tokens of a list of outcomes, or the first failure in it. -/
def Outcome.gather : List Outcome → Except Failure (List Token)
  | [] => .ok []
  | .token t :: later => (gather later).map (t :: ·)
  | .failed failure :: _ => .error failure
  | .finished :: later => gather later

/-- What a list of outcomes gathers with a token in front. -/
theorem Outcome.gather_token {t : Token} {later : List Outcome} {tokens : List Token}
    (h : gather (.token t :: later) = .ok tokens) :
    ∃ others, gather later = .ok others ∧ tokens = t :: others := by
  rw [gather] at h
  cases found : gather later with
  | error failure =>
    rw [found] at h
    cases h
  | ok others =>
    rw [found] at h
    cases h
    exact ⟨others, rfl, rfl⟩

/-- A failure behind a token is the failure that is gathered. -/
theorem Outcome.gather_token_error {t : Token} {later : List Outcome} {failure : Failure}
    (h : gather (.token t :: later) = .error failure) : gather later = .error failure := by
  rw [gather] at h
  cases found : gather later with
  | error first =>
    rw [found] at h
    cases h
    rfl
  | ok others =>
    rw [found] at h
    cases h

/-- What is gathered behind tokens comes after them. -/
theorem Outcome.gather_append (tokens : List Token) (later : List Outcome) :
    gather (tokens.map .token ++ later) = (gather later).map (tokens ++ ·) := by
  induction tokens with
  | nil => cases found : gather later <;> simp [found, Except.map]
  | cons t tokens ih =>
    rw [List.map_cons, List.cons_append, gather, ih]
    cases gather later <;> rfl

variable {suppression : Suppression} {mode : Mode}

namespace Session

/-- What the calls of a run come to, up to the end of the text. -/
def outcomes (s : Session) (suppression : Suppression) (mode : Mode) : List Outcome :=
  (s.drain suppression mode).1.map Prod.fst

variable {s next : Session} {o : Outcome}

/-- At the end of the text no call comes to anything. -/
theorem outcomes_of_finished (call : s.take suppression mode = (.finished, next)) :
    s.outcomes suppression mode = [] := by
  rw [outcomes, drain_of_finished call]
  rfl

/-- What a run comes to is what its first call comes to, and then what the later calls do. -/
theorem outcomes_of_goesOn (call : s.take suppression mode = (o, next))
    (goes : o.goesOn = true) :
    s.outcomes suppression mode = o :: next.outcomes suppression mode := by
  rw [outcomes, drain_of_goesOn call goes]
  rfl

/-- **Induction along an accepted run.** Where a run gathers tokens, each of its calls but the
last comes to the next one of them.

**Proof sketch.** Induction along the run. What is gathered from a run that begins with a token is
this token and what is gathered later (`gather_token`); a run that begins with a failure gathers no
tokens. -/
theorem accepted_induction {motive : Session → List Token → Session → Prop}
    (finish : ∀ s next, s.take suppression mode = (.finished, next) → motive s [] next)
    (token : ∀ s t next tokens last, s.take suppression mode = (.token t, next) →
      motive next tokens last → motive s (t :: tokens) last)
    {tokens : List Token}
    (accepted : Outcome.gather (s.outcomes suppression mode) = .ok tokens) :
    motive s tokens (s.drain suppression mode).2 := by
  revert tokens
  refine drain_induction (motive := fun s run last => ∀ {tokens : List Token},
    Outcome.gather (run.map Prod.fst) = .ok tokens → motive s tokens last) ?_ ?_ s
  · intro s next call tokens accepted
    cases accepted
    exact finish s next call
  · intro s o next run last call goes _ ih tokens accepted
    cases o with
    | token t =>
      obtain ⟨others, acceptedLater, rfl⟩ := Outcome.gather_token accepted
      exact token s t next others last call (ih acceptedLater)
    | failed failure => cases accepted
    | finished => cases goes

/-- A run fails by a fault of the text only. -/
theorem exists_report {failure : Failure}
    (failed : Outcome.gather (s.outcomes suppression mode) = .error failure) :
    ∃ report, failure = .fault report := by
  refine drain_induction (motive := fun _ run _ =>
    Outcome.gather (run.map Prod.fst) = .error failure → ∃ report, failure = .fault report)
    ?_ ?_ s failed
  · intro s next call failed
    cases failed
  · intro s o next run last call goes _ ih failed
    cases o with
    | token t => exact ih (Outcome.gather_token_error failed)
    | failed first =>
      cases failed
      cases failure with
      | fault report => exact ⟨report, rfl⟩
      | defect d => cases goes
    | finished => cases goes

end Session

namespace TokenStream

/-- A stream pulls from its session, and has stopped where that came to a failure. -/
theorem next_ofSession {s next : Session} {o : Outcome}
    (call : s.take suppression mode = (o, next)) :
    (ofSession s suppression mode).next = (o, ⟨next, suppression, mode, o.isFailed⟩) := by
  rw [next_of_running rfl]
  simp only [ofSession, call]

/-- **Streams and runs.** A stream collects what the run of its session gathers.

**Proof sketch.** Induction along the run. The stream makes the call of the session
(`next_ofSession`), and it stops where gathering stops. -/
theorem collect_ofSession (s : Session) (suppression : Suppression) (mode : Mode) :
    (ofSession s suppression mode).collect = Outcome.gather (s.outcomes suppression mode) := by
  refine Session.drain_induction (motive := fun s run _ => (ofSession s suppression mode).collect =
      Outcome.gather (run.map Prod.fst)) ?_ ?_ s
  · intro s next call
    rw [collect, next_ofSession call]
    rfl
  · intro s o next run last call goes _ ih
    rw [collect, next_ofSession call]
    cases o with
    | token t =>
      rw [List.map_cons, Outcome.gather, ← ih]
      rfl
    | failed failure => rfl
    | finished => cases goes

end TokenStream

/-- The tokens of a text are what its run gathers. -/
theorem tokenize_eq_gather (source : Text) (suppression : Suppression) (mode : Mode) :
    tokenize source suppression mode =
      Outcome.gather ((Session.ofText source).outcomes suppression mode) :=
  TokenStream.collect_ofSession _ suppression mode

/-! ## One lexeme or one fault by itself -/

namespace Cursor

variable {kind : Token.Kind} {raw text : Text}

/-- The span of a whole text goes from its first byte to its last. -/
theorem between_start_after (raw : Text) :
    Span.between .start (Position.start.after raw) = ⟨0, Text.byteLength raw, 0, 0⟩ := by
  simp [Span.between, Position.byte_after, Position.start]

/-- Where the whole text is one lexeme, a call finds it: the end of the text may follow it. -/
theorem pull_ofText_of_lexeme (lexeme : Lexeme mode kind raw text) :
    (ofText raw).pull .none mode =
      (.token ⟨kind, text, ⟨0, Text.byteLength raw, 0, 0⟩⟩, (ofText raw).skip raw.length) := by
  have split : (ofText raw).rest = [] ++ (raw ++ []) := (List.append_nil raw).symm
  rw [pull_of_lexeme split (by simp) (Suppression.stops_none _) lexeme mayPrecede_nil,
    List.nil_append, ← between_start_after]
  rfl

/-- Behind a whole text nothing is left. -/
theorem rest_skip_ofText (raw : Text) : ((ofText raw).skip raw.length).rest = [] :=
  rest_skip_length (List.append_nil raw).symm

/-- The place behind a whole text. -/
theorem position_skip_ofText (raw : Text) : ((ofText raw).skip raw.length).position = .behind raw :=
  (position_skip_length (List.append_nil raw).symm).trans (Position.start_after raw)

end Cursor

/-- A text that is one lexeme is one token. -/
theorem tokenize_of_lexeme {kind : Token.Kind} {raw text : Text}
    (lexeme : Lexeme mode kind raw text) :
    tokenize raw .none mode = .ok [⟨kind, text, ⟨0, Text.byteLength raw, 0, 0⟩⟩] := by
  have taken : (Session.ofText raw).take .none mode =
      (.token ⟨kind, text, ⟨0, Text.byteLength raw, 0, 0⟩⟩,
        ⟨(Cursor.ofText raw).skip raw.length, none⟩) := by
    simp only [Session.take, Session.ofText, Cursor.pull_ofText_of_lexeme lexeme]
  have nothing := Cursor.rest_skip_ofText raw
  rw [tokenize_eq_gather, Session.outcomes_of_goesOn taken rfl,
    Session.outcomes_of_finished (Session.take_of_rest_nil nothing)]
  rfl

/-- Where the whole text is one fault, a call fails behind its lead and uses up all of it. -/
theorem Session.take_ofText_of_breaks {f : Fault} {lead tail : Text}
    (breaks : Breaks f lead tail []) :
    (ofText (lead ++ tail)).take .none .full =
      (.failed (.fault (.ofPosition f (lead ++ tail) (.behind lead))),
        ⟨(Cursor.ofText (lead ++ tail)).skip (lead ++ tail).length, none⟩) := by
  have split : (Cursor.ofText (lead ++ tail)).rest = [] ++ (lead ++ tail ++ []) :=
    (List.append_nil (lead ++ tail)).symm
  rw [take, ofText, Cursor.pull_of_breaks split (by simp) (Suppression.stops_none _) breaks,
    List.nil_append, List.nil_append, Cursor.source_ofText, ← Position.start_after]
  rfl

/-- A text that is one fault is refused, with a report of the fault. -/
theorem tokenize_of_breaks {f : Fault} {lead tail : Text} (breaks : Breaks f lead tail []) :
    tokenize (lead ++ tail) .none .full =
      .error (.fault (.ofPosition f (lead ++ tail) (.behind lead))) := by
  rw [tokenize_eq_gather, Session.outcomes_of_goesOn (Session.take_ofText_of_breaks breaks) rfl]
  rfl

end Lexing
