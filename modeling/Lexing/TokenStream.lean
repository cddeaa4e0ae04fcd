import Lexing.Session

set_option relaxedAutoImplicit false
set_option autoImplicit false

/-!
# Token streams

A token stream pulls the tokens of a session one after another, with one suppression and in one
mode, and stops for good at the first failure.

## Main definitions

* `Lexing.TokenStream.next` — the next token, unless the stream has stopped.
* `Lexing.TokenStream.collect` — all tokens, or the first failure.
* `Lexing.tokenize` — all tokens of a text, or the first failure.
-/

namespace Lexing

/-- The tokens that are left in a session. -/
structure TokenStream where
  session : Session
  suppression : Suppression
  mode : Mode
  stopped : Bool
deriving DecidableEq, Repr

namespace TokenStream

/-- The stream of what is left in a session. -/
def ofSession (session : Session) (suppression : Suppression) (mode : Mode) : TokenStream :=
  ⟨session, suppression, mode, false⟩

/-- Pulls the next token. A stream that has failed is at its end for ever. -/
def next (s : TokenStream) : Outcome × TokenStream :=
  if s.stopped then (.finished, s)
  else
    let call := s.session.take s.suppression s.mode
    (call.1, { s with session := call.2, stopped := call.1.isFailed })

/-- The outcomes of the next `count` pulls, and the stream after them. -/
def pullMany (s : TokenStream) : Nat → List Outcome × TokenStream
  | 0 => ([], s)
  | count + 1 =>
    let pull := s.next
    let later := pull.2.pullMany count
    (pull.1 :: later.1, later.2)

/-- A stream that has not stopped pulls from its session. -/
theorem next_of_running {s : TokenStream} (h : s.stopped = false) :
    s.next = ((s.session.take s.suppression s.mode).1,
      { s with
        session := (s.session.take s.suppression s.mode).2
        stopped := (s.session.take s.suppression s.mode).1.isFailed }) := by
  simp [next, h]

/-- A stream that has stopped is at its end. -/
theorem next_of_stopped {s : TokenStream} (h : s.stopped = true) : s.next = (.finished, s) := by
  simp [next, h]

/-- Pulling a token uses up some text. -/
theorem length_rest_next_lt {s after : TokenStream} {t : Token}
    (h : s.next = (.token t, after)) :
    after.session.cursor.rest.length < s.session.cursor.rest.length := by
  cases hs : s.stopped with
  | true => simp [next_of_stopped hs] at h
  | false =>
    rw [next_of_running hs] at h
    obtain ⟨houtcome, rfl⟩ := Prod.mk.inj h
    exact Session.length_rest_take_lt (by rw [houtcome]; rfl)

/-- All tokens that are left, or the first failure. -/
def collect (s : TokenStream) : Except Failure (List Token) :=
  match _h : s.next with
  | (.finished, _) => .ok []
  | (.failed failure, _) => .error failure
  | (.token t, after) => after.collect.map (t :: ·)
termination_by s.session.cursor.rest.length
decreasing_by exact length_rest_next_lt _h

end TokenStream

/-- All tokens of a text, or the first failure. -/
def tokenize (source : Text) (suppression : Suppression) (mode : Mode) :
    Except Failure (List Token) :=
  (TokenStream.ofSession (.ofText source) suppression mode).collect

end Lexing
