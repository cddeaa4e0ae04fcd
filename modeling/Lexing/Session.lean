import Lexing.Cursor
import Lexing.Lexeme.Recognition
import Lexing.Suppression

set_option relaxedAutoImplicit false
set_option autoImplicit false

/-!
# Sessions

A session reads a source text token by token. Each call passes over the suppressed characters
and reads what comes next. A fault ends the call and not the session: the next call goes on
where the faulty one gave up.

## Main definitions

* `Lexing.Outcome` — what a call comes to: a token, a failure, or the end of the text.
* `Lexing.Cursor.pass` — passes over the suppressed characters, run by run.
* `Lexing.Cursor.pull` — one call, as a step of a cursor.
* `Lexing.Session` — a cursor, and a slot for the token that was read last.
* `Lexing.Session.next` — a call that keeps its token in the slot.
* `Lexing.Session.take` — a call that hands its token over.
* `Lexing.Session.drain` — all calls up to the end of the text, going on after faults.

## Main results

* `Lexing.Cursor.pass_eq_skip` — passing over run after run passes over the longest run of
  suppressed characters.
* `Lexing.Cursor.length_rest_pull_lt` — a call that finds a token or a fault uses up some text.
-/

namespace Lexing

/-- Why a call came to no token: the text is at fault, or the library is. -/
inductive Failure where
  | fault (report : FaultReport)
  | defect (defect : Defect)
deriving DecidableEq, Repr

/-- What a call comes to. -/
inductive Outcome where
  | token (token : Token)
  | failed (failure : Failure)
  | finished
deriving DecidableEq, Repr

namespace Outcome

/-- Whether the call came to a failure. -/
def isFailed : Outcome → Bool
  | failed _ => true
  | _ => false

/-- Whether the call found a token or a fault, after either of which reading can go on. -/
def goesOn : Outcome → Bool
  | token _ => true
  | failed (.fault _) => true
  | _ => false

/-- The token that the call came to. -/
def token? : Outcome → Option Token
  | token t => some t
  | _ => none

end Outcome

namespace Cursor

/-- The cursor past the run of a class. -/
def passRun (c : Cursor) (member : Char → Bool) : Cursor :=
  (c.collectWhile member []).2

/-- What is left behind the run of a class. -/
@[simp] theorem rest_passRun (c : Cursor) (member : Char → Bool) :
    (c.passRun member).rest = c.rest.dropWhile member := by
  rw [passRun, collectWhile, rest_skip]
  generalize c.rest = left
  induction left with
  | nil => rfl
  | cons x rest ih =>
    rw [List.takeWhile_cons, List.dropWhile_cons]
    split
    · simpa using ih
    · rfl

/-- A run that is not empty uses up some text. -/
theorem length_rest_passRun_lt {c : Cursor} {member : Char → Bool} {x : Char} {rest : Text}
    (h : c.rest = x :: rest) (hx : member x = true) :
    (c.passRun member).rest.length < c.rest.length := by
  have shrink := (List.dropWhile_suffix member (l := rest)).length_le
  rw [rest_passRun, h, List.dropWhile_cons_of_pos hx, List.length_cons]
  omega

/-- The cursor past the suppressed characters. A run of blanks or of line feeds is passed over
as a whole; what comes behind it is looked at anew. -/
def pass (c : Cursor) (suppression : Suppression) : Cursor :=
  match _h : c.rest with
  | [] => c
  | x :: _ =>
    if _hx : CharClass.isBlank x = true ∧ suppression.suppressesBlanks = true then
      (c.passRun CharClass.isBlank).pass suppression
    else if _hx : CharClass.isLineFeed x = true ∧ suppression.suppressesLineFeeds = true then
      (c.passRun CharClass.isLineFeed).pass suppression
    else c
termination_by c.rest.length
decreasing_by
  · exact length_rest_passRun_lt _h _hx.1
  · exact length_rest_passRun_lt _h _hx.1

/-- What a reading at the cursor comes to. A token lies between the cursor and the end of its
lexeme; a fault lies after its lead. -/
def settle (c : Cursor) : Reading → Outcome
  | .lexeme kind raw text =>
    .token ⟨kind, text, .between c.position (c.position.after raw)⟩
  | .fault fault lead _ =>
    .failed (.fault (.ofPosition fault c.source (c.position.after lead)))
  | .defect defect => .failed (.defect defect)

/-- Passes over the suppressed characters and reads what comes next. -/
def pull (c : Cursor) (suppression : Suppression) (mode : Mode) : Outcome × Cursor :=
  let here := c.pass suppression
  match here.rest with
  | [] => (.finished, here)
  | x :: rest =>
    let reading := recognise mode x rest
    (here.settle reading, here.skip reading.consumed.length)

/-- A run of suppressed characters may be passed over first. -/
theorem skip_passRun {c : Cursor} {member suppressed : Char → Bool}
    (covered : ∀ x, member x = true → suppressed x = true) :
    (c.passRun member).skip ((c.passRun member).rest.takeWhile suppressed).length =
      c.skip (c.rest.takeWhile suppressed).length := by
  have whole : c.rest.takeWhile suppressed =
      c.rest.takeWhile member ++ (c.rest.dropWhile member).takeWhile suppressed := by
    calc c.rest.takeWhile suppressed
        = (c.rest.takeWhile member ++ c.rest.dropWhile member).takeWhile suppressed := by
          rw [List.takeWhile_append_dropWhile]
      _ = _ := List.takeWhile_append_of_pos fun x hx =>
          covered x (List.all_eq_true.1 List.all_takeWhile x hx)
  rw [whole, List.length_append, skip_add, rest_passRun]
  rfl

/-- Passing over run after run passes over the longest run of suppressed characters. -/
theorem pass_eq_skip (c : Cursor) (suppression : Suppression) :
    c.pass suppression = c.skip (c.rest.takeWhile suppression.suppresses).length := by
  fun_induction pass c suppression with
  | case1 c h => rw [h, List.takeWhile_nil, List.length_nil, skip]
  | case2 c x rest h hx ih =>
    have covered : ∀ y, CharClass.isBlank y = true → suppression.suppresses y = true := by
      intro y hy
      simp [Suppression.suppresses, hy, hx.2]
    rw [ih, skip_passRun covered]
  | case3 c x rest h _ hx ih =>
    have covered : ∀ y, CharClass.isLineFeed y = true → suppression.suppresses y = true := by
      intro y hy
      simp [Suppression.suppresses, hy, hx.2]
    rw [ih, skip_passRun covered]
  | case4 c x rest h noBlank noFeed =>
    have kept : ¬ suppression.suppresses x = true := by
      simp only [Suppression.suppresses, Bool.or_eq_true, Bool.and_eq_true]
      rintro (⟨flag, hx⟩ | ⟨flag, hx⟩)
      · exact noBlank ⟨hx, flag⟩
      · exact noFeed ⟨hx, flag⟩
    rw [h, List.takeWhile_cons_of_neg kept, List.length_nil, skip]

@[simp] theorem source_pass (c : Cursor) (suppression : Suppression) :
    (c.pass suppression).source = c.source := by
  rw [pass_eq_skip, source_skip]

/-- Passing over suppressed characters leaves the rest from the first character that is kept. -/
@[simp] theorem rest_pass (c : Cursor) (suppression : Suppression) :
    (c.pass suppression).rest = c.rest.dropWhile suppression.suppresses := by
  rw [pass_eq_skip]
  exact rest_passRun c suppression.suppresses

/-- Where only suppressed characters are left, a call comes to the end of the text. -/
theorem pull_of_rest_nil {c : Cursor} {suppression : Suppression} (mode : Mode)
    (h : (c.pass suppression).rest = []) :
    c.pull suppression mode = (.finished, c.pass suppression) := by
  simp only [pull, h]

/-- Where a character is left that is not suppressed, a call comes to what is recognised from
there on. -/
theorem pull_of_rest_cons {c : Cursor} {suppression : Suppression} (mode : Mode) {x : Char}
    {rest : Text} (h : (c.pass suppression).rest = x :: rest) :
    c.pull suppression mode =
      ((c.pass suppression).settle (recognise mode x rest),
        (c.pass suppression).skip (recognise mode x rest).consumed.length) := by
  simp only [pull, h]

/-- A call does not change the text. -/
@[simp] theorem source_pull (c : Cursor) (suppression : Suppression) (mode : Mode) :
    (c.pull suppression mode).2.source = c.source := by
  cases h : (c.pass suppression).rest with
  | nil => simp [pull_of_rest_nil mode h]
  | cons x rest => simp [pull_of_rest_cons mode h]

/-- A call that finds a token or a fault uses up some text. -/
theorem length_rest_pull_lt {c : Cursor} {suppression : Suppression} {mode : Mode}
    (h : (c.pull suppression mode).1.goesOn = true) :
    (c.pull suppression mode).2.rest.length < c.rest.length := by
  have shrink : (c.pass suppression).rest.length ≤ c.rest.length := by
    rw [rest_pass]
    exact (List.dropWhile_suffix _).length_le
  cases hrest : (c.pass suppression).rest with
  | nil =>
    rw [pull_of_rest_nil mode hrest] at h
    cases h
  | cons x rest =>
    rw [pull_of_rest_cons mode hrest] at h ⊢
    have nonempty : (recognise mode x rest).consumed ≠ [] := by
      refine (fits_recognise mode x rest).2 ?_
      cases hr : recognise mode x rest with
      | lexeme => rfl
      | fault => rfl
      | defect => simp [hr, settle, Outcome.goesOn] at h
    have positive := List.length_pos_iff.2 nonempty
    rw [hrest] at shrink
    simp only [rest_skip, hrest, List.length_drop, List.length_cons] at shrink ⊢
    omega

end Cursor

/-- A text that is being read, and the token that was read last, if it was kept. -/
structure Session where
  cursor : Cursor
  held : Option Token
deriving DecidableEq, Repr

namespace Session

/-- A session at the start of a text. -/
def ofText (source : Text) : Session := ⟨.ofText source, none⟩

/-- The whole text. -/
def source (s : Session) : Text := s.cursor.source

/-- The place reached. -/
def position (s : Session) : Position := s.cursor.position

/-- Whether all text is used up. -/
def isCompleted (s : Session) : Bool := s.cursor.isAtEnd

/-- The place reached, shown to a person. -/
def excerpt (s : Session) : Text :=
  Excerpt.render s.source s.position.line s.position.column

/-- The stretch of source text that a span covers, unless it covers no such stretch. -/
def lexeme? (s : Session) (span : Span) : Option Text :=
  Text.slice? s.source span.start span.stop

/-- Reads what comes next and keeps it in the slot if it is a token. -/
def next (s : Session) (suppression : Suppression) (mode : Mode) : Outcome × Session :=
  let call := s.cursor.pull suppression mode
  (call.1, ⟨call.2, call.1.token?⟩)

/-- Reads what comes next and hands it over; the slot is left empty. -/
def take (s : Session) (suppression : Suppression) (mode : Mode) : Outcome × Session :=
  let call := s.cursor.pull suppression mode
  (call.1, ⟨call.2, none⟩)

/-- Handing over uses up some text where it finds a token or a fault. -/
theorem length_rest_take_lt {s : Session} {suppression : Suppression} {mode : Mode}
    (h : (s.take suppression mode).1.goesOn = true) :
    (s.take suppression mode).2.cursor.rest.length < s.cursor.rest.length :=
  Cursor.length_rest_pull_lt h

/-- All calls up to the end of the text, each with the session after it, and the session at the
end. Reading goes on after a fault; a defect would end it. -/
def drain (s : Session) (suppression : Suppression) (mode : Mode) :
    List (Outcome × Session) × Session :=
  let call := s.take suppression mode
  if _h : call.1.goesOn = true then
    let later := call.2.drain suppression mode
    (call :: later.1, later.2)
  else if call.1.isFailed then ([call], call.2)
  else ([], call.2)
termination_by s.cursor.rest.length
decreasing_by exact length_rest_take_lt _h

end Session

end Lexing
