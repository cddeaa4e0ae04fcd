import Lexing.Proofs.Gathering

set_option relaxedAutoImplicit false
set_option autoImplicit false

/-!
# Suppression is filtering

A call passes over suppressed characters without a token of their own. This is the same as
reading their tokens and leaving them out, also where every call has a suppression of its own
and where faults lie in between: each call hands out the first item of the unsuppressed run that
it does not hide.

## Main definitions

* `Lexing.Suppression.hides` — the outcomes that a suppression leaves out.
* `Lexing.Session.takeEach` — calls with one suppression each.
* `Lexing.Session.handOut` — the items of a run, handed out under one suppression each.

## Main results

* `Lexing.Session.take_of_hidden`, `Lexing.Session.take_of_shown` — what a suppression changes
  about one call.
* `Lexing.Session.takeEach_eq_handOut` — calls hand out the items of the unsuppressed run.
* `Lexing.Session.drain_eq_filter` — a suppressed run is the unsuppressed run, filtered.
* `Lexing.tokenize_eq_filter` — a suppression leaves out tokens and changes nothing else.
-/

namespace Lexing

open Grammar

/-- Whether a suppression leaves an outcome out: a token of blanks or of a line feed, where it
passes over such characters. -/
def Suppression.hides (suppression : Suppression) : Outcome → Bool
  | .token t =>
    (t.kind == .space && suppression.suppressesBlanks) ||
      (t.kind == .endOfLine && suppression.suppressesLineFeeds)
  | _ => false

/-- The items of a run from the first one that a suppression does not hide. -/
def Suppression.dropHidden (suppression : Suppression) (run : List (Outcome × Session)) :
    List (Outcome × Session) :=
  run.dropWhile fun item => suppression.hides item.1

namespace Session

/-- Calls with one suppression each, one after another: what each comes to, with the session
after it. -/
def takeEach (s : Session) (mode : Mode) : List Suppression → List (Outcome × Session)
  | [] => []
  | suppression :: later =>
    let call := s.take suppression mode
    call :: call.2.takeEach mode later

/-- Hands out the items of a run, one for each suppression: the first item, after those handed
out or left out already, that the suppression does not hide. Where there is none, and from then
on, it is the end of the text. -/
def handOut (last : Session) :
    List Suppression → List (Outcome × Session) → List (Outcome × Session)
  | [], _ => []
  | suppression :: later, run =>
    match suppression.dropHidden run with
    | [] => (.finished, last) :: handOut last later []
    | item :: rest => item :: handOut last later rest

end Session

namespace Suppression

variable {suppression : Suppression} {item : Outcome × Session} {run : List (Outcome × Session)}

/-- A hidden item is dropped. -/
theorem dropHidden_of_hidden (hidden : suppression.hides item.1 = true) :
    suppression.dropHidden (item :: run) = suppression.dropHidden run := by
  simp [dropHidden, hidden]

/-- Nothing is dropped in front of an item that is not hidden. -/
theorem dropHidden_of_shown (shown : suppression.hides item.1 = false) :
    suppression.dropHidden (item :: run) = item :: run := by
  simp [dropHidden, shown]

end Suppression

variable {suppression : Suppression} {mode : Mode} {x : Char} {rest trivia left : Text}

/-! ## Hidden outcomes -/

/-- A lexeme of blanks begins with a blank. -/
theorem Grammar.Lexeme.isBlank_of_space {raw text : Text} (h : Lexeme mode .space raw text)
    (split : x :: rest = raw ++ left) : CharClass.isBlank x = true := by
  cases h with
  | space nonempty blanks =>
    obtain ⟨y, run, rfl⟩ := List.exists_cons_of_ne_nil nonempty
    obtain ⟨rfl, -⟩ := List.cons.inj split
    exact blanks x (List.mem_cons_self ..)

/-- A lexeme that ends a line begins with a line feed. -/
theorem Grammar.Lexeme.isLineFeed_of_endOfLine {raw text : Text}
    (h : Lexeme mode .endOfLine raw text) (split : x :: rest = raw ++ left) :
    CharClass.isLineFeed x = true := by
  cases h with
  | endOfLine =>
    obtain ⟨rfl, -⟩ := List.cons.inj split
    rfl

namespace Cursor

variable {c : Cursor}

/-- A suppression hides what a call comes to if and only if it passes over the character that
the call begins with. -/
theorem hides_pull (suppression : Suppression) (mode : Mode) (split : c.rest = x :: rest) :
    suppression.hides (c.pull .none mode).1 = suppression.suppresses x := by
  rw [pull_none mode split]
  -- a character is a blank, a line feed, or none that any suppression covers
  by_cases blank : CharClass.isBlank x = true
  · obtain ⟨run, left, -, -, found⟩ := recognise_of_isBlank mode rest blank
    have noFeed := CharClass.isLineFeed_of_isBlank blank
    simp [found, settle, Suppression.hides, Suppression.suppresses, blank, noFeed]
  · by_cases feed : CharClass.isLineFeed x = true
    · have found := recognise_of_isLineFeed mode rest feed
      simp [found, settle, Suppression.hides, Suppression.suppresses, blank, feed]
    · have conforms := conforms_recognise mode x rest
      have kept : suppression.suppresses x = false := by
        simp [Suppression.suppresses, blank, feed]
      rw [kept]
      cases found : recognise mode x rest with
      | lexeme kind raw text =>
        rw [found] at conforms
        obtain ⟨lexeme, left, whole, -⟩ := conforms
        have noSpace : kind ≠ .space := by
          rintro rfl
          exact blank (lexeme.isBlank_of_space whole)
        have noEnd : kind ≠ .endOfLine := by
          rintro rfl
          exact feed (lexeme.isLineFeed_of_endOfLine whole)
        simp [settle, Suppression.hides, noSpace, noEnd]
      | fault f lead tail => rfl
      | defect d => rfl

end Cursor

/-- What is recognised at a suppressed character is suppressed as a whole. -/
theorem recognise_suppressed (mode : Mode) (rest : Text)
    (suppressed : suppression.suppresses x = true) :
    ∃ left, x :: rest = (recognise mode x rest).consumed ++ left ∧
      ∀ y ∈ (recognise mode x rest).consumed, suppression.suppresses y = true := by
  simp only [Suppression.suppresses, Bool.or_eq_true, Bool.and_eq_true] at suppressed ⊢
  rcases suppressed with ⟨flag, blank⟩ | ⟨flag, feed⟩
  · obtain ⟨run, left, split, inside, found⟩ := recognise_of_isBlank mode rest blank
    rw [found]
    exact ⟨left, split, fun y hy => .inl ⟨flag, inside y hy⟩⟩
  · rw [recognise_of_isLineFeed mode rest feed]
    obtain rfl : x = '\n' := by simpa [CharClass.isLineFeed] using feed
    refine ⟨rest, rfl, ?_⟩
    intro y hy
    obtain rfl := List.mem_singleton.1 hy
    exact .inr ⟨flag, feed⟩

namespace Session

variable {s next : Session} {o : Outcome}

/-! ## One call -/

/-- What a suppression hides it passes over: a call goes on from behind it.

**Proof sketch.** What is hidden is a token that is suppressed character by character
(`recognise_suppressed`). A call that suppresses these passes over them and stands where the
unsuppressed call ends (`pull_skip`). -/
theorem take_of_hidden (call : s.take .none mode = (o, next))
    (hidden : suppression.hides o = true) :
    s.take suppression mode = next.take suppression mode := by
  cases split : s.cursor.rest with
  | nil =>
    rw [take_of_rest_nil split] at call
    cases call
    cases hidden
  | cons x rest =>
    have suppressed : suppression.suppresses x = true := by
      rw [← Cursor.hides_pull suppression mode split]
      exact congrArg (fun item => suppression.hides item.1) call ▸ hidden
    obtain ⟨left, whole, inside⟩ := recognise_suppressed mode rest suppressed
    have behind := Cursor.pull_skip mode (split.trans whole) inside
    rw [take, Cursor.pull_none mode split] at call
    cases call
    rw [take, take, behind]

/-- What a suppression does not hide it does not change. -/
theorem take_of_shown (call : s.take .none mode = (o, next))
    (shown : suppression.hides o = false) : s.take suppression mode = (o, next) := by
  cases split : s.cursor.rest with
  | nil =>
    rw [take_of_rest_nil split] at call ⊢
    exact call
  | cons x rest =>
    have kept : suppression.suppresses x = false := by
      rw [← Cursor.hides_pull suppression mode split]
      exact congrArg (fun item => suppression.hides item.1) call ▸ shown
    rw [← call, take, take, Cursor.pull_none mode split, Cursor.pull_of_front split kept]

/-! ## Runs -/

/-- **A suppressed run is the unsuppressed run, filtered.** The items that are left, with the
sessions after them, are the same.

**Proof sketch.** Induction along the unsuppressed run. If the first item is hidden, then a
suppressing call from here and one from behind the item are the same (`take_of_hidden`), and the
item is filtered out. If it is shown, then both runs begin with it (`take_of_shown`). -/
theorem drain_eq_filter (s : Session) (suppression : Suppression) (mode : Mode) :
    s.drain suppression mode =
      ((s.drain .none mode).1.filter fun item => !suppression.hides item.1,
        (s.drain .none mode).2) := by
  refine drain_induction (motive := fun s run last => s.drain suppression mode =
    (run.filter fun item => !suppression.hides item.1, last)) ?_ ?_ s
  · intro s next call
    exact drain_of_finished (take_of_shown call rfl)
  · intro s o next run last call goes _ ih
    by_cases hidden : suppression.hides o = true
    · rw [drain_congr (take_of_hidden call hidden), ih,
        List.filter_cons_of_neg (by simp [hidden])]
    · have shown : suppression.hides o = false := Bool.eq_false_iff.2 hidden
      rw [drain_of_goesOn (take_of_shown call shown) goes, ih,
        List.filter_cons_of_pos (by simp [shown])]

/-- One call hands out the first item of the unsuppressed run that is not hidden, and leaves the
items behind it. Where all items are hidden it comes to the end of the text.

**Proof sketch.** Induction along the unsuppressed run: a hidden item is passed over
(`take_of_hidden`), and the first one that is shown is what the call comes to (`take_of_shown`). -/
theorem take_eq_first_shown (s : Session) (suppression : Suppression) (mode : Mode) :
    match suppression.dropHidden (s.drain .none mode).1 with
    | [] =>
      s.take suppression mode = (.finished, (s.drain .none mode).2) ∧
        (s.drain .none mode).2.drain .none mode = ([], (s.drain .none mode).2)
    | item :: rest =>
      s.take suppression mode = item ∧ item.2.drain .none mode = (rest, (s.drain .none mode).2)
    := by
  refine drain_induction (motive := fun s run last =>
    match suppression.dropHidden run with
    | [] => s.take suppression mode = (.finished, last) ∧ last.drain .none mode = ([], last)
    | item :: rest =>
      s.take suppression mode = item ∧ item.2.drain .none mode = (rest, last)) ?_ ?_ s
  · intro s next call
    -- the session at the end of the text is its own last session
    have nothing := rest_of_take_finished call
    rw [take_of_rest_nil nothing] at call
    cases call
    exact ⟨take_of_rest_nil nothing, drain_of_rest_nil nothing⟩
  · intro s o next run last call goes later ih
    by_cases hidden : suppression.hides o = true
    · rw [Suppression.dropHidden_of_hidden hidden, take_of_hidden call hidden]
      exact ih
    · have shown : suppression.hides o = false := Bool.eq_false_iff.2 hidden
      rw [Suppression.dropHidden_of_shown shown]
      exact ⟨take_of_shown call shown, later⟩

/-- **Each call hands out an item of the unsuppressed run.** Whatever suppression each call has,
it hands out the first item that is left and that it does not hide.

**Proof sketch.** Induction on the suppressions. The first call comes to the first item that is
left and not hidden, and what is left behind it is the unsuppressed run from there
(`take_eq_first_shown`). -/
theorem takeEach_eq_handOut (mode : Mode) (suppressions : List Suppression) (s : Session) :
    s.takeEach mode suppressions =
      handOut (s.drain .none mode).2 suppressions (s.drain .none mode).1 := by
  induction suppressions generalizing s with
  | nil => rfl
  | cons suppression later ih =>
    have first := take_eq_first_shown s suppression mode
    rw [takeEach, handOut]
    cases found : suppression.dropHidden (s.drain .none mode).1 with
    | nil =>
      rw [found] at first
      obtain ⟨call, done⟩ := first
      simp only [call, ih, done]
    | cons item rest =>
      rw [found] at first
      obtain ⟨call, left⟩ := first
      simp only [call, ih, left]

end Session

/-! ## Tokens of a text -/

/-- Hidden outcomes are no failures, so leaving them out only leaves out tokens. -/
theorem Outcome.gather_filter (suppression : Suppression) (outcomes : List Outcome) :
    gather (outcomes.filter fun o => !suppression.hides o) =
      (gather outcomes).map fun tokens =>
        tokens.filter fun t => !suppression.hides (.token t) := by
  induction outcomes with
  | nil => rfl
  | cons o later ih =>
    cases o with
    | token t =>
      cases hidden : suppression.hides (.token t) with
      | true =>
        rw [List.filter_cons_of_neg (by simp [hidden]), ih, gather]
        cases gather later <;> simp [Except.map, hidden]
      | false =>
        rw [List.filter_cons_of_pos (by simp [hidden]), gather, ih, gather]
        cases gather later <;> simp [Except.map, hidden]
    | failed failure => rfl
    | finished => exact ih

/-- A suppression leaves tokens out of what a text is made of, and changes nothing else. -/
theorem tokenize_eq_filter (source : Text) (suppression : Suppression) (mode : Mode) :
    tokenize source suppression mode =
      (tokenize source .none mode).map fun tokens =>
        tokens.filter fun t => !suppression.hides (.token t) := by
  rw [tokenize_eq_gather, tokenize_eq_gather, ← Outcome.gather_filter, Session.outcomes,
    Session.drain_eq_filter, Session.outcomes, List.filter_map]
  rfl

/-- **Suppression is filtering.** On every text the items of the unsuppressed run are all there
is to hand out. Calls with a suppression each hand out, one by one, the first item left that
they do not hide, and a run with one suppression is the unsuppressed run without what it hides.
Whether a text has tokens, and which failure it has otherwise, does not depend on the
suppression.

**Proof sketch.** `takeEach_eq_handOut` for calls, `drain_eq_filter` for runs, and
`tokenize_eq_filter` for gathered tokens. As filtering keeps failures, a failure under one
suppression is the failure of the unsuppressed run, and so the failure under any other. -/
theorem suppression_is_filtering (source : Text) (mode : Mode) :
    let s := Session.ofText source
    let run := s.drain .none mode
    (∀ suppressions, s.takeEach mode suppressions = Session.handOut run.2 suppressions run.1) ∧
      (∀ suppression : Suppression, s.drain suppression mode =
        (run.1.filter fun item => !suppression.hides item.1, run.2)) ∧
      (∀ suppression : Suppression, tokenize source suppression mode =
        (tokenize source .none mode).map fun tokens =>
          tokens.filter fun t => !suppression.hides (.token t)) ∧
      ∀ (suppression other : Suppression) (failure : Failure),
        tokenize source suppression mode = .error failure →
          tokenize source other mode = .error failure := by
  refine ⟨?_, ?_, ?_, ?_⟩
  · intro suppressions
    exact Session.takeEach_eq_handOut mode suppressions _
  · intro suppression
    exact Session.drain_eq_filter _ suppression mode
  · intro suppression
    exact tokenize_eq_filter source suppression mode
  · intro suppression other failure failed
    rw [tokenize_eq_filter] at failed ⊢
    cases found : tokenize source .none mode with
    | error first =>
      rw [found] at failed
      exact failed
    | ok tokens =>
      rw [found] at failed
      cases failed

end Lexing
