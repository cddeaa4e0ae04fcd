import Lexing.Proofs.Relocation

set_option relaxedAutoImplicit false
set_option autoImplicit false

/-!
# Composition over line feeds

A text that is accepted can be put, with a line feed, above any other text: its tokens stay what
they are, the line feed becomes a token of its own unless it is suppressed, and the other text is
read as if it stood alone, only further down. No token of the upper text reaches over the line
feed, since every lexeme may stand in front of one.

## Main definitions

* `Lexing.Cursor.extend` — the same place with more text behind what is left.
* `Lexing.joint` — the token of the line feed between two texts.

## Main results

* `Lexing.Cursor.pull_extend_of_token` — a token in front of more text is found as if the text
  ended there.
* `Lexing.Session.outcomes_extend` — a run over an accepted text goes on behind it.
* `Lexing.outcomes_join` — what a run over two texts with a line feed between them comes to.
* `Lexing.tokenize_join` — the tokens of two texts with a line feed between them.
-/

namespace Lexing

open Grammar

variable {suppression : Suppression} {mode : Mode} {more : Text}

/-- A lexeme that may stand in front of a text may also stand in front of this text with more
behind it, if the text is not empty or a line feed comes next. -/
theorem Grammar.MayPrecede.extend {kind : Token.Kind} {raw left : Text}
    (h : MayPrecede mode kind raw left) (ends : left ≠ [] ∨ more.head? = some '\n') :
    MayPrecede mode kind raw (left ++ more) := by
  cases left with
  | nil =>
    obtain ⟨v, rfl⟩ := List.head?_eq_some_iff.1 (ends.resolve_left fun h => h rfl)
    exact mayPrecede_lineFeed v
  | cons x left => exact mayPrecede_cons.2 (mayPrecede_cons.1 h)

/-! ## More text behind -/

namespace Cursor

variable {c d : Cursor} {passed left : Text}

/-- The same place with more text behind what is left. -/
def extend (c : Cursor) (more : Text) : Cursor :=
  { c with rest := c.rest ++ more }

/-- Moves within what was left before are the same moves. -/
theorem skip_extend (split : c.rest = passed ++ left) (more : Text) :
    (c.extend more).skip passed.length = (c.skip passed.length).extend more := by
  have whole : (c.extend more).rest = passed ++ (left ++ more) := by
    rw [extend, split, List.append_assoc]
  rw [skip_length whole, skip_length split]
  rfl

/-- **Tokens end at line feeds.** A token behind which text is left, or in front of a line feed,
is found as if the text ended where it does.

**Proof sketch.** The grammar decides. Its lexeme is still in front and may still be followed by
what comes behind it (`MayPrecede.extend`), and the suppressed run before it still stops there. So
the longer text is read by the same case of the call (`pull_of_lexeme`). -/
theorem pull_extend_of_token {t : Token} (pulls : Pulls suppression mode c (.token t) d)
    (ends : d.rest ≠ [] ∨ more.head? = some '\n') :
    (c.extend more).pull suppression mode = (.token t, d.extend more) := by
  cases pulls with
  | @token kind trivia raw text left split suppressed kept lexeme follows =>
    have whole : (c.extend more).rest = trivia ++ (raw ++ (left ++ more)) := by
      simp [extend, split]
    have joined : c.rest = (trivia ++ raw) ++ left := by rw [split, List.append_assoc trivia]
    -- the suppressed run still stops at the lexeme, which is not empty
    have keptThere : Text.Stops suppression.suppresses (raw ++ (left ++ more)) := by
      rw [← List.append_assoc]
      exact kept.append (List.append_ne_nil_of_left_ne_nil lexeme.ne_nil left) more
    rw [rest_skip_length joined] at ends
    rw [pull_of_lexeme whole suppressed keptThere lexeme (follows.extend ends),
      skip_extend joined]
    rfl

/-- Where a text would be at its end, a call goes on with what comes behind it. -/
theorem pull_extend_of_finished (pulls : Pulls suppression mode c .finished d) (more : Text) :
    (c.extend more).pull suppression mode = (d.extend more).pull suppression mode := by
  cases pulls with
  | finished suppressed =>
    have split : c.rest = c.rest ++ [] := (List.append_nil _).symm
    have whole : (c.extend more).rest = c.rest ++ more := rfl
    rw [← skip_extend split more, pull_skip mode whole suppressed]

end Cursor

namespace Session

variable {s : Session} {tokens : List Token}

/-- The same session with more text behind what is left. -/
def extend (s : Session) (more : Text) : Session := ⟨s.cursor.extend more, none⟩

/-- A call of a session finds the same token with more text behind, if text is left behind the
token or a line feed comes next. -/
theorem take_extend_of_token {next : Session} {t : Token}
    (call : s.take suppression mode = (.token t, next))
    (ends : next.cursor.rest ≠ [] ∨ more.head? = some '\n') :
    (s.extend more).take suppression mode = (.token t, next.extend more) := by
  obtain ⟨d, rfl, pulls⟩ := pulls_of_take call
  have found := Cursor.pull_extend_of_token pulls ends
  simp only [take, extend, found]

/-- **A run goes on behind an accepted text.** With a line feed and more text behind it, an
accepted text gives the tokens that it gives alone, and the run goes on where the text ended.

**Proof sketch.** Induction along the accepted run. At each token the call carries over by
`take_extend_of_token`, for a line feed is in front of what is added. At the end both sides make
the same call from the same place. -/
theorem outcomes_extend
    (accepted : Outcome.gather (s.outcomes suppression mode) = .ok tokens) (v : Text) :
    (s.extend ('\n' :: v)).outcomes suppression mode =
      tokens.map .token ++
        ((s.drain suppression mode).2.extend ('\n' :: v)).outcomes suppression mode := by
  refine accepted_induction (motive := fun s tokens last =>
    (s.extend ('\n' :: v)).outcomes suppression mode =
      tokens.map .token ++ (last.extend ('\n' :: v)).outcomes suppression mode) ?_ ?_ accepted
  · intro s next call
    obtain ⟨d, rfl, pulls⟩ := pulls_of_take call
    have same : (s.extend ('\n' :: v)).take suppression mode =
        (extend ⟨d, none⟩ ('\n' :: v)).take suppression mode := by
      simp only [take, extend, Cursor.pull_extend_of_finished pulls]
    rw [outcomes, drain_congr same]
    rfl
  · intro s t next tokens last call ih
    rw [outcomes_of_goesOn (take_extend_of_token call (.inr rfl)) rfl, ih]
    rfl

/-- A run ends at the end of the text, with an empty slot. -/
theorem drain_last (s : Session) (suppression : Suppression) (mode : Mode) :
    (s.drain suppression mode).2 = ⟨s.cursor.skip s.cursor.rest.length, none⟩ := by
  refine drain_induction (motive := fun s _ last =>
    last = ⟨s.cursor.skip s.cursor.rest.length, none⟩) ?_ ?_ s
  · intro s next call
    obtain ⟨d, rfl, pulls⟩ := pulls_of_take call
    cases pulls with
    | finished suppressed => rfl
  · intro s o next run last call _ _ ih
    obtain ⟨d, rfl, pulls⟩ := pulls_of_take call
    obtain ⟨used, left, split, rfl, -⟩ := pulls.exists_used
    rw [ih, Cursor.rest_skip_length split, split, List.length_append, Cursor.skip_add]

end Session

/-! ## The line feed between two texts -/

/-- The token of the line feed behind a text, unless it is suppressed: it lies at the end of the
text. -/
def joint (u : Text) (suppression : Suppression) : List Token :=
  if suppression.suppressesLineFeeds then []
  else
    [⟨.endOfLine, ['\n'], ⟨Text.byteLength u, Text.byteLength u + 1,
      (Position.start.after u).line, (Position.start.after u).column⟩⟩]

/-- The line feed is suppressed by one of the flags, and it is no blank. -/
theorem Suppression.suppresses_lineFeed (suppression : Suppression) :
    suppression.suppresses '\n' = suppression.suppressesLineFeeds := by
  have blank : CharClass.isBlank '\n' = false := rfl
  have feed : CharClass.isLineFeed '\n' = true := rfl
  rw [suppresses, blank, feed, Bool.and_false, Bool.false_or, Bool.and_true]

namespace Position

/-- A line feed leads to the start of the next line. -/
theorem advance_lineFeed (p : Position) :
    p.advance '\n' = ⟨p.line + 1, 0, p.offset + 1, p.byte + 1⟩ := rfl

/-- The start of the line below a text. -/
def below (u : Text) : Position :=
  ⟨u.countP CharClass.isLineFeed + 1, 0, u.length + 1, Text.byteLength u + 1⟩

/-- The way past a text and a line feed leads to the start of the line below. -/
theorem advance_start_after (u : Text) : (start.after u).advance '\n' = below u := by
  rw [start_after, advance_lineFeed]
  rfl

/-- Below a text every column stays. -/
theorem columnWithin_below (u : Text) (line column : Nat) :
    (below u).columnWithin line column = column := by
  by_cases first : line = 0
  · rw [columnWithin, if_pos first]
    exact Nat.zero_add column
  · rw [columnWithin, if_neg first]

end Position

/-- A token of a text that stands below another one: it lies further down by the lines and bytes
of the upper text and of the line feed between them. Kind, text and column stay. -/
def Token.below (u : Text) (t : Token) : Token :=
  ⟨t.kind, t.text, ⟨t.span.start + (Text.byteLength u + 1), t.span.stop + (Text.byteLength u + 1),
    t.span.line + (u.countP CharClass.isLineFeed + 1), t.span.column⟩⟩

/-- Within the whole a token of the lower text lies further down, in the same column. -/
theorem Token.within_below (u : Text) (t : Token) : t.within (.below u) = t.below u := by
  simp only [within, Span.within, Position.columnWithin_below]
  simp only [below, Position.below, Nat.add_comm]

namespace Session

/-- The session in front of the line feed between two texts. -/
def atJoint (u v : Text) : Session := ⟨⟨u.reverse, '\n' :: v, Position.start.after u⟩, none⟩

/-- The session behind the line feed between two texts. -/
def belowJoint (u v : Text) : Session :=
  ⟨⟨'\n' :: u.reverse, v, (Position.start.after u).advance '\n'⟩, none⟩

/-- A run over the upper text leads to the line feed. -/
theorem extend_drain_last (u v : Text) (suppression : Suppression) (mode : Mode) :
    ((ofText u).drain suppression mode).2.extend ('\n' :: v) = atJoint u v := by
  have split : (ofText u).cursor.rest = u ++ [] := (List.append_nil u).symm
  have last : (ofText u).cursor.skip u.length = ⟨u.reverse, [], Position.start.after u⟩ := by
    rw [Cursor.skip_length split]
    simp [ofText, Cursor.ofText]
  rw [drain_last]
  exact congrArg (fun c => extend ⟨c, none⟩ ('\n' :: v)) last

/-- The line feed is passed over, or it is a token of its own; then comes the lower text. -/
theorem outcomes_atJoint (u v : Text) (suppression : Suppression) (mode : Mode) :
    (atJoint u v).outcomes suppression mode =
      (joint u suppression).map .token ++ (belowJoint u v).outcomes suppression mode := by
  by_cases flag : suppression.suppressesLineFeeds = true
  · have passed : (belowJoint u v).cursor.pull suppression mode =
        (atJoint u v).cursor.pull suppression mode := by
      have split : (atJoint u v).cursor.rest = ['\n'] ++ v := rfl
      have suppressed : ∀ y ∈ ['\n'], suppression.suppresses y = true := by
        intro y hy
        rw [List.mem_singleton.1 hy, suppression.suppresses_lineFeed]
        exact flag
      exact Cursor.pull_skip mode split suppressed
    have same : (atJoint u v).take suppression mode = (belowJoint u v).take suppression mode := by
      simp only [take, passed]
    rw [joint, if_pos flag, outcomes, drain_congr same]
    rfl
  · have kept : suppression.suppresses '\n' = false := by
      rw [suppression.suppresses_lineFeed]
      exact Bool.eq_false_iff.2 flag
    have taken : (atJoint u v).take suppression mode =
        (.token ⟨.endOfLine, ['\n'], ⟨Text.byteLength u, Text.byteLength u + 1,
          (Position.start.after u).line, (Position.start.after u).column⟩⟩, belowJoint u v) := by
      have split : (atJoint u v).cursor.rest = '\n' :: v := rfl
      have byte : (Position.start.after u).byte = Text.byteLength u := by
        rw [Position.start_after, Position.behind]
      rw [take, Cursor.pull_of_front split kept, recognise_of_isLineFeed mode v rfl, ← byte]
      rfl
    rw [outcomes_of_goesOn taken rfl, joint, if_neg flag]
    rfl

/-- Behind the line feed there is the lower text, within the whole. -/
theorem within_belowJoint (u v : Text) :
    Cursor.Within (.below u) (ofText v).cursor (belowJoint u v).cursor := by
  refine ⟨rfl, ?_⟩
  show (Position.start.after u).advance '\n' = Position.within (.below u) .start
  rw [Position.advance_start_after, Position.within_start]

end Session

/-! ## Two texts -/

/-- **A run over two texts.** Behind an accepted text and a line feed, everything that a run over
the lower text comes to, faults included, comes as it would alone, only further down.

**Proof sketch.** The run over the whole text is that of the upper text, and then goes on in front
of the line feed (`outcomes_extend`). There it comes to the line feed, unless it is suppressed
(`outcomes_atJoint`). Behind it the session stands within the whole text as at the start of the
lower one (`within_belowJoint`), so that `outcomes_of_within` gives the rest. -/
theorem outcomes_join {u : Text} {tokens : List Token}
    (accepted : tokenize u suppression mode = .ok tokens) (v : Text) :
    (Session.ofText (u ++ '\n' :: v)).outcomes suppression mode =
      (tokens ++ joint u suppression).map .token ++
        ((Session.ofText v).outcomes suppression mode).map
          (Outcome.within (u ++ '\n' :: v) (.below u)) := by
  rw [tokenize_eq_gather] at accepted
  have whole : (Session.belowJoint u v).source = u ++ '\n' :: v := by
    simp [Session.belowJoint, Session.source, Cursor.source]
  have upper := Session.outcomes_extend accepted v
  rw [Session.extend_drain_last, Session.outcomes_atJoint,
    Session.outcomes_of_within (Session.within_belowJoint u v), whole] at upper
  rw [List.map_append, List.append_assoc]
  exact upper

/-- **Tokens compose over line feeds.** If a text is accepted, then with a line feed and another
text below it its tokens are unchanged. After them comes the token of the line feed, unless it is
suppressed, and then what the other text comes to alone, further down by the lines and bytes of
the upper text and the line feed. If the other text has a fault, then the whole has the same
fault, with the same wording, at the same column and as many lines further down.

**Proof sketch.** Gather both sides of `outcomes_join`: gathering takes the tokens of the upper
text out in front (`gather_append`) and commutes with moving down (`gather_within`). The two cases
of the lower text are read off, and the line and the column of a fault are those of
`columnWithin_below`. -/
theorem tokenize_join (u v : Text) (suppression : Suppression) (mode : Mode)
    (tokens : List Token) (accepted : tokenize u suppression mode = .ok tokens) :
    (Session.ofText (u ++ '\n' :: v)).outcomes suppression mode =
        (tokens ++ joint u suppression).map .token ++
          ((Session.ofText v).outcomes suppression mode).map
            (Outcome.within (u ++ '\n' :: v) (.below u)) ∧
      (∀ others, tokenize v suppression mode = .ok others →
        tokenize (u ++ '\n' :: v) suppression mode =
          .ok (tokens ++ joint u suppression ++ others.map (Token.below u))) ∧
      ∀ failure, tokenize v suppression mode = .error failure →
        ∃ report moved, failure = .fault report ∧
          tokenize (u ++ '\n' :: v) suppression mode = .error (.fault moved) ∧
          moved.fault = report.fault ∧ moved.message = report.message ∧
          moved.column = report.column ∧
          moved.line = report.line + (u.countP CharClass.isLineFeed + 1) := by
  have outcomes := outcomes_join accepted v
  have gathered : tokenize (u ++ '\n' :: v) suppression mode =
      (((tokenize v suppression mode).map (List.map (Token.within (.below u)))).mapError
        (Failure.within (u ++ '\n' :: v) (.below u))).map
          (tokens ++ joint u suppression ++ ·) := by
    rw [tokenize_eq_gather, tokenize_eq_gather, outcomes, Outcome.gather_append,
      Outcome.gather_within]
  refine ⟨outcomes, ?_, ?_⟩
  · intro others acceptedBelow
    have placed : others.map (Token.within (.below u)) = others.map (Token.below u) :=
      List.map_congr_left fun t _ => t.within_below u
    rw [gathered, acceptedBelow, ← placed]
    rfl
  · intro failure failedBelow
    obtain ⟨report, rfl⟩ : ∃ report, failure = .fault report := by
      rw [tokenize_eq_gather] at failedBelow
      exact Session.exists_report failedBelow
    refine ⟨report, report.within (u ++ '\n' :: v) (.below u), rfl, ?_, rfl, rfl, ?_, ?_⟩
    · rw [gathered, failedBelow]
      rfl
    · exact Position.columnWithin_below u report.line report.column
    · exact Nat.add_comm _ report.line

/-- Two words in two lines: the second one lies a line and two bytes further down. -/
theorem tokenize_join_words :
    tokenize ['a'] .none .full = .ok [⟨.identifier, ['a'], ⟨0, 1, 0, 0⟩⟩] ∧
      tokenize ['a', '\n', 'b'] .none .full =
        .ok [⟨.identifier, ['a'], ⟨0, 1, 0, 0⟩⟩, ⟨.endOfLine, ['\n'], ⟨1, 2, 0, 1⟩⟩,
          ⟨.identifier, ['b'], ⟨2, 3, 1, 0⟩⟩] := by
  have upper : tokenize ['a'] .none .full = .ok [⟨.identifier, ['a'], ⟨0, 1, 0, 0⟩⟩] :=
    tokenize_of_lexeme (.identifier rfl (by simp))
  have lower : tokenize ['b'] .none .full = .ok [⟨.identifier, ['b'], ⟨0, 1, 0, 0⟩⟩] :=
    tokenize_of_lexeme (.identifier rfl (by simp))
  exact ⟨upper, (tokenize_join ['a'] ['b'] .none .full _ upper).2.1 _ lower⟩

end Lexing
