import Lexing.Proofs.Found
import Lexing.Proofs.Gathering
import Mathlib.Data.List.Forall2

set_option relaxedAutoImplicit false
set_option autoImplicit false

/-!
# Lexemes in other surroundings

What a token says depends on its lexeme alone. Cut out of its text and read by itself, the lexeme
is the same token once more, and then the text is at its end. The lexemes of an accepted text may
also be laid out anew, with other blanks and line feeds between them: as long as a line feed ends
each lexeme, the tokens say the same.

## Main definitions

* `Lexing.Token.alone`, `Lexing.Session.atEnd` — a token whose lexeme is the whole text, and a
  session behind it.
* `Lexing.Token.StandsAlone` — read by itself, a lexeme is the token and nothing else.
* `Lexing.Token.content` — what a token says, wherever it lies.
* `Lexing.layOut` — stretches of text with gaps in front, between and behind.
* `Lexing.Session.LaidOut` — a text is laid out with the lexemes of tokens.
* `Lexing.KeepApart` — gaps that end every lexeme by a line feed.

## Main results

* `Lexing.Session.Finds.standsAlone` — a lexeme by itself is the token that it was cut out of.
* `Lexing.Session.exists_laidOut` — an accepted text is laid out with the lexemes of its tokens.
* `Lexing.Session.gather_layOut` — lexemes that are kept apart are read one by one.
* `Lexing.tokenize_layOut` — the tokens of lexemes that are laid out anew say the same.
-/

namespace Lexing

open Grammar

variable {suppression : Suppression} {mode : Mode}

/-! ## One lexeme by itself -/

/-- The token whose lexeme is a whole text. -/
def Token.alone (t : Token) (raw : Text) : Token :=
  ⟨t.kind, t.text, ⟨0, Text.byteLength raw, 0, 0⟩⟩

/-- A session behind a whole text. -/
def Session.atEnd (raw : Text) (held : Option Token) : Session :=
  ⟨(Cursor.ofText raw).skip raw.length, held⟩

/-- Read by itself with nothing suppressed, a lexeme is the token and nothing else: the first call
of any kind comes to it, and every further call comes to the end of the text. -/
structure Token.StandsAlone (mode : Mode) (raw : Text) (t : Token) : Prop where
  take : (Session.ofText raw).take .none mode = (.token (t.alone raw), .atEnd raw none)
  next : (Session.ofText raw).next .none mode =
    (.token (t.alone raw), .atEnd raw (some (t.alone raw)))
  takeAgain : ∀ held, (Session.atEnd raw held).take .none mode = (.finished, .atEnd raw none)
  nextAgain : ∀ held, (Session.atEnd raw held).next .none mode = (.finished, .atEnd raw none)
  tokenize : Lexing.tokenize raw .none mode = .ok [t.alone raw]

/-- A lexeme of the grammar stands alone: the end of the text may follow it, whatever followed
it elsewhere. -/
theorem Token.standsAlone_of_lexeme {raw : Text} {t : Token}
    (lexeme : Lexeme mode t.kind raw t.text) : t.StandsAlone mode raw := by
  have first : (Cursor.ofText raw).pull .none mode =
      (.token (t.alone raw), (Cursor.ofText raw).skip raw.length) :=
    Cursor.pull_ofText_of_lexeme lexeme
  have again : ((Cursor.ofText raw).skip raw.length).pull .none mode =
      (.finished, (Cursor.ofText raw).skip raw.length) :=
    Cursor.pull_of_nothing (Cursor.rest_skip_ofText raw)
  refine ⟨?_, ?_, ?_, ?_, tokenize_of_lexeme lexeme⟩
  · simp only [Session.take, Session.ofText, first, Session.atEnd]
  · simp only [Session.next, Session.ofText, first, Session.atEnd, Outcome.token?]
  · intro held
    simp only [Session.take, Session.atEnd, again]
  · intro held
    simp only [Session.next, Session.atEnd, again, Outcome.token?]

namespace Session

/-- **A lexeme by itself is its token.** Whatever calls have found a token, in whatever state, its
lexeme can be cut out of the text. Read by itself in the mode of the call that found it, the lexeme
is a token of the same kind and text that spans all of it, and then the text is at its end.

**Proof sketch.** The lexeme of a token that was found is one of the grammar (`exists_standsIn`).
With nothing behind it, it may stand where it does, and so it is what a call comes to
(`standsAlone_of_lexeme`). -/
theorem Finds.standsAlone {source : Text} {t : Token} {later : Session}
    (found : (ofText source).Finds mode t later) :
    ∃ raw, later.lexeme? t.span = some raw ∧ t.StandsAlone mode raw := by
  obtain ⟨raw, stands, cut⟩ := found.exists_standsIn
  exact ⟨raw, cut, Token.standsAlone_of_lexeme stands.lexeme⟩

/-- Behind a fault, a minus sign in front of a letter is an operator, and so it is by itself. -/
theorem Finds.standsAlone_minus :
    (ofText ['0', 'x', '-', 'a']).Finds .full ⟨.operator, ['-'], ⟨2, 3, 0, 2⟩⟩
        ⟨⟨['-', 'x', '0'], ['a'], ⟨0, 3, 3, 3⟩⟩, none⟩ ∧
      ∃ raw, lexeme? ⟨⟨['-', 'x', '0'], ['a'], ⟨0, 3, 3, 3⟩⟩, none⟩ ⟨2, 3, 0, 2⟩ = some raw ∧
        Token.StandsAlone .full raw ⟨.operator, ['-'], ⟨2, 3, 0, 2⟩⟩ := by
  have fault : (ofText ['0', 'x', '-', 'a']).take .none .full =
      (.failed (.fault (.ofPlace .missingHexDigits ['0', 'x', '-', 'a'] 0 2)),
        ⟨⟨['x', '0'], ['-', 'a'], ⟨0, 2, 2, 2⟩⟩, none⟩) := by decide +kernel
  have call : take ⟨⟨['x', '0'], ['-', 'a'], ⟨0, 2, 2, 2⟩⟩, none⟩ .all .full =
      (.token ⟨.operator, ['-'], ⟨2, 3, 0, 2⟩⟩,
        ⟨⟨['-', 'x', '0'], ['a'], ⟨0, 3, 3, 3⟩⟩, none⟩) := by decide +kernel
  have found : (ofText ['0', 'x', '-', 'a']).Finds .full ⟨.operator, ['-'], ⟨2, 3, 0, 2⟩⟩
      ⟨⟨['-', 'x', '0'], ['a'], ⟨0, 3, 3, 3⟩⟩, none⟩ :=
    ⟨_, _, .single ⟨_, .take fault⟩, .take call, .refl⟩
  exact ⟨found, found.standsAlone⟩

end Session

/-! ## Layouts -/

/-- What a token says, wherever it lies: its kind, its text, and the string that it stands for. -/
def Token.content (t : Token) : Token.Kind × Text × Option Text :=
  (t.kind, t.text, t.stringValue?)

/-- Tokens of the same kind and text say the same. -/
theorem Token.content_eq {t u : Token} (kind : t.kind = u.kind) (text : t.text = u.text) :
    t.content = u.content := by
  simp only [content, stringValue?, kind, text]

/-- Stretches of text with a gap in front of all of them, and one behind each. -/
def layOut (lead : Text) : (raws gaps : List Text) → Text
  | raw :: raws, gap :: gaps => lead ++ (raw ++ layOut gap raws gaps)
  | _, _ => lead

/-- With no gaps the stretches stand side by side. -/
theorem layOut_of_nil {lead : Text} {raws gaps : List Text} (many : gaps.length = raws.length)
    (empty : ∀ gap ∈ lead :: gaps, gap = []) : layOut lead raws gaps = raws.flatten := by
  have none : lead = [] := empty lead (List.mem_cons_self ..)
  induction raws generalizing lead gaps with
  | nil =>
    rw [layOut, none]
    · rfl
    · simp
  | cons raw raws ih =>
    obtain ⟨gap, gaps, rfl⟩ := List.exists_cons_of_length_eq_add_one many
    rw [layOut, none, ih (by simpa using many) (fun gap h => empty gap (List.mem_cons_of_mem _ h))
      (empty gap (by simp))]
    rfl

/-- Gaps that keep lexemes apart. They are made of blanks and line feeds, each gap between two
lexemes begins with a line feed, and so does the last one unless it is empty. -/
structure KeepApart (lead : Text) (gaps : List Text) : Prop where
  trivia : ∀ gap ∈ lead :: gaps, ∀ x ∈ gap,
    CharClass.isBlank x = true ∨ CharClass.isLineFeed x = true
  between : ∀ gap ∈ gaps.dropLast, gap.head? = some '\n'
  last : ∀ gap, gaps.getLast? = some gap → gap = [] ∨ gap.head? = some '\n'

namespace KeepApart

variable {lead gap : Text} {gaps raws : List Text}

/-- Behind the first lexeme the gap there is the first one. -/
theorem tail (apart : KeepApart lead (gap :: gaps)) : KeepApart gap gaps := by
  refine ⟨fun other h => apart.trivia other (List.mem_cons_of_mem _ h), ?_, ?_⟩
  · intro other h
    apply apart.between
    cases gaps with
    | nil => cases h
    | cons first gaps => exact List.mem_cons_of_mem _ h
  · intro other h
    apply apart.last
    cases gaps with
    | nil => cases h
    | cons first gaps => simpa using h

/-- What stands behind a lexeme is nothing, or it begins with a line feed. -/
theorem ends (apart : KeepApart lead (gap :: gaps)) (many : gaps.length = raws.length) :
    layOut gap raws gaps = [] ∨ ∃ left, layOut gap raws gaps = '\n' :: left := by
  cases gaps with
  | nil =>
    obtain rfl : raws = [] := List.eq_nil_of_length_eq_zero many.symm
    rcases apart.last gap rfl with empty | feed
    · exact .inl empty
    · exact .inr (List.head?_eq_some_iff.1 feed)
  | cons other gaps =>
    obtain ⟨raw, raws, rfl⟩ := List.exists_cons_of_length_eq_add_one many.symm
    have feed : gap.head? = some '\n' := apart.between gap (List.mem_cons_self ..)
    obtain ⟨left, rfl⟩ := List.head?_eq_some_iff.1 feed
    exact .inr ⟨_, rfl⟩

/-- Every lexeme may stand in front of such a gap. -/
theorem mayPrecede {kind : Token.Kind} {raw : Text} (apart : KeepApart lead (gap :: gaps))
    (many : gaps.length = raws.length) : MayPrecede mode kind raw (layOut gap raws gaps) := by
  rcases apart.ends many with empty | ⟨left, feed⟩
  · rw [empty]
    exact mayPrecede_nil
  · rw [feed]
    exact mayPrecede_lineFeed left

/-- Where blanks and line feeds are suppressed, the first gap is. -/
theorem suppressed (apart : KeepApart lead gaps) :
    ∀ x ∈ lead, Suppression.all.suppresses x = true := by
  intro x h
  rcases apart.trivia lead (List.mem_cons_self ..) x h with blank | feed
  · exact Bool.or_eq_true_iff.2 (.inl blank)
  · exact Bool.or_eq_true_iff.2 (.inr feed)

end KeepApart

namespace Session

variable {s : Session} {tokens : List Token} {raws : List Text}

/-- What is left of the text of a session is the lexemes of tokens, laid out with suppressed
characters in the gaps. No lexeme begins with a suppressed character. -/
structure LaidOut (suppression : Suppression) (mode : Mode) (s : Session) (tokens : List Token)
    (lead : Text) (raws gaps : List Text) : Prop where
  rest : s.cursor.rest = layOut lead raws gaps
  many : gaps.length = raws.length
  suppressed : ∀ gap ∈ lead :: gaps, ∀ x ∈ gap, suppression.suppresses x = true
  lexemes : List.Forall₂ (fun t raw =>
    t.StandsIn mode s.source raw ∧ Text.Stops suppression.suppresses raw) tokens raws

/-- One more token in front is one more lexeme in the layout. -/
theorem LaidOut.of_take {next : Session} {t : Token} {lead : Text} {gaps : List Text}
    (placed : s.cursor.Placed) (call : s.take suppression mode = (.token t, next))
    (laid : next.LaidOut suppression mode tokens lead raws gaps) :
    ∃ trivia raw, s.LaidOut suppression mode (t :: tokens) trivia (raw :: raws) (lead :: gaps) := by
  have source : next.source = s.source := source_of_take call
  obtain ⟨d, rfl, pulls⟩ := pulls_of_take call
  obtain ⟨trivia, raw, stands, split, before, kept⟩ := pulls.exists_standsIn placed
  refine ⟨trivia, raw, ?_, by simp [laid.many], ?_, ?_⟩
  · rw [split, laid.rest]
    rfl
  · intro gap h
    rcases List.mem_cons.1 h with rfl | h
    · exact before
    · exact laid.suppressed gap h
  · have later := laid.lexemes
    rw [source] at later
    exact .cons ⟨stands, kept.of_append⟩ later

/-- **An accepted text is laid out** with the lexemes of its tokens.

**Proof sketch.** Induction along the accepted run. At its end all text that is left is suppressed,
and is the lead of a layout without lexemes. Before that, the text that a call uses up is put in
front (`LaidOut.of_take`). -/
theorem exists_laidOut (placed : s.cursor.Placed)
    (accepted : Outcome.gather (s.outcomes suppression mode) = .ok tokens) :
    ∃ lead raws gaps, s.LaidOut suppression mode tokens lead raws gaps := by
  refine accepted_induction (motive := fun s tokens _ => s.cursor.Placed →
    ∃ lead raws gaps, s.LaidOut suppression mode tokens lead raws gaps) ?_ ?_ accepted placed
  · intro s next call _
    obtain ⟨d, -, pulls⟩ := pulls_of_take call
    cases pulls with
    | finished suppressed =>
      exact ⟨s.cursor.rest, [], [], rfl, rfl, by simpa using suppressed, .nil⟩
  · intro s t next tokens last call ih placed
    obtain ⟨lead, raws, gaps, laid⟩ := ih (placed_of_take placed call)
    obtain ⟨trivia, raw, laidHere⟩ := laid.of_take placed call
    exact ⟨trivia, raw :: raws, lead :: gaps, laidHere⟩

/-- **Lexemes that are kept apart are read one by one.** The tokens say what the lexemes say in the
grammar, whatever the gaps between them are.

**Proof sketch.** Induction on the lexemes. The lead is suppressed, the lexeme behind it stops the
suppressed run, and as the gap keeps it apart from the next one it may stand where it does
(`KeepApart.mayPrecede`). So it is the token of the next call. -/
theorem gather_layOut {lead : Text} {gaps : List Text}
    (lexemes : List.Forall₂ (fun t raw => Lexeme mode t.kind raw t.text ∧
      Text.Stops Suppression.all.suppresses raw) tokens raws)
    (many : gaps.length = raws.length) (apart : KeepApart lead gaps)
    (rest : s.cursor.rest = layOut lead raws gaps) :
    ∃ others, Outcome.gather (s.outcomes .all mode) = .ok others ∧
      others.map Token.content = tokens.map Token.content := by
  induction lexemes generalizing s lead gaps with
  | nil =>
    obtain rfl : gaps = [] := List.eq_nil_of_length_eq_zero many
    have left : s.cursor.rest = lead := rest
    have call : s.take .all mode = (.finished, ⟨s.cursor.skip s.cursor.rest.length, none⟩) := by
      rw [take, Cursor.pull_of_suppressed (left ▸ apart.suppressed)]
    rw [outcomes_of_finished call]
    exact ⟨[], rfl, rfl⟩
  | @cons t raw tokens raws lexeme _ ih =>
    obtain ⟨gap, gaps, rfl⟩ := List.exists_cons_of_length_eq_add_one many
    have manyLater : gaps.length = raws.length := Nat.succ.inj many
    have split : s.cursor.rest = lead ++ (raw ++ layOut gap raws gaps) := rest
    have joined : s.cursor.rest = (lead ++ raw) ++ layOut gap raws gaps := by
      rw [split, List.append_assoc]
    have kept : Text.Stops Suppression.all.suppresses (raw ++ layOut gap raws gaps) :=
      lexeme.2.append lexeme.1.ne_nil _
    have call : s.take .all mode =
        (.token ⟨t.kind, t.text, .between (s.cursor.position.after lead)
          (s.cursor.position.after (lead ++ raw))⟩,
          ⟨s.cursor.skip (lead ++ raw).length, none⟩) := by
      rw [take, Cursor.pull_of_lexeme split apart.suppressed kept lexeme.1
        (apart.mayPrecede manyLater)]
    have behind : (s.cursor.skip (lead ++ raw).length).rest = layOut gap raws gaps :=
      Cursor.rest_skip_length joined
    -- the gap behind this lexeme is the lead of the layout that is left
    obtain ⟨others, gathered, same⟩ :=
      ih (s := ⟨s.cursor.skip (lead ++ raw).length, none⟩) manyLater apart.tail behind
    rw [outcomes_of_goesOn call rfl, Outcome.gather, gathered]
    refine ⟨_, rfl, ?_⟩
    rw [List.map_cons, List.map_cons, same]
    exact congrArg (· :: _) (Token.content_eq rfl rfl)

/-- The lexemes of tokens are what their spans cut out of the text. -/
theorem map_lexeme?_of_standsIn {source : Text}
    (stand : List.Forall₂ (fun t raw => t.StandsIn mode source raw) tokens raws) :
    tokens.map (fun t => (ofText source).lexeme? t.span) = raws.map some := by
  rw [← List.forall₂_eq_eq_eq, List.forall₂_map_left_iff, List.forall₂_map_right_iff]
  exact stand.imp fun t raw stands => stands.slice

end Session

/-- **Layout does not matter.** If a text is accepted with blanks and line feeds suppressed, then
the lexemes of its tokens can be cut out of it. Laid out anew with gaps that keep them apart they
are accepted again, in the same mode, and the tokens are as many and say the same in the same
order.

**Proof sketch.** `exists_laidOut` cuts the accepted text into lexemes and gaps. The lexemes are
read again with any gaps that keep them apart (`gather_layOut`). -/
theorem tokenize_layOut {source : Text} {tokens : List Token}
    (accepted : tokenize source .all mode = .ok tokens) :
    ∃ raws, tokens.map (fun t => (Session.ofText source).lexeme? t.span) = raws.map some ∧
      ∀ lead gaps, gaps.length = tokens.length → KeepApart lead gaps →
        ∃ others, tokenize (layOut lead raws gaps) .all mode = .ok others ∧
          others.length = tokens.length ∧
          others.map Token.content = tokens.map Token.content := by
  have placed : (Session.ofText source).cursor.Placed := Cursor.placed_ofText source
  rw [tokenize_eq_gather] at accepted
  obtain ⟨_, raws, _, laid⟩ := Session.exists_laidOut placed accepted
  have lexemes := laid.lexemes
  refine ⟨raws, Session.map_lexeme?_of_standsIn (lexemes.imp fun t raw h => h.1), ?_⟩
  intro lead gaps many apart
  -- that the lexemes stood in this text is no longer needed, only what the grammar says of them
  have grammatical := lexemes.imp fun t raw h => And.intro h.1.lexeme h.2
  rw [lexemes.length_eq] at many
  obtain ⟨others, gathered, same⟩ :=
    Session.gather_layOut (s := .ofText (layOut lead raws gaps)) grammatical many apart rfl
  refine ⟨others, ?_, ?_, same⟩
  · rw [tokenize_eq_gather]
    exact gathered
  · simpa using congrArg List.length same

/-- A string with an escape, a negative number and a comment, each put on a line of its own. -/
theorem tokenize_layOut_lines :
    tokenize ['"', '\\', 't', '"', '-', '1', ' ', '/', '/', 'c'] .all .full =
        .ok [⟨.stringLiteral, ['"', '\t', '"'], ⟨0, 4, 0, 0⟩⟩,
          ⟨.integer, ['-', '1'], ⟨4, 6, 0, 4⟩⟩, ⟨.lineComment, ['/', '/', 'c'], ⟨7, 10, 0, 7⟩⟩] ∧
      KeepApart [' '] [['\n', '\t'], ['\n'], []] ∧
      ∃ others,
        tokenize [' ', '"', '\\', 't', '"', '\n', '\t', '-', '1', '\n', '/', '/', 'c'] .all .full =
          .ok others ∧ others.length = 3 ∧
        others.map Token.content =
          [(.stringLiteral, ['"', '\t', '"'], some ['\t']), (.integer, ['-', '1'], none),
            (.lineComment, ['/', '/', 'c'], none)] := by
  have accepted : tokenize ['"', '\\', 't', '"', '-', '1', ' ', '/', '/', 'c'] .all .full =
      .ok [⟨.stringLiteral, ['"', '\t', '"'], ⟨0, 4, 0, 0⟩⟩,
        ⟨.integer, ['-', '1'], ⟨4, 6, 0, 4⟩⟩, ⟨.lineComment, ['/', '/', 'c'], ⟨7, 10, 0, 7⟩⟩] := by
    decide +kernel
  have apart : KeepApart [' '] [['\n', '\t'], ['\n'], []] := by
    refine ⟨?_, by simp, by simp⟩
    simp [CharClass.isBlank, CharClass.isLineFeed]
  obtain ⟨raws, cut, relaid⟩ := tokenize_layOut accepted
  have lexemes : raws = [['"', '\\', 't', '"'], ['-', '1'], ['/', '/', 'c']] := by
    apply List.map_injective_iff.2 fun _ _ => Option.some.inj
    exact cut.symm
  subst lexemes
  exact ⟨accepted, apart, relaid _ _ rfl apart⟩

end Lexing
