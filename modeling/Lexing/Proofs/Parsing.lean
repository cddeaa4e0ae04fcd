import Lexing.Proofs.Gathering

set_option relaxedAutoImplicit false
set_option autoImplicit false

/-!
# Tokens and parses

With nothing suppressed, a text is accepted if and only if it is a concatenation of lexemes, each
of which may stand in front of what follows it. There is at most one way to cut it up so, and
the tokens are its pieces.

## Main definitions

* `Lexing.Session.cutOut` — the kinds of tokens and the stretches of source text they stand for.
* `Lexing.Grammar.pieces` — the kinds and stretches of a parse.

## Main results

* `Lexing.Grammar.Lexeme.unique` — at the front of a text there is at most one lexeme.
* `Lexing.Grammar.Parse.unique` — a text has at most one parse.
* `Lexing.Session.exists_parse` — the tokens that are gathered are the pieces of a parse.
* `Lexing.Session.gather_of_parse` — what has a parse is gathered without a failure.
* `Lexing.tokenize_accepts_exactly_parses` — acceptance is having a parse.
-/

namespace Lexing

open Grammar

namespace Grammar

variable {mode : Mode} {kind otherKind : Token.Kind}
  {input raw otherRaw text otherText left otherLeft : Text}
  {parts others : List (Token.Kind × Text)}

/-! ## Parses are unique -/

/-- At the front of a text there is at most one lexeme that may stand in front of what follows
it. -/
theorem Lexeme.unique (lexeme : Lexeme mode kind raw text) (follows : MayPrecede mode kind raw left)
    (other : Lexeme mode otherKind otherRaw otherText)
    (otherFollows : MayPrecede mode otherKind otherRaw otherLeft)
    (same : raw ++ left = otherRaw ++ otherLeft) :
    kind = otherKind ∧ raw = otherRaw ∧ text = otherText ∧ left = otherLeft := by
  obtain ⟨c, tail, rfl⟩ := List.exists_cons_of_ne_nil lexeme.ne_nil
  -- both are what is recognised, and that is only one reading
  have found : recognise mode c (tail ++ left) = .lexeme kind (c :: tail) text :=
    recognise_of_lexeme lexeme follows rfl
  have otherFound : recognise mode c (tail ++ left) = .lexeme otherKind otherRaw otherText :=
    recognise_of_lexeme other otherFollows same
  rw [found] at otherFound
  obtain ⟨rfl, rfl, rfl⟩ := Reading.lexeme.inj otherFound
  exact ⟨rfl, rfl, rfl, List.append_cancel_left same⟩

/-- A parse is empty, or it is a lexeme in front of the parse of what follows it. -/
theorem Parse.nil_or_cons (parse : Parse mode input parts) :
    (input = [] ∧ parts = []) ∨
      ∃ kind raw text left later, input = raw ++ left ∧ parts = (kind, raw) :: later ∧
        Lexeme mode kind raw text ∧ MayPrecede mode kind raw left ∧ Parse mode left later := by
  cases parse with
  | nil => exact .inl ⟨rfl, rfl⟩
  | cons lexeme follows rest =>
    exact .inr ⟨_, _, _, _, _, rfl, rfl, lexeme, follows, rest⟩

/-- **Parses are unique.** A text can be cut into lexemes in at most one way.

**Proof sketch.** Induction on the parse. At each piece both parses have a lexeme in front that may
be followed by what is left, and by `Lexeme.unique` there is only one such lexeme. -/
theorem Parse.unique (one : Parse mode input parts) (other : Parse mode input others) :
    parts = others := by
  induction one generalizing others with
  | nil =>
    rcases other.nil_or_cons with ⟨-, empty⟩ | ⟨kind, raw, text, left, later, split, -, lexeme, -⟩
    · exact empty.symm
    · exact absurd (List.append_eq_nil_iff.1 split.symm).1 lexeme.ne_nil
  | cons lexeme follows rest ih =>
    rcases other.nil_or_cons with
      ⟨empty, -⟩ | ⟨kind, raw, text, left, later, split, rfl, otherLexeme, otherFollows, otherRest⟩
    · exact absurd (List.append_eq_nil_iff.1 empty).1 lexeme.ne_nil
    · obtain ⟨rfl, rfl, -, rfl⟩ := lexeme.unique follows otherLexeme otherFollows split
      rw [ih otherRest]

/-- The kinds and stretches of a parse, as they are cut out of a text. -/
def pieces (parts : List (Token.Kind × Text)) : List (Token.Kind × Option Text) :=
  parts.map fun part => (part.1, some part.2)

end Grammar

/-! ## Parses and runs -/

variable {mode : Mode}

namespace Session

variable {s : Session} {kind : Token.Kind} {raw text left : Text}
  {tokens : List Token} {parts : List (Token.Kind × Text)}

/-- The kinds of tokens, each with the stretch of source text that it stands for. -/
def cutOut (s : Session) (tokens : List Token) : List (Token.Kind × Option Text) :=
  tokens.map fun t => (t.kind, s.lexeme? t.span)

/-- What is cut out depends on the text alone, not on the place reached. -/
theorem cutOut_congr {next : Session} (same : next.source = s.source) (tokens : List Token) :
    next.cutOut tokens = s.cutOut tokens := by
  simp only [cutOut, lexeme?, same]

/-- A call with nothing suppressed finds the lexeme at the front of what is left. -/
theorem take_of_lexeme (placed : s.cursor.Placed) (split : s.cursor.rest = raw ++ left)
    (lexeme : Lexeme mode kind raw text) (follows : MayPrecede mode kind raw left) :
    ∃ t next, s.take .none mode = (.token t, next) ∧ t.kind = kind ∧
      s.lexeme? t.span = some raw ∧ next.source = s.source ∧ next.cursor.rest = left ∧
      next.cursor.Placed := by
  have behind : s.cursor.rest = [] ++ (raw ++ left) := split
  have call := Cursor.pull_of_lexeme behind (by simp) (Suppression.stops_none _) lexeme follows
  refine ⟨⟨kind, text, .between s.cursor.position (s.cursor.position.after raw)⟩,
    ⟨s.cursor.skip raw.length, none⟩, ?_, rfl, placed.slice?_after [] behind, ?_, ?_, ?_⟩
  · rw [take, call]
    rfl
  · exact Cursor.source_skip s.cursor _
  · rw [Cursor.skip_length split]
  · exact placed.skip_length split

/-- A call with nothing suppressed finds a token only where a lexeme stands. -/
theorem exists_lexeme_of_take {t : Token} {next : Session}
    (call : s.take .none mode = (.token t, next)) :
    ∃ kind raw text left, s.cursor.rest = raw ++ left ∧ Lexeme mode kind raw text ∧
      MayPrecede mode kind raw left := by
  obtain ⟨d, -, pulls⟩ := pulls_of_take call
  cases pulls with
  | @token kind trivia raw text left split suppressed kept lexeme follows =>
    rw [Suppression.eq_nil_of_none suppressed, List.nil_append] at split
    exact ⟨kind, raw, text, left, split, lexeme, follows⟩

/-- **Acceptance is sound.** Where a run gathers tokens, what is left of the text has a parse,
and the tokens are its pieces.

**Proof sketch.** Induction along the accepted run. Each token comes with a lexeme in front of what
is left (`exists_lexeme_of_take`), which is the next piece of the parse. That the span cuts this
piece out is told by the completeness of the call (`take_of_lexeme`). -/
theorem exists_parse (placed : s.cursor.Placed)
    (gathered : Outcome.gather (s.outcomes .none mode) = .ok tokens) :
    ∃ parts, Parse mode s.cursor.rest parts ∧ s.cutOut tokens = pieces parts := by
  refine accepted_induction (motive := fun s tokens _ => s.cursor.Placed →
    ∃ parts, Parse mode s.cursor.rest parts ∧ s.cutOut tokens = pieces parts)
    ?_ ?_ gathered placed
  · intro s next call _
    rw [rest_of_take_finished call]
    exact ⟨[], .nil, rfl⟩
  · intro s t next tokens last call ih placed
    obtain ⟨kind, raw, text, left, split, lexeme, follows⟩ := exists_lexeme_of_take call
    -- completeness of one call tells which token it was
    obtain ⟨found, after, taken, rfl, slice, same, rest, there⟩ :=
      take_of_lexeme placed split lexeme follows
    rw [call] at taken
    cases taken
    obtain ⟨parts, parse, cut⟩ := ih there
    refine ⟨(t.kind, raw) :: parts, ?_, ?_⟩
    · rw [split]
      rw [rest] at parse
      exact .cons lexeme follows parse
    · rw [cutOut_congr same] at cut
      rw [cutOut, List.map_cons, slice, pieces, List.map_cons]
      exact congrArg _ cut

/-- **Acceptance is complete.** Where what is left of the text has a parse, the run gathers its
pieces as tokens.

**Proof sketch.** Induction on the parse. A piece that may stand in front of what is left is what
the next call comes to (`take_of_lexeme`), and the call leaves the session in front of the later
pieces. -/
theorem gather_of_parse {input : Text} (parse : Parse mode input parts) (placed : s.cursor.Placed)
    (rest : s.cursor.rest = input) :
    ∃ tokens, Outcome.gather (s.outcomes .none mode) = .ok tokens ∧
      s.cutOut tokens = pieces parts := by
  induction parse generalizing s with
  | nil =>
    rw [outcomes_of_finished (take_of_rest_nil rest)]
    exact ⟨[], rfl, rfl⟩
  | @cons kind raw text left later lexeme follows _ ih =>
    obtain ⟨t, next, taken, rfl, slice, same, restNext, there⟩ :=
      take_of_lexeme placed rest lexeme follows
    obtain ⟨tokens, gathered, cut⟩ := ih there restNext
    refine ⟨t :: tokens, ?_, ?_⟩
    · rw [outcomes_of_goesOn taken rfl, Outcome.gather, gathered]
      rfl
    · rw [cutOut_congr same] at cut
      rw [cutOut, List.map_cons, slice, pieces, List.map_cons]
      exact congrArg _ cut

end Session

/-- **Acceptance is having a parse.** With nothing suppressed, a text is accepted if and only if
it can be cut into lexemes, each of which may stand in front of what follows it. There is only
one way to do so, and the tokens have the kinds and the source texts of its pieces, in order. Of the
hexadecimal numbers with fewer than `2 ^ 32` digits, but at least one, none is left out.

**Proof sketch.** Soundness is `exists_parse` and completeness `gather_of_parse`, both from the
start of the text. Parses are unique (`Parse.unique`), so the pieces that completeness gives are
those of any parse. The bound on hexadecimal numbers is `lexeme_hexadecimal_iff_of_lt`. -/
theorem tokenize_accepts_exactly_parses (mode : Mode) (source : Text) :
    ((∃ tokens, tokenize source .none mode = .ok tokens) ↔
        ∃ parts, Parse mode source parts) ∧
      (∀ parts others, Parse mode source parts → Parse mode source others → parts = others) ∧
      (∀ tokens parts, tokenize source .none mode = .ok tokens → Parse mode source parts →
        (Session.ofText source).cutOut tokens = pieces parts) ∧
      ∀ digits : Text, digits.length < Int32.size →
        (∀ c ∈ digits, CharClass.isHexDigit c = true) →
        (Lexeme .full .hexadecimal ('0' :: 'x' :: digits) ('0' :: 'x' :: digits) ↔
          digits ≠ []) := by
  have placed : (Session.ofText source).cursor.Placed := Cursor.placed_ofText source
  rw [tokenize_eq_gather]
  refine ⟨⟨?_, ?_⟩, ?_, ?_, fun _ => lexeme_hexadecimal_iff_of_lt⟩
  · rintro ⟨tokens, gathered⟩
    obtain ⟨parts, parse, -⟩ := Session.exists_parse placed gathered
    exact ⟨parts, parse⟩
  · rintro ⟨parts, parse⟩
    obtain ⟨tokens, gathered, -⟩ := Session.gather_of_parse parse placed rfl
    exact ⟨tokens, gathered⟩
  · intro parts others one other
    exact one.unique other
  · intro tokens parts gathered parse
    obtain ⟨found, gatheredFound, cut⟩ := Session.gather_of_parse parse placed rfl
    rw [gathered] at gatheredFound
    cases gatheredFound
    exact cut

/-- The mark of a hexadecimal number and digits behind it are no number where the digits are too
many to be counted: such a text is refused for missing digits. -/
theorem tokenize_refuses_uncounted :
    uncountedZeros ≠ [] ∧ (∀ c ∈ uncountedZeros, CharClass.isHexDigit c = true) ∧
      tokenize ('0' :: 'x' :: uncountedZeros) .none .full =
        .error (.fault (.ofPosition .missingHexDigits ('0' :: 'x' :: uncountedZeros)
          (.behind ('0' :: 'x' :: uncountedZeros)))) := by
  refine ⟨uncountedZeros_ne_nil, isHexDigit_of_mem_uncountedZeros, ?_⟩
  simpa using tokenize_of_breaks breaks_uncountedZeros

end Lexing
