import Lexing.Proofs.Verdict

set_option relaxedAutoImplicit false
set_option autoImplicit false

/-!
# Verdicts on strings

What a quote begins is told by the pieces behind it and by what ends them: another quote, a
backslash in front of a character that may not stand after it, or the end of the text. Quotes that
the pieces mean are no quotes around them, so what a literal stands for is what its pieces mean, and
every text is what some literal stands for.

## Main definitions

* `Lexing.Quotation.Verdict` — what a quote begins.
* `Lexing.Session.ReadsLiteral` — all calls come to a string literal and what it stands for.

## Main results

* `Lexing.Quotation.exists_verdict` — every text behind a quote has a verdict.
* `Lexing.Quotation.Verdict.recognise_eq` — the verdict is what is recognised.
* `Lexing.Quotation.exists_pieces` — every text is what some pieces mean.
* `Lexing.Session.strings_exact` — every call at a quote comes to the one verdict on it, and every
  text can be written as a literal.
-/

namespace Lexing

namespace Quotation

open Grammar

/-- What a quote begins, from the text behind it. -/
inductive Verdict (body : Text) : Reading → Prop where
  /-- Pieces up to another quote are a literal. It says what the pieces mean, between quotes. -/
  | closed {raw meaning left : Text} (pieces : Pieces raw meaning)
      (split : body = raw ++ '"' :: left) :
      Verdict body (.lexeme .stringLiteral ('"' :: raw ++ ['"']) ('"' :: meaning ++ ['"']))
  /-- A backslash behind the pieces is in front of a character that may not stand after it. -/
  | badEscape {raw meaning left : Text} {e : Char} (pieces : Pieces raw meaning)
      (unknown : ∀ d, (e, d) ∉ escapes) (split : body = raw ++ '\\' :: e :: left) :
      Verdict body (.fault (.unexpectedEscape e) ('"' :: raw) ['\\'])
  /-- The text ends with the pieces, or with a backslash behind them. -/
  | unclosed {raw meaning : Text} (pieces : Pieces raw meaning)
      (ends : body = raw ∨ body = raw ++ ['\\']) :
      Verdict body (.fault .unterminatedString [] ('"' :: body))

variable {body : Text} {reading : Reading}

/-- Every text behind a quote has a verdict. -/
theorem exists_verdict (body : Text) : ∃ reading, Verdict body reading := by
  have describes := describes_readBody body
  cases hbody : readBody body with
  | closed raw meaning =>
    rw [hbody] at describes
    obtain ⟨pieces, left, split⟩ := describes
    exact ⟨_, .closed pieces split⟩
  | badEscape raw e =>
    rw [hbody] at describes
    obtain ⟨⟨meaning, pieces⟩, unknown, left, split⟩ := describes
    exact ⟨_, .badEscape pieces unknown split⟩
  | unclosed =>
    rw [hbody] at describes
    obtain ⟨raw, meaning, pieces, ends⟩ := describes
    exact ⟨_, .unclosed pieces ends⟩

/-- The verdict on a text is what is recognised behind the quote. -/
theorem Verdict.recognise_eq (verdict : Verdict body reading) :
    recognise .full '"' body = reading := by
  rw [recognise_of_opens .string ⟨rfl, rfl⟩]
  cases verdict with
  | @closed raw meaning left pieces split =>
    subst split
    exact read_append pieces left
  | @badEscape raw meaning left e pieces unknown split =>
    subst split
    exact read_badEscape pieces unknown left
  | @unclosed raw meaning pieces ends =>
    rcases ends with rfl | rfl
    · have whole := read_unclosed pieces (.inl rfl)
      rw [List.append_nil] at whole
      exact whole
    · exact read_unclosed pieces (.inr rfl)

/-- Every text is what some pieces mean: its quotes and backslashes with a backslash in front, and
its other characters as they are. -/
theorem exists_pieces (meaning : Text) : ∃ raw, Pieces raw meaning := by
  induction meaning with
  | nil => exact ⟨[], .nil⟩
  | cons c meaning ih =>
    obtain ⟨raw, later⟩ := ih
    by_cases quote : c = '"'
    · subst quote
      exact ⟨'\\' :: '"' :: raw, .escape (by decide) later⟩
    by_cases backslash : c = '\\'
    · subst backslash
      exact ⟨'\\' :: '\\' :: raw, .escape (by decide) later⟩
    · exact ⟨c :: raw, .plain quote backslash later⟩

end Quotation

namespace Session

open Grammar

/-- All calls that recognise strings come to the literal of a stretch between quotes. Its text is
another stretch between quotes, and this stretch is what it stands for. -/
def ReadsLiteral (s : Session) (raw value : Text) : Prop :=
  s.Answers .full (.lexeme .stringLiteral ('"' :: raw ++ ['"']) ('"' :: value ++ ['"'])) ∧
    ∀ suppression, ∃ t, (s.take suppression .full).1 = .token t ∧
      (s.next suppression .full).1 = .token t ∧ t.stringValue? = some value

variable {source raw meaning left : Text} {s : Session}

/-- The token of a call at pieces between quotes stands for what the pieces mean, also where they
mean quotes at its ends. -/
theorem Reads.readsLiteral (reads : s.Reads source) (pieces : Pieces raw meaning)
    (opens : s.cursor.rest = '"' :: (raw ++ '"' :: left)) : s.ReadsLiteral raw meaning := by
  have verdict : Quotation.Verdict (raw ++ '"' :: left) _ := .closed pieces rfl
  have answers := reads.answers opens (by decide) verdict.recognise_eq
  refine ⟨answers, fun suppression => ?_⟩
  obtain ⟨⟨t, found, kind, text, -⟩, -⟩ := (answers suppression).1
  -- Whether a call keeps its token makes no difference to what it comes to.
  refine ⟨t, found, found, ?_⟩
  rw [Token.stringValue?, kind, text]
  exact Token.unquote?_quoted meaning

/-- **Strings are read exactly.** Whatever calls have led to where a quote comes next, there is
exactly one verdict on the text behind it, and all calls that recognise strings come to it. Pieces
up to another quote are a literal that stands for what they mean. Conversely every text is what some
pieces mean, and between quotes these are read as a literal that stands for it, whatever comes
behind.

**Proof sketch.** A quote is visible, every body has a verdict (`exists_verdict`), and whatever has
it is recognised. So `Reads.verdict_exact` gives the first half and `readsLiteral` what a literal
stands for. Conversely any text is written by some pieces (`exists_pieces`). -/
theorem strings_exact :
    (∀ (source body : Text) (s : Session), (ofText source).Reaches s →
      s.cursor.rest = '"' :: body →
        (∃! reading, Quotation.Verdict body reading) ∧
          (∀ reading, Quotation.Verdict body reading → s.Answers .full reading) ∧
          ∀ raw meaning left, Pieces raw meaning → body = raw ++ '"' :: left →
            s.ReadsLiteral raw meaning) ∧
      ∀ value, ∃ raw, Pieces raw value ∧ ∀ (source left : Text) (s : Session),
        (ofText source).Reaches s → s.cursor.rest = '"' :: (raw ++ '"' :: left) →
          s.ReadsLiteral raw value := by
  constructor
  · intro source body s reached opens
    have reads : s.Reads source := reached.reads (reads_ofText source)
    obtain ⟨unique, answers⟩ := reads.verdict_exact opens (by decide)
      (Quotation.exists_verdict body) fun _ => (·.recognise_eq)
    refine ⟨unique, answers, ?_⟩
    rintro raw meaning left pieces rfl
    exact reads.readsLiteral pieces opens
  · intro value
    obtain ⟨raw, pieces⟩ := Quotation.exists_pieces value
    refine ⟨raw, pieces, ?_⟩
    intro source left s reached opens
    exact (reached.reads (reads_ofText source)).readsLiteral pieces opens

/-- The quotes at both ends of what a literal stands for are no quotes around it. -/
theorem strings_exact_decoded_quotes :
    (ofText ['"', '\\', '"', 'a', '\\', '"', '"', '"']).ReadsLiteral
      ['\\', '"', 'a', '\\', '"'] ['"', 'a', '"'] := by
  have pieces : Pieces ['\\', '"', 'a', '\\', '"'] ['"', 'a', '"'] :=
    .escape (by decide) (.plain (by decide) (by decide) (.escape (by decide) .nil))
  exact (strings_exact.1 _ _ _ .refl rfl).2.2 _ _ ['"'] pieces rfl

end Session

end Lexing
