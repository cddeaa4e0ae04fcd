import Lexing.Proofs.Surroundings

set_option relaxedAutoImplicit false
set_option autoImplicit false

/-!
# Texts and lexemes

The text of a token is its lexeme, but for string literals, where it is the lexeme with the escapes
replaced by what they mean. Every escape is longer than its meaning, so the text is the lexeme
exactly where there is no escape, and is shorter otherwise. The lexemes of an accepted text add up
to the text, and the texts of the tokens do so exactly where no escape is left out.

## Main definitions

* `Lexing.Token.Spells` — how the text of a token goes with a lexeme.

## Main results

* `Lexing.Grammar.Pieces.meaning_unique` — what stands between quotes has one meaning.
* `Lexing.Grammar.Pieces.eq_or_shorter` — without an escape it means itself, and otherwise it is
  longer than its meaning.
* `Lexing.Token.StandsIn.spells` — the text of a token goes with the lexeme it stands for.
* `Lexing.flatten_texts_eq_iff` — when texts add up to what their lexemes add up to.
* `Lexing.texts_spell_lexemes` — texts and lexemes of all tokens that are found, and of texts that
  are accepted.
-/

namespace Lexing

open Grammar

/-! ## String literals -/

namespace Grammar

variable {mode : Mode} {kind : Token.Kind} {raw text meaning otherMeaning : Text}

/-- What stands between quotes has one meaning: it is what is read there. -/
theorem Pieces.meaning_unique (pieces : Pieces raw meaning) (other : Pieces raw otherMeaning) :
    otherMeaning = meaning := by
  have found := Quotation.readBody_append pieces []
  rw [Quotation.readBody_append other []] at found
  exact (Quotation.Body.closed.inj found).2

/-- Without a backslash a text between quotes means itself. With one it is longer than its
meaning, for each escape has two characters and means one.

**Proof sketch.** Induction on the pieces: a plain character is one on both sides, an escape two on
one and one on the other. -/
theorem Pieces.eq_or_shorter (pieces : Pieces raw meaning) :
    ('\\' ∉ raw ∧ meaning = raw) ∨ ('\\' ∈ raw ∧ meaning.length < raw.length) := by
  induction pieces with
  | nil => exact .inl ⟨by simp, rfl⟩
  | plain noQuote noBackslash _ ih =>
    rcases ih with ⟨free, rfl⟩ | ⟨escaped, shorter⟩
    · exact .inl ⟨by simp [noBackslash.symm, free], rfl⟩
    · exact .inr ⟨List.mem_cons_of_mem _ escaped, Nat.succ_lt_succ shorter⟩
  | escape known _ ih =>
    refine .inr ⟨List.mem_cons_self .., ?_⟩
    simp only [List.length_cons]
    rcases ih with ⟨-, rfl⟩ | ⟨-, shorter⟩
    · omega
    · omega

/-- A lexeme of any kind but string literals says itself. -/
theorem Lexeme.text_eq (lexeme : Lexeme mode kind raw text) (other : kind ≠ .stringLiteral) :
    text = raw := by
  cases lexeme with
  | stringLiteral => exact absurd rfl other
  | _ => rfl

/-- A string literal is a text in quotes, and says in quotes what it means. -/
theorem Lexeme.exists_pieces (lexeme : Lexeme mode .stringLiteral raw text) :
    ∃ body meaning, raw = '"' :: (body ++ ['"']) ∧ text = '"' :: (meaning ++ ['"']) ∧
      Pieces body meaning := by
  cases lexeme with
  | stringLiteral pieces => exact ⟨_, _, rfl, rfl, pieces⟩

end Grammar

/-! ## One token -/

/-- How the text of a token goes with its lexeme. For all kinds but string literals it is the
lexeme, and the token stands for no string. For a string literal both are in quotes, and between
the quotes the text has the one meaning of what stands there in the lexeme, which is also the string
that the token stands for. The two are the same exactly where the lexeme has no backslash, and
otherwise the text is shorter. -/
structure Token.Spells (raw : Text) (t : Token) : Prop where
  nonempty : t.text ≠ []
  plain : t.kind ≠ .stringLiteral → t.text = raw ∧ t.stringValue? = none
  quoted : t.kind = .stringLiteral → ∃ body meaning,
    raw = '"' :: (body ++ ['"']) ∧ t.text = '"' :: (meaning ++ ['"']) ∧
      (∀ other, Pieces body other ↔ other = meaning) ∧ t.stringValue? = some meaning
  same_iff : t.kind = .stringLiteral → (t.text = raw ↔ '\\' ∉ raw)
  shorter : t.kind = .stringLiteral → '\\' ∈ raw → t.text.length < raw.length

namespace Token

variable {mode : Mode} {source raw : Text} {t : Token}

/-- Only string literals stand for a string. -/
theorem stringValue?_of_ne (other : t.kind ≠ .stringLiteral) : t.stringValue? = none := by
  unfold stringValue?
  split
  · next literal => exact absurd literal other
  · rfl

/-- A string literal with its quotes around what stands there, and around what it means. -/
theorem spells_of_pieces {body meaning : Text} (pieces : Pieces body meaning) (span : Span) :
    Spells ('"' :: (body ++ ['"'])) ⟨.stringLiteral, '"' :: (meaning ++ ['"']), span⟩ := by
  refine ⟨by simp, fun other => absurd rfl other, fun _ => ?_, fun _ => ?_, fun _ => ?_⟩
  · refine ⟨body, meaning, rfl, rfl, fun other => ⟨pieces.meaning_unique, ?_⟩,
      unquote?_quoted meaning⟩
    rintro rfl
    exact pieces
  · rcases pieces.eq_or_shorter with ⟨free, rfl⟩ | ⟨escaped, shorter⟩
    · simp [free]
    · have differs : meaning ≠ body := by
        rintro rfl
        omega
      simp [escaped, differs]
  · intro backslash
    have inside : '\\' ∈ body := by simpa using backslash
    rcases pieces.eq_or_shorter with ⟨free, -⟩ | ⟨-, shorter⟩
    · exact absurd inside free
    · simpa using shorter

/-- **The text of a token goes with its lexeme.**

**Proof sketch.** The text of a lexeme that is no string literal is the lexeme itself (`text_eq`).
The body of a string literal is made of pieces (`exists_pieces`), and `spells_of_pieces` treats
these. -/
theorem StandsIn.spells (stands : t.StandsIn mode source raw) : t.Spells raw := by
  obtain ⟨kind, text, span⟩ := t
  have lexeme : Lexeme mode kind raw text := stands.lexeme
  by_cases literal : kind = .stringLiteral
  · subst literal
    obtain ⟨body, meaning, rfl, rfl, pieces⟩ := lexeme.exists_pieces
    exact spells_of_pieces pieces span
  · obtain rfl : text = raw := lexeme.text_eq literal
    exact ⟨lexeme.ne_nil, fun _ => ⟨rfl, stringValue?_of_ne literal⟩,
      fun same => absurd same literal, fun same => absurd same literal,
      fun same => absurd same literal⟩

/-- The text is the lexeme unless the token is a string literal with an escape. -/
theorem Spells.text_eq_iff (spells : t.Spells raw) :
    t.text = raw ↔ (t.kind = .stringLiteral → '\\' ∉ raw) := by
  by_cases literal : t.kind = .stringLiteral
  · simp only [literal, true_implies, spells.same_iff literal]
  · simp only [literal, false_implies, (spells.plain literal).1]

/-- The text is at most as long as the lexeme. -/
theorem Spells.length_le (spells : t.Spells raw) : t.text.length ≤ raw.length := by
  by_cases escaped : t.kind = .stringLiteral ∧ '\\' ∈ raw
  · exact (spells.shorter escaped.1 escaped.2).le
  · have same : t.text = raw := spells.text_eq_iff.2 fun literal backslash =>
      escaped ⟨literal, backslash⟩
    rw [same]

end Token

/-! ## All tokens of a text -/

section Texts

variable {mode : Mode} {source : Text} {tokens : List Token} {raws : List Text}
  {lexeme? : Token → Option Text}

/-- Texts add up to at most as much as their lexemes. -/
theorem length_flatten_texts_le (spelled : List.Forall₂ (fun t raw => t.Spells raw) tokens raws) :
    (tokens.map Token.text).flatten.length ≤ raws.flatten.length := by
  induction spelled with
  | nil => simp
  | cons spells _ ih =>
    have first := spells.length_le
    simp only [List.map_cons, List.flatten_cons, List.length_append]
    omega

/-- **Texts add up to the lexemes** exactly where no string literal has an escape. Elsewhere they
are too short.

**Proof sketch.** Induction on the tokens with their lexemes. A text is the lexeme or shorter than
it, and so are the later texts together. If the sum is right, then no part is too short, and each
text is its lexeme. -/
theorem flatten_texts_eq_iff
    (spelled : List.Forall₂ (fun t raw => lexeme? t = some raw ∧ t.Spells raw) tokens raws) :
    (tokens.map Token.text).flatten = raws.flatten ↔
      ∀ t ∈ tokens, t.kind = .stringLiteral → ∀ raw, lexeme? t = some raw → '\\' ∉ raw := by
  induction spelled with
  | nil => simp
  | @cons t raw tokens raws here later ih =>
    obtain ⟨cut, spells⟩ := here
    have first : t.text = raw ↔
        (t.kind = .stringLiteral → ∀ raw, lexeme? t = some raw → '\\' ∉ raw) := by
      simp only [spells.text_eq_iff, cut, Option.some.injEq, forall_eq']
    rw [List.forall_mem_cons, ← ih, ← first, List.map_cons, List.flatten_cons, List.flatten_cons]
    constructor
    · intro same
      -- neither part can make up for characters that the other one lacks
      have short := spells.length_le
      have shortLater := length_flatten_texts_le (later.imp fun _ _ h => h.2)
      have length := congrArg List.length same
      simp only [List.length_append] at length
      exact List.append_inj same (by omega)
    · rintro ⟨same, sameLater⟩
      rw [same, sameLater]

/-- With nothing suppressed, an accepted text is its lexemes side by side. -/
theorem exists_lexemes (accepted : tokenize source .none mode = .ok tokens) :
    ∃ raws, raws.flatten = source ∧
      List.Forall₂ (fun t raw => t.StandsIn mode source raw) tokens raws := by
  rw [tokenize_eq_gather] at accepted
  obtain ⟨lead, raws, gaps, laid⟩ :=
    Session.exists_laidOut (Cursor.placed_ofText source) accepted
  have empty : ∀ gap ∈ lead :: gaps, gap = [] := by
    intro gap h
    exact Suppression.eq_nil_of_none (laid.suppressed gap h)
  refine ⟨raws, ?_, laid.lexemes.imp fun t raw h => h.1⟩
  rw [← layOut_of_nil laid.many empty]
  exact laid.rest.symm

end Texts

/-- **Texts spell lexemes.** Whatever calls on a text have found a token, its lexeme can be cut out
of the text, and the text of the token goes with it: it is the lexeme, with the escapes of a string
literal replaced by what they mean. Where a text is accepted with nothing suppressed, its lexemes
side by side are the text, and the texts of its tokens side by side are the text if and only if no
string literal has an escape.

**Proof sketch.** A token that was found stands in the text (`exists_standsIn`) and so goes with
its lexeme (`StandsIn.spells`). With nothing suppressed the lexemes add up to the text
(`exists_lexemes`), and `flatten_texts_eq_iff` compares the sums. -/
theorem texts_spell_lexemes (source : Text) (mode : Mode) :
    (∀ t s, (Session.ofText source).Finds mode t s →
        ∃ raw, s.lexeme? t.span = some raw ∧ t.Spells raw) ∧
      ∀ tokens : List Token, tokenize source .none mode = .ok tokens →
        ∃ raws : List Text,
          tokens.map (fun t => (Session.ofText source).lexeme? t.span) = raws.map some ∧
          raws.flatten = source ∧
          ((tokens.map Token.text).flatten = source ↔
            ∀ t ∈ tokens, t.kind = .stringLiteral →
              ∀ raw, (Session.ofText source).lexeme? t.span = some raw → '\\' ∉ raw) := by
  constructor
  · intro t s found
    obtain ⟨raw, stands, cut⟩ := found.exists_standsIn
    exact ⟨raw, cut, stands.spells⟩
  · intro tokens accepted
    obtain ⟨raws, whole, stand⟩ := exists_lexemes accepted
    have spelled := stand.imp fun t raw stands => And.intro stands.slice stands.spells
    have sum := flatten_texts_eq_iff spelled
    rw [whole] at sum
    exact ⟨raws, Session.map_lexeme?_of_standsIn stand, whole, sum⟩

end Lexing
