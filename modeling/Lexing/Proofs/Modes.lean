import Lexing.Proofs.Literal

set_option relaxedAutoImplicit false
set_option autoImplicit false

/-!
# Where the modes agree

Full mode and literal mode read a text alike if and only if no number, string or comment opens in
it, and that can be told from its characters: there is no double quote, no slash in front of a slash
or a star, and each digit stands behind a letter, a digit or an underscore. Then every lexeme of
literal mode is one of full mode. Otherwise the first opener lies in a token of literal mode that
full mode does not have.

## Main definitions

* `Lexing.Text.WithoutOpeners` — no number, string or comment opens in a text.

## Main results

* `Lexing.Grammar.lexeme_full_iff`, `Lexing.Grammar.mayPrecede_full_iff` — when a lexeme of literal
  mode is one of full mode, and when it may stand there in front of the same text.
* `Lexing.Tiling.withoutOpeners_iff` — no opener lies in a text exactly where all its stretches are
  lexemes of full mode.
* `Lexing.Session.modes_agree_iff` — where the modes agree.
-/

namespace Lexing

open Grammar

variable {suppression : Suppression} {source before raw left text : Text} {kind : Token.Kind}
  {t : Token} {tokens : List Token}

/-- No number, string or comment opens in a text: it has no double quote, no slash in front of a
slash or a star, and no digit but behind a letter, a digit or an underscore. -/
structure Text.WithoutOpeners (source : Text) : Prop where
  noQuote : '"' ∉ source
  noLineComment : ¬ ['/', '/'] <:+: source
  noBlockComment : ¬ ['/', '*'] <:+: source
  noNumber : ∀ before d after, source = before ++ d :: after → d.isDigit = true →
    ∃ c, before.getLast? = some c ∧ CharClass.isWordPart c = true

/-! ## Lexemes of both modes -/

namespace Grammar

/-- A quote is a mark, so it stands in no other token of literal mode. -/
theorem Lexeme.eq_operator_of_quote (lexeme : Lexeme .literal kind raw text) (quote : '"' ∈ raw) :
    kind = .operator := by
  have mark : literalClass .operator '"' = true := by decide
  exact (literalClass_iff mark).1 (lexeme.literal.1 '"' quote)

/-- In full mode a quote is no operator. -/
theorem isMark_full_iff {c : Char} : isMark .full c = true ↔ isPunctuation c = true ∧ c ≠ '"' := by
  simp [isMark]

/-- A character of a word is a digit or a letter, and not both. -/
theorem isDigit_eq_false_iff {c : Char} (part : CharClass.isWordPart c = true) :
    c.isDigit = false ↔ CharClass.isWordLetter c = true := by
  rw [CharClass.isWordPart_iff] at part
  rw [← Bool.not_eq_true, CharClass.isDigit_iff, CharClass.isWordLetter_iff]
  omega

/-- **Lexemes of both modes.** A lexeme of literal mode is one of full mode if it holds no quote and
is no word that a digit opens.

**Proof sketch.** By cases on the lexeme of literal mode. Blanks, line feeds, pairs and foreign
characters are lexemes of both modes and hold no quote. A word is one of full mode unless a digit
opens it, and a single mark unless it is the quote. -/
theorem lexeme_full_iff (lexeme : Lexeme .literal kind raw text) :
    Lexeme .full kind raw text ↔
      '"' ∉ raw ∧ (kind = .identifier → ∀ c, raw.head? = some c → c.isDigit = false) := by
  have plain (other : kind ≠ .operator) : '"' ∉ raw := mt lexeme.eq_operator_of_quote other
  cases lexeme with
  | space nonempty blanks =>
    exact iff_of_true (.space nonempty blanks) ⟨plain (by decide), by simp⟩
  | endOfLine => exact iff_of_true .endOfLine (by decide)
  | @identifier _ c parts opens continues =>
    have word := isDigit_eq_false_iff opens
    simp only [List.head?_cons, Option.some.injEq, forall_eq', true_implies, word]
    constructor
    · intro full
      cases full with
      | identifier letter => exact ⟨plain (by decide), letter⟩
    · rintro ⟨-, letter⟩
      exact .identifier letter continues
  | @composite _ c composes =>
    have other : c ≠ '"' := (isMark_full_iff.1 (Plain.isMark_of_mem_composing .full composes)).2
    exact iff_of_true (.composite composes) ⟨by simp [other.symm], by simp⟩
  | @mark _ c marks =>
    rw [isMark_literal] at marks
    constructor
    · intro full
      cases full with
      | mark full =>
        have other : c ≠ '"' := (isMark_full_iff.1 full).2
        exact ⟨by simpa using other.symm, by simp⟩
    · rintro ⟨noQuote, -⟩
      have other : '"' ≠ c := by simpa using noQuote
      exact .mark (isMark_full_iff.2 ⟨marks, other.symm⟩)
  | unexpected foreign =>
    exact iff_of_true (.unexpected foreign) ⟨plain (by decide), by simp⟩

/-- A lexeme that may stand in front of a text in literal mode may do so in full mode, unless it is
a minus sign in front of a digit, or a slash in front of a slash or a star. -/
theorem mayPrecede_full_iff (follows : MayPrecede .literal kind raw left) :
    MayPrecede .full kind raw left ↔
      (kind = .operator → ∀ d, left.head? = some d →
        ¬ (raw = ['-'] ∧ d.isDigit = true) ∧ ¬ (raw = ['/'] ∧ (d = '/' ∨ d = '*'))) := by
  by_cases operator : kind = .operator
  · subst operator
    simp only [true_implies]
    refine forall₂_congr fun d next => ?_
    have here := follows d next
    simp only [allows, allowsAfterOperator, Bool.and_eq_true] at here ⊢
    simp [here.1, imp_iff_not_or]
  · have same : ∀ d, allows .full kind raw d = allows .literal kind raw d := by
      intro d
      cases kind <;> first | rfl | exact absurd rfl operator
    exact iff_of_true (fun d next => (same d).trans (follows d next))
      fun both => absurd both operator

end Grammar

/-! ## Texts without openers -/

namespace Tiling

/-- What literal mode reads in a text without openers are lexemes of full mode. A word is a maximal
run, so no digit opens it. -/
theorem fills_full (tiling : Tiling suppression .literal source tokens)
    (without : Text.WithoutOpeners source) (mem : t ∈ tokens)
    (fills : t.Fills .literal source before raw left) : t.Fills .full source before raw left := by
  refine ⟨fills.split, fills.span, (lexeme_full_iff fills.lexeme).2 ⟨?_, ?_⟩,
    (mayPrecede_full_iff fills.follows).2 ?_⟩
  · intro quote
    refine without.noQuote ?_
    rw [fills.split]
    simp [quote]
  · intro word c first
    have maximal := tiling.isMaximalRun mem (.inr word) fills
    rw [word] at maximal
    rw [← Bool.not_eq_true]
    intro digit
    obtain ⟨others, rfl⟩ := List.head?_eq_some_iff.1 first
    obtain ⟨e, last, part⟩ := without.noNumber before c (others ++ left) fills.split digit
    rw [← Bool.not_eq_false] at part
    exact part (maximal.starts e last)
  · intro _ d next
    obtain ⟨others, rfl⟩ := List.head?_eq_some_iff.1 next
    constructor
    · rintro ⟨rfl, digit⟩
      obtain ⟨c, last, part⟩ := without.noNumber (before ++ ['-']) d others
        (by rw [fills.split]; simp) digit
      obtain rfl : '-' = c := by simpa using last
      cases part
    · rintro ⟨rfl, rfl | rfl⟩
      · exact without.noLineComment ⟨before, others, by rw [fills.split]; simp⟩
      · exact without.noBlockComment ⟨before, others, by rw [fills.split]; simp⟩

variable {after : Text}

/-- A slash of a text is an operator by itself. -/
theorem exists_slash (tiling : Tiling suppression .literal source tokens)
    (cut : source = before ++ '/' :: after) :
    ∃ t ∈ tokens, t.kind = .operator ∧ t.Fills .literal source before ['/'] after := by
  have mark : literalClass .operator '/' = true := by decide
  obtain ⟨t, mem, kind, start, front, back, left, rfl, rfl, fills⟩ :=
    tiling.exists_of_class cut mark rfl
  have lexeme := fills.lexeme
  have follows := fills.follows
  rw [kind] at lexeme follows
  have slash : '/' ∉ composing := by decide
  rcases lexeme.operator_cases follows with ⟨c, composes, pair⟩ | ⟨c, single, -, -⟩
  · have inside : '/' ∈ [c, '='] := pair ▸ by simp
    obtain rfl : '/' = c := by simpa using inside
    exact absurd composes slash
  · exact ⟨t, mem, kind, fills.single single⟩

/-- **Openers break tokens.** Where all that literal mode reads are lexemes of full mode, no opener
lies in the text, and conversely.

**Proof sketch.** If all tokens fill lexemes of full mode, take an opener and the token that holds
it (`exists_of_class`, `exists_slash`). A quote, a digit at the front of a word, or a slash in
front of another slash or an asterisk contradicts that the token is a lexeme of full mode
(`lexeme_full_iff`) or that it may stand where it does (`mayPrecede_full_iff`). The converse is
`fills_full`. -/
theorem withoutOpeners_iff (tiling : Tiling suppression .literal source tokens) :
    (∀ t ∈ tokens, ∀ before raw left, t.Fills .literal source before raw left →
        t.Fills .full source before raw left) ↔ Text.WithoutOpeners source := by
  constructor
  · intro full
    have noComment : ∀ c, c = '/' ∨ c = '*' → ¬ ['/', c] <:+: source := by
      rintro c opens ⟨before, after, cut⟩
      have split : source = before ++ '/' :: (c :: after) := by rw [← cut]; simp
      obtain ⟨t, mem, kind, fills⟩ := tiling.exists_slash split
      have follows := (full t mem _ _ _ fills).follows
      exact ((mayPrecede_full_iff fills.follows).1 follows kind c rfl).2 ⟨rfl, opens⟩
    refine ⟨?_, noComment '/' (.inl rfl), noComment '*' (.inr rfl), ?_⟩
    · intro quote
      obtain ⟨before, after, cut⟩ := List.append_of_mem quote
      have mark : literalClass .operator '"' = true := by decide
      obtain ⟨t, mem, -, start, front, back, left, -, -, fills⟩ :=
        tiling.exists_of_class cut mark rfl
      have lexeme := (full t mem _ _ _ fills).lexeme
      exact ((lexeme_full_iff fills.lexeme).1 lexeme).1 (by simp)
    · intro before d after cut digit
      have part : literalClass .identifier d = true :=
        Reader.isWordPart_eq_true_iff.2 (.inr digit)
      obtain ⟨t, mem, kind, start, front, back, left, rfl, -, fills⟩ :=
        tiling.exists_of_class cut part rfl
      have lexeme := (full t mem _ _ _ fills).lexeme
      rcases List.eq_nil_or_concat front with rfl | ⟨first, c, rfl⟩
      · have opens := ((lexeme_full_iff fills.lexeme).1 lexeme).2 kind d rfl
        rw [digit] at opens
        cases opens
      · have inside := fills.lexeme.literal.1 c (by simp)
        rw [kind] at inside
        exact ⟨c, by simp, inside⟩
  · intro without t mem before raw left fills
    exact tiling.fills_full without mem fills

end Tiling

/-! ## Runs -/

/-- **Where the modes agree.** Going on after faults, full mode comes to the same tokens and faults
as literal mode, with the same kinds, texts and spans, if and only if no number, string or comment
opens in the text, and the same holds of the sessions on the way.

**Proof sketch.** The tokens of literal mode tile the text. Without openers all of them fill
lexemes of full mode (`fills_full`), and then full mode reads alike (`drain_of_fills`). Conversely,
where the outcomes are the same, full mode accepts the same tokens and is tiled by them, too. A
token fills one stretch only (`Fills.unique`), and `withoutOpeners_iff` tells that there is no
opener. -/
theorem Session.modes_agree_iff (source : Text) (suppression : Suppression) :
    ((ofText source).outcomes suppression .full = (ofText source).outcomes suppression .literal ↔
        Text.WithoutOpeners source) ∧
      ((ofText source).drain suppression .full = (ofText source).drain suppression .literal ↔
        Text.WithoutOpeners source) := by
  have placed : (ofText source).cursor.Placed := Cursor.placed_ofText source
  obtain ⟨tokens, -, accepted, tiling⟩ := exists_tiling_of_literal source suppression
  rw [tokenize_eq_gather] at accepted
  have alike (without : Text.WithoutOpeners source) :
      (ofText source).drain suppression .full = (ofText source).drain suppression .literal := by
    refine drain_of_fills placed accepted ?_
    intro t mem
    obtain ⟨before, raw, left, fills, -⟩ := tiling.fills t mem
    exact ⟨before, raw, left, tiling.fills_full without mem fills⟩
  have apart (same : (ofText source).outcomes suppression .full =
      (ofText source).outcomes suppression .literal) : Text.WithoutOpeners source := by
    rw [← same] at accepted
    refine tiling.withoutOpeners_iff.1 ?_
    intro t mem before raw left fills
    obtain ⟨start, stretch, rest, found, -⟩ := (tiling_of_accepted accepted).fills t mem
    obtain ⟨rfl, rfl, rfl⟩ := fills.unique found
    exact found
  constructor
  · exact ⟨apart, fun without => congrArg (fun run => run.1.map Prod.fst) (alike without)⟩
  · exact ⟨fun same => apart (congrArg (fun run => run.1.map Prod.fst) same), alike⟩

end Lexing
