import Lexing.Lexeme.Plain
import Lexing.Proofs.Text.Run

set_option relaxedAutoImplicit false
set_option autoImplicit false

/-!
# The lexical grammar

For each kind of token, the texts that are lexemes of the kind and the characters that may stand
right after such a lexeme. A parse of a text cuts it into lexemes, each of which may stand in
front of what follows it. Nothing here reads a text from left to right: the grammar only says
what a token looks like.

## Main definitions

* `Lexing.Grammar.Pieces` — what stands between the quotes of a string, and what it means.
* `Lexing.Grammar.CountsAsNone` — digits that a count in a word of 32 bits cannot tell from none.
* `Lexing.Grammar.uncountedZeros` — so many zeros that they count as none.
* `Lexing.Grammar.Lexeme` — the lexemes of each kind, with what they say.
* `Lexing.Grammar.allows` — the characters that may follow a lexeme.
* `Lexing.Grammar.MayPrecede` — a lexeme may stand in front of a text.
* `Lexing.Grammar.Breaks` — the faults, with the texts at whose front they lie.
* `Lexing.Grammar.Parse` — a text cut into lexemes.
* `Lexing.Reading.Conforms` — what is found at the front of a text is what the grammar says.

## Main results

* `Lexing.Grammar.lexeme_hexadecimal_iff_of_lt` — of the numbers of fewer than `2 ^ 32`
  hexadecimal digits none is left out.
* `Lexing.Grammar.breaks_uncountedZeros` — behind the mark of a hexadecimal number, so many zeros
  are a fault.
* `Lexing.Grammar.Lexeme.ne_nil` — no lexeme is empty.
* `Lexing.Grammar.mayPrecede_lineFeed` — every lexeme may stand in front of a line feed.
-/

namespace Lexing

namespace Grammar

/-! ## Lexemes -/

/-- The characters that may stand after a backslash in a string, each with what the two of them
mean. -/
def escapes : List (Char × Char) :=
  [('\\', '\\'), ('\x27', '\x27'), ('"', '"'), ('a', '\x07'), ('b', '\x08'), ('f', '\x0c'),
    ('n', '\n'), ('r', '\x0d'), ('t', '\t'), ('v', '\x0b')]

/-- What stands between the quotes of a string, piece by piece, and what it means. -/
inductive Pieces : (raw meaning : Text) → Prop where
  | nil : Pieces [] []
  /-- Any character but a quote or a backslash means itself. -/
  | plain {c : Char} {raw meaning : Text} (noQuote : c ≠ '"') (noBackslash : c ≠ '\\')
      (later : Pieces raw meaning) : Pieces (c :: raw) (c :: meaning)
  /-- A backslash with a character that may stand after it means one character. -/
  | escape {e d : Char} {raw meaning : Text} (known : (e, d) ∈ escapes)
      (later : Pieces raw meaning) : Pieces ('\\' :: e :: raw) (d :: meaning)

/-- The sign of a number: none, or a minus sign. -/
def IsSign (sign : Text) : Prop := sign = [] ∨ sign = ['-']

/-- Digits that count as none in a word of 32 bits, which has `2 ^ 32` values: there are no digits,
or so many of them that the count has come back to zero. -/
def CountsAsNone (digits : Text) : Prop := Int32.size ∣ digits.length

/-- The fewest zeros that count as none though they are some. -/
def uncountedZeros : Text := List.replicate Int32.size '0'

/-- The marks that make up an operator together with an equals sign. -/
def composing : List Char := ['>', '<', '!', '=']

/-- Visible ASCII characters that belong to no word. -/
def isPunctuation (c : Char) : Bool :=
  0x20 < c.toNat && c.toNat < 0x7F && !CharClass.isWordPart c

/-- The characters that can be an operator of their own. Where strings are recognised, a quote
is none of them. -/
def isMark (mode : Mode) (c : Char) : Bool :=
  isPunctuation c && !(mode == .full && c == '"')

/-- The lexemes of each kind: `Lexeme mode kind raw text` holds if the stretch `raw` can be a
token of the kind, and says `text`. -/
inductive Lexeme : Mode → Token.Kind → (raw text : Text) → Prop where
  | space {mode : Mode} {raw : Text} (nonempty : raw ≠ [])
      (blanks : ∀ c ∈ raw, CharClass.isBlank c = true) : Lexeme mode .space raw raw
  | endOfLine {mode : Mode} : Lexeme mode .endOfLine ['\n'] ['\n']
  | identifier {mode : Mode} {c : Char} {parts : Text} (opens : Plain.opensWord mode c = true)
      (continues : ∀ d ∈ parts, CharClass.isWordPart d = true) :
      Lexeme mode .identifier (c :: parts) (c :: parts)
  | integer {sign digits : Text} (signed : IsSign sign) (nonempty : digits ≠ [])
      (decimal : ∀ c ∈ digits, c.isDigit = true) :
      Lexeme .full .integer (sign ++ digits) (sign ++ digits)
  | float {sign whole fraction : Text} (signed : IsSign sign) (nonempty : whole ≠ [])
      (decimal : ∀ c ∈ whole, c.isDigit = true)
      (decimalFraction : ∀ c ∈ fraction, c.isDigit = true) :
      Lexeme .full .float (sign ++ whole ++ '.' :: fraction) (sign ++ whole ++ '.' :: fraction)
  | hexadecimal {digits : Text} (counted : ¬ CountsAsNone digits)
      (hexadecimal : ∀ c ∈ digits, CharClass.isHexDigit c = true) :
      Lexeme .full .hexadecimal ('0' :: 'x' :: digits) ('0' :: 'x' :: digits)
  | stringLiteral {raw meaning : Text} (pieces : Pieces raw meaning) :
      Lexeme .full .stringLiteral ('"' :: raw ++ ['"']) ('"' :: meaning ++ ['"'])
  | blockComment {body : Text} (unclosed : ¬ ['*', '/'] <:+: body) :
      Lexeme .full .blockComment ('/' :: '*' :: (body ++ ['*', '/']))
        ('/' :: '*' :: (body ++ ['*', '/']))
  | lineComment {body : Text} (oneLine : ∀ c ∈ body, CharClass.isLineFeed c = false) :
      Lexeme .full .lineComment ('/' :: '/' :: body) ('/' :: '/' :: body)
  | composite {mode : Mode} {c : Char} (composes : c ∈ composing) :
      Lexeme mode .operator [c, '='] [c, '=']
  | mark {mode : Mode} {c : Char} (marks : isMark mode c = true) : Lexeme mode .operator [c] [c]
  | unexpected {mode : Mode} {c : Char} (foreign : CharClass.isForeign c = true) :
      Lexeme mode .unexpected [c] [c]

/-! ## Followers -/

/-- Whether a character may follow an operator. A mark that could open something longer is no
operator in front of the character that makes it so. -/
def allowsAfterOperator (mode : Mode) (raw : Text) (next : Char) : Bool :=
  !(next == '=' && composing.any fun c => raw == [c]) &&
    !(mode == .full &&
      (raw == ['-'] && next.isDigit || raw == ['/'] && (next == '/' || next == '*')))

/-- Whether a character may follow a lexeme of a kind. -/
def allows (mode : Mode) (kind : Token.Kind) (raw : Text) (next : Char) : Bool :=
  match kind with
  | .space => !CharClass.isBlank next
  | .identifier => !CharClass.isWordPart next
  | .integer =>
    !(next.isDigit || next == '.') && !(next == 'x' && (raw == ['0'] || raw == ['-', '0']))
  | .float => !(next.isDigit || next == '.')
  | .hexadecimal => !(CharClass.isHexDigit next || next == '.')
  | .lineComment => CharClass.isLineFeed next
  | .operator => allowsAfterOperator mode raw next
  | .endOfLine | .stringLiteral | .blockComment | .unexpected => true

/-- A lexeme may stand in front of a text: in front of the empty text, or of a text whose first
character may follow it. -/
def MayPrecede (mode : Mode) (kind : Token.Kind) (raw left : Text) : Prop :=
  ∀ c, left.head? = some c → allows mode kind raw c = true

/-! ## Faults -/

/-- The texts at whose front a fault lies: `Breaks fault lead tail left` holds if a text that
begins with the stretches `lead` and `tail`, and goes on with `left`, has the fault between the
two, and `tail` is used up as well. -/
inductive Breaks : Fault → (lead tail left : Text) → Prop where
  | missingHexDigits {digits left : Text}
      (hexadecimal : ∀ c ∈ digits, CharClass.isHexDigit c = true) (uncounted : CountsAsNone digits)
      (noDigit : Text.Stops CharClass.isHexDigit left) (noPoint : left.head? ≠ some '.') :
      Breaks .missingHexDigits ('0' :: 'x' :: digits) [] left
  | hexadecimalDot {digits left : Text}
      (hexadecimal : ∀ c ∈ digits, CharClass.isHexDigit c = true) :
      Breaks .hexadecimalDot ('0' :: 'x' :: digits) [] ('.' :: left)
  | negativeHexadecimal {left : Text} :
      Breaks .negativeHexadecimal [] ['-'] ('0' :: 'x' :: left)
  | doubleDot {sign whole fraction left : Text} (signed : IsSign sign) (nonempty : whole ≠ [])
      (decimal : ∀ c ∈ whole, c.isDigit = true)
      (decimalFraction : ∀ c ∈ fraction, c.isDigit = true) :
      Breaks .doubleDot (sign ++ whole ++ '.' :: fraction) [] ('.' :: left)
  | unexpectedEscape {raw meaning left : Text} {e : Char} (pieces : Pieces raw meaning)
      (unknown : ∀ d, (e, d) ∉ escapes) :
      Breaks (.unexpectedEscape e) ('"' :: raw) ['\\'] (e :: left)
  | unterminatedString {raw meaning : Text} (pieces : Pieces raw meaning) :
      Breaks .unterminatedString [] ('"' :: raw) []
  | unterminatedEscape {raw meaning : Text} (pieces : Pieces raw meaning) :
      Breaks .unterminatedString [] ('"' :: raw ++ ['\\']) []
  | unterminatedBlockComment {body : Text} (unclosed : ¬ ['*', '/'] <:+: body) :
      Breaks .unterminatedBlockComment [] ('/' :: '*' :: body) []

/-! ## Parses -/

/-- A text cut into lexemes, each with its kind. -/
inductive Parse (mode : Mode) : Text → List (Token.Kind × Text) → Prop where
  | nil : Parse mode [] []
  | cons {kind : Token.Kind} {raw text left : Text} {later : List (Token.Kind × Text)}
      (lexeme : Lexeme mode kind raw text) (follows : MayPrecede mode kind raw left)
      (rest : Parse mode left later) : Parse mode (raw ++ left) ((kind, raw) :: later)

/-! ## Basic facts -/

variable {mode : Mode} {kind : Token.Kind} {raw text : Text}

/-- No digits count as none. -/
theorem countsAsNone_nil : CountsAsNone [] := Nat.dvd_zero _

/-- Fewer than `2 ^ 32` digits count as none only if there are none. -/
theorem countsAsNone_iff_of_lt {digits : Text} (few : digits.length < Int32.size) :
    CountsAsNone digits ↔ digits = [] := by
  constructor
  · intro uncounted
    exact List.eq_nil_of_length_eq_zero (Nat.eq_zero_of_dvd_of_lt uncounted few)
  · rintro rfl
    exact countsAsNone_nil

/-- Behind the mark, any hexadecimal digits make up a number if they are some, and fewer than
`2 ^ 32`. -/
theorem lexeme_hexadecimal_iff_of_lt {digits : Text} (few : digits.length < Int32.size)
    (hexadecimal : ∀ c ∈ digits, CharClass.isHexDigit c = true) :
    Lexeme .full .hexadecimal ('0' :: 'x' :: digits) ('0' :: 'x' :: digits) ↔ digits ≠ [] := by
  rw [Ne, ← countsAsNone_iff_of_lt few]
  constructor
  · intro lexeme
    cases lexeme with
    | hexadecimal counted _ => exact counted
  · intro counted
    exact .hexadecimal counted hexadecimal

theorem eq_zero_of_mem_uncountedZeros {c : Char} (inside : c ∈ uncountedZeros) : c = '0' :=
  List.eq_of_mem_replicate inside

theorem isHexDigit_of_mem_uncountedZeros :
    ∀ c ∈ uncountedZeros, CharClass.isHexDigit c = true := by
  intro c inside
  rw [eq_zero_of_mem_uncountedZeros inside]
  rfl

theorem countsAsNone_uncountedZeros : CountsAsNone uncountedZeros :=
  ⟨1, List.length_replicate⟩

theorem uncountedZeros_ne_nil : uncountedZeros ≠ [] := by
  rw [uncountedZeros, Ne, List.replicate_eq_nil_iff]
  decide

/-- Zeros are hexadecimal digits, but so many of them are missing digits. -/
theorem breaks_uncountedZeros :
    Breaks .missingHexDigits ('0' :: 'x' :: uncountedZeros) [] [] :=
  .missingHexDigits isHexDigit_of_mem_uncountedZeros countsAsNone_uncountedZeros Text.stops_nil
    (by simp)

/-- No lexeme is empty. -/
theorem Lexeme.ne_nil (h : Lexeme mode kind raw text) : raw ≠ [] := by
  cases h with
  | space nonempty => exact nonempty
  | integer _ nonempty _ => simp [nonempty]
  | _ => simp

/-- A fault uses up some text. -/
theorem Breaks.ne_nil {f : Fault} {lead tail left : Text} (h : Breaks f lead tail left) :
    lead ++ tail ≠ [] := by
  cases h <;> simp

/-- The end of the text may follow every lexeme. -/
@[simp] theorem mayPrecede_nil : MayPrecede mode kind raw [] := by
  intro c h
  cases h

@[simp] theorem mayPrecede_cons {c : Char} {left : Text} :
    MayPrecede mode kind raw (c :: left) ↔ allows mode kind raw c = true := by
  simp [MayPrecede]

/-- A line feed may follow every lexeme. -/
theorem mayPrecede_lineFeed (left : Text) : MayPrecede mode kind raw ('\n' :: left) := by
  rw [mayPrecede_cons]
  cases kind <;> simp [allows, allowsAfterOperator] <;> decide

/-- A class that the followers of a lexeme must stay out of stops at what follows it. -/
theorem MayPrecede.stops {member : Char → Bool} {left : Text} (h : MayPrecede mode kind raw left)
    (excludes : ∀ c, allows mode kind raw c = true → member c = false) :
    Text.Stops member left :=
  fun c hc => excludes c (h c hc)

end Grammar

/-- What is found at the front of a text conforms to the grammar: it is a lexeme that may stand
in front of what is left, or a fault that lies there, and in no case a defect. Faults are known
where numbers, strings and comments are recognised. -/
def Reading.Conforms (mode : Mode) (input : Text) : Reading → Prop
  | .lexeme kind raw text =>
    Grammar.Lexeme mode kind raw text ∧ ∃ left, input = raw ++ left ∧
      Grammar.MayPrecede mode kind raw left
  | .fault f lead tail =>
    mode = .full ∧ ∃ left, input = lead ++ tail ++ left ∧
      Grammar.Breaks f lead tail left
  | .defect _ => False

end Lexing
