import Lexing.Lexeme.Reading

set_option relaxedAutoImplicit false
set_option autoImplicit false

/-!
# Quotations

String literals: text between double quotes. A backslash and the character after it stand for
one character; every other character stands for itself, line feeds included.

## Main definitions

* `Lexing.Quotation.unescape?` — what a character after a backslash stands for.
* `Lexing.Quotation.Body` — how the text after an opening quote goes on.
* `Lexing.Quotation.readBody` — the text after an opening quote, piece by piece.
* `Lexing.Quotation.read` — a string literal.

## Main results

* `Lexing.Quotation.fits_read` — each reading fits its text.
-/

namespace Lexing

namespace Quotation

/-- What a character after a backslash stands for. -/
def unescape? (c : Char) : Option Char :=
  match c with
  | '\\' => some '\\'
  | '\x27' => some '\x27'
  | '"' => some '"'
  | 'a' => some '\x07'
  | 'b' => some '\x08'
  | 'f' => some '\x0c'
  | 'n' => some '\n'
  | 'r' => some '\x0d'
  | 't' => some '\t'
  | 'v' => some '\x0b'
  | _ => none

/-- How the text after an opening quote goes on. -/
inductive Body where
  /-- Up to a closing quote: the pieces before it as they are written, and what they stand
  for. -/
  | closed (raw decoded : Text)
  /-- Up to a backslash with a character that stands for nothing: the pieces before it, and
  that character. -/
  | badEscape (raw : Text) (escaped : Char)
  /-- To the end of the text. -/
  | unclosed
deriving DecidableEq, Repr

/-- One more piece in front of a body. -/
def Body.addFront (raw : Text) (decoded : Char) : Body → Body
  | .closed raws decodeds => .closed (raw ++ raws) (decoded :: decodeds)
  | .badEscape raws escaped => .badEscape (raw ++ raws) escaped
  | .unclosed => .unclosed

/-- Reads the text after an opening quote, piece by piece. A text that ends after a backslash
has no closing quote. -/
def readBody : Text → Body
  | [] => .unclosed
  | c :: rest =>
    if c == '"' then .closed [] []
    else if c == '\\' then
      match rest with
      | [] => .unclosed
      | escaped :: others =>
        match unescape? escaped with
        | none => .badEscape [] escaped
        | some decoded => (readBody others).addFront [c, escaped] decoded
    else (readBody rest).addFront [c] c

/-- A string literal. The quotes belong to what it says. An escape that stands for nothing is a
fault at its backslash, and reading gives up right after the backslash; a missing closing quote
is a fault at the opening one, and all text is used up. -/
def read (input : Text) : Reading :=
  Reader.string.enter (· == '"') input fun quote rest =>
    match readBody rest with
    | .closed raw decoded =>
      .lexeme .stringLiteral (quote :: raw ++ ['"']) (quote :: decoded ++ ['"'])
    | .badEscape raw escaped => .fault (.unexpectedEscape escaped) (quote :: raw) ['\\']
    | .unclosed => .fault .unterminatedString [] input

/-- What a body spans: the pieces and the closing quote, or the pieces and the backslash. -/
theorem readBody_prefix (input : Text) :
    match readBody input with
    | .closed raw _ => raw ++ ['"'] <+: input
    | .badEscape raw escaped => raw ++ ['\\', escaped] <+: input
    | .unclosed => True := by
  fun_induction readBody input with
  | case1 => trivial
  | case2 c rest hq =>
    obtain rfl : c = '"' := by simpa using hq
    exact ⟨rest, rfl⟩
  | case3 => trivial
  | case4 c hq hb escaped others hnone =>
    obtain rfl : c = '\\' := by simpa using hb
    exact ⟨others, rfl⟩
  | case5 c hq hb escaped others decoded hsome ih =>
    cases hbody : readBody others <;> simp_all [Body.addFront, List.cons_prefix_cons]
  | case6 c rest hq hb ih =>
    cases hbody : readBody rest <;> simp_all [Body.addFront, List.cons_prefix_cons]

/-- A string literal fits the text at whose front it is read. -/
theorem fits_read (input : Text) : (read input).Fits input := by
  refine Reader.enter_induction (Reading.fits_defect input) fun c rest hi _ => ?_
  have span := readBody_prefix rest
  split
  · next raw decoded hbody =>
    rw [hbody] at span
    refine ⟨?_, fun _ => List.cons_ne_nil _ _⟩
    simpa [Reading.consumed, hi, List.cons_prefix_cons] using span
  · next raw escaped hbody =>
    rw [hbody] at span
    refine ⟨?_, fun _ => by simp [Reading.consumed]⟩
    obtain ⟨left, rfl⟩ := span
    exact ⟨escaped :: left, by simp [Reading.consumed, hi]⟩
  · exact Reading.fits_of_append [] (by simp [Reading.consumed])
      (by simp [Reading.consumed, hi])

end Quotation

end Lexing
