set_option relaxedAutoImplicit false
set_option autoImplicit false

/-!
# Character classes

The classes by which a character of source text is told apart. All but `isWhiteSpace` are
classes of ASCII characters or complements of such classes: letters and digits of other
scripts belong to no word.

## Main definitions

* `Lexing.Text` — source text, a list of Unicode scalar values.
* `Lexing.CharClass.isBlank` — space, tab and carriage return.
* `Lexing.CharClass.isWordPart` — ASCII letters, ASCII digits and the underscore.
* `Lexing.CharClass.isForeign` — characters outside ASCII, and ASCII controls that lay out no
  text.
* `Lexing.CharClass.isWhiteSpace` — the Unicode property `White_Space`.

## Main results

* `Lexing.CharClass.isWhiteSpace_eq_false_of_graphic` — no visible ASCII character is white
  space.
-/

namespace Lexing

/-- Source text, a list of Unicode scalar values. -/
abbrev Text := List Char

namespace CharClass

/-- Space, tab and carriage return: the characters that separate words within a line. -/
def isBlank (c : Char) : Bool :=
  c == ' ' || c == '\t' || c == '\r'

/-- The line feed, the only character that ends a line. -/
def isLineFeed (c : Char) : Bool :=
  c == '\n'

/-- ASCII hexadecimal digits, in either case. -/
def isHexDigit (c : Char) : Bool :=
  c.isDigit || ('a' ≤ c && c ≤ 'f') || ('A' ≤ c && c ≤ 'F')

/-- ASCII letters and the underscore: the characters that can open a word where numbers are
recognised. -/
def isWordLetter (c : Char) : Bool :=
  c == '_' || c.isAlpha

/-- ASCII letters, ASCII digits and the underscore: the characters that a word is made of. -/
def isWordPart (c : Char) : Bool :=
  c == '_' || c.isAlphanum

/-- ASCII control characters, `U+007F` included. -/
def isAsciiControl (c : Char) : Bool :=
  c.toNat < 0x20 || c.toNat == 0x7F

/-- The characters that no token other than strings and comments may hold: everything outside
ASCII, and the ASCII controls other than tab, carriage return and line feed. -/
def isForeign (c : Char) : Bool :=
  0x80 ≤ c.toNat || (isAsciiControl c && !isBlank c && !isLineFeed c)

/-- The Unicode property `White_Space`. -/
def isWhiteSpace (c : Char) : Bool :=
  let n := c.toNat
  (0x9 ≤ n && n ≤ 0xD) || n == 0x20 || n == 0x85 || n == 0xA0 || n == 0x1680 ||
    (0x2000 ≤ n && n ≤ 0x200A) || n == 0x2028 || n == 0x2029 || n == 0x202F || n == 0x205F ||
    n == 0x3000

/-- No visible ASCII character is white space. -/
theorem isWhiteSpace_eq_false_of_graphic {c : Char} (low : 0x20 < c.toNat)
    (high : c.toNat < 0x7F) : isWhiteSpace c = false := by
  simp only [isWhiteSpace, Bool.or_eq_false_iff, Bool.and_eq_false_iff, decide_eq_false_iff_not,
    beq_eq_false_iff_ne]
  omega

/-- A letter that opens a word can also continue it. -/
theorem isWordPart_of_isWordLetter {c : Char} (h : isWordLetter c = true) :
    isWordPart c = true := by
  simp only [isWordLetter, isWordPart, Char.isAlphanum, Bool.or_eq_true] at h ⊢
  exact h.imp_right Or.inl

end CharClass

end Lexing
