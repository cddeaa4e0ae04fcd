import Lexing.Text.Unicode

set_option relaxedAutoImplicit false
set_option autoImplicit false

/-!
# Quoted text

Text written between quotes on one line, so that every character of it can be told. Characters
that cannot be seen, or that would be seen as part of the one before, are written by number.

## Main definitions

* `Lexing.Quoted.escape` — one character as it is written between quotes of a kind.
* `Lexing.Quoted.ofText` — a text between double quotes.
* `Lexing.Quoted.ofChar` — a character between single quotes.
-/

namespace Lexing

namespace Quoted

/-- The lower-case hexadecimal digits of a number. -/
def hexadecimal (n : Nat) : Text :=
  Nat.toDigits 16 n

/-- A character by its number: `\u`, then the hexadecimal digits in braces. -/
def byNumber (c : Char) : Text :=
  ['\\', 'u', '\x7b'] ++ hexadecimal c.toNat ++ ['\x7d']

/-- One character as it is written between two of `quote`. The other quote needs no escape. -/
def escape (quote c : Char) : Text :=
  if c == '\x00' then ['\\', '0']
  else if c == '\t' then ['\\', 't']
  else if c == '\x0d' then ['\\', 'r']
  else if c == '\n' then ['\\', 'n']
  else if c == '\\' || c == quote then ['\\', c]
  else if Unicode.isExtendingMark c || Unicode.isInvisible c then byNumber c
  else [c]

/-- A text between double quotes. -/
def ofText (text : Text) : Text :=
  '"' :: text.flatMap (escape '"') ++ ['"']

/-- A character between single quotes. -/
def ofChar (c : Char) : Text :=
  '\x27' :: escape '\x27' c ++ ['\x27']

end Quoted

end Lexing
