import Lexing.Excerpt
import Lexing.Position

set_option relaxedAutoImplicit false
set_option autoImplicit false

/-!
# Faults

A fault is a reason why no token can be read. A report is a fault at a place in a source text,
worded for a person.

## Main definitions

* `Lexing.Fault` — the reasons, with `Lexing.Fault.message` and `Lexing.Fault.name`.
* `Lexing.FaultReport` — a fault, its line and column, and an excerpt of the source.
* `Lexing.FaultReport.display` — the report as it is shown.
-/

namespace Lexing

/-- A reason why no token can be read. -/
inductive Fault where
  /-- No hexadecimal digit follows the mark `0x`. -/
  | missingHexDigits
  /-- A point follows a hexadecimal number. -/
  | hexadecimalDot
  /-- A hexadecimal number has a minus sign. -/
  | negativeHexadecimal
  /-- A number has two points. -/
  | doubleDot
  /-- A backslash in a string is followed by a character that stands for nothing. -/
  | unexpectedEscape (escaped : Char)
  /-- The text ends inside a block comment. -/
  | unterminatedBlockComment
  /-- The text ends inside a string. -/
  | unterminatedString
deriving DecidableEq, Repr

namespace Fault

/-- The name of a fault. -/
def name : Fault → String
  | missingHexDigits => "MissingHexDigits"
  | hexadecimalDot => "HexadecimalDot"
  | negativeHexadecimal => "NegativeHexadecimal"
  | doubleDot => "DoubleDot"
  | unexpectedEscape _ => "UnexpectedEscape"
  | unterminatedBlockComment => "UnterminatedBlockComment"
  | unterminatedString => "UnterminatedString"

/-- The wording of a fault. -/
def message : Fault → Text
  | missingHexDigits => "expected at least one hexadecimal digit after `0x`".toList
  | hexadecimalDot => "hexadecimal literal cannot contain `.`".toList
  | negativeHexadecimal => "negative hexadecimal literals are not supported".toList
  | doubleDot => "double dot in number literal".toList
  | unexpectedEscape escaped =>
    "unexpected escape character `".toList ++ [escaped] ++ "`".toList
  | unterminatedBlockComment => "unterminated block comment, expected `*/`".toList
  | unterminatedString => "unterminated string literal, expected `\"`".toList

end Fault

/-- A fault at a place in a source text. Line and column count from zero. -/
structure FaultReport where
  fault : Fault
  line : Nat
  column : Nat
  excerpt : Text
deriving DecidableEq, Repr

namespace FaultReport

/-- The report of a fault at a line and column of a source text. -/
def ofPlace (fault : Fault) (source : Text) (line column : Nat) : FaultReport :=
  ⟨fault, line, column, Excerpt.render source line column⟩

/-- The report of a fault at a position of a source text. -/
def ofPosition (fault : Fault) (source : Text) (position : Position) : FaultReport :=
  ofPlace fault source position.line position.column

/-- The wording of the fault that is reported. -/
def message (r : FaultReport) : Text := r.fault.message

/-- The report as it is shown: the place, counted from one, the wording, and the excerpt. -/
def display (r : FaultReport) : Text :=
  "Lexer error at line ".toList ++ Text.decimal (r.line + 1) ++ ", column ".toList ++
    Text.decimal (r.column + 1) ++ ": ".toList ++ r.message ++ '\n' :: r.excerpt

end FaultReport

end Lexing
