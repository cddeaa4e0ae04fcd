import Lexing.Position

set_option relaxedAutoImplicit false
set_option autoImplicit false

/-!
# Tokens

A token is a classified stretch of source text. Its text is the stretch itself, but for string
literals, whose escapes are resolved.

## Main definitions

* `Lexing.Mode` — whether numbers, strings and comments are recognised.
* `Lexing.Token.Kind` — the closed set of kinds, with their names.
* `Lexing.Span` — where the stretch lies in the source.
* `Lexing.Token` — kind, text and span.
* `Lexing.Token.stringValue?` — what a string literal stands for.
-/

namespace Lexing

/-- How much of the language is recognised: everything, or only words, operators and trivia. In
literal mode digits open words, and quotes, slashes and minus signs are operators. -/
inductive Mode where
  | full
  | literal
deriving DecidableEq, Repr

/-- Where a stretch of source text lies: its ends as byte offsets, and the line and column of
its first character, counted from zero. -/
structure Span where
  start : Nat
  stop : Nat
  line : Nat
  column : Nat
deriving DecidableEq, Repr

namespace Span

/-- The span between two positions. -/
def between (first past : Position) : Span :=
  ⟨first.byte, past.byte, first.line, first.column⟩

/-- The number of bytes spanned. -/
def length (s : Span) : Nat := s.stop - s.start

/-- Whether nothing is spanned. -/
def isEmpty (s : Span) : Bool := s.start == s.stop

end Span

/-- A classified stretch of source text. -/
inductive Token.Kind where
  /-- One or more spaces, tabs and carriage returns. -/
  | space
  /-- Digits, possibly after a minus sign. -/
  | integer
  /-- Digits with one point among or after them, possibly after a minus sign. -/
  | float
  /-- The mark `0x` and at least one hexadecimal digit. -/
  | hexadecimal
  /-- A word of letters, digits and underscores. -/
  | identifier
  /-- One or two characters of punctuation. -/
  | operator
  /-- A text between double quotes. -/
  | stringLiteral
  /-- A comment between `/*` and `*/`. -/
  | blockComment
  /-- A comment from `//` to the end of its line. -/
  | lineComment
  /-- One line feed. -/
  | endOfLine
  /-- One character that no other kind may hold. -/
  | unexpected
deriving DecidableEq, Repr

namespace Token.Kind

/-- The name of a kind, as it is printed. -/
def name : Kind → String
  | space => "Space"
  | integer => "Integer"
  | float => "Float"
  | hexadecimal => "Hexadecimal"
  | identifier => "Identifier"
  | operator => "Operator"
  | stringLiteral => "StringLiteral"
  | blockComment => "BlockComment"
  | lineComment => "LineComment"
  | endOfLine => "EndOfLine"
  | unexpected => "Unexpected"

/-- Every kind once. -/
def all : List Kind :=
  [space, integer, float, hexadecimal, identifier, operator, stringLiteral, blockComment,
    lineComment, endOfLine, unexpected]

/-- The kind of a name. -/
def ofName? (name : String) : Option Kind :=
  all.find? fun kind => kind.name == name

/-- Whether the kind only lays out text: these are the kinds that can be suppressed. -/
def isTrivia : Kind → Bool
  | space | endOfLine => true
  | _ => false

/-- Every kind is found by its name. -/
theorem ofName?_name (kind : Kind) : ofName? kind.name = some kind := by
  cases kind <;> decide

/-- Kinds of the same name are the same. -/
theorem name_inj {kind other : Kind} (same : kind.name = other.name) : kind = other := by
  apply Option.some.inj
  rw [← ofName?_name kind, same, ofName?_name]

end Token.Kind

/-- A classified stretch of source text: its kind, what it says, and where it lies. -/
structure Token where
  kind : Token.Kind
  text : Text
  span : Span
deriving DecidableEq, Repr

namespace Token

/-- A text without one double quote at each end, if it has both and they are two. -/
def unquote? : Text → Option Text
  | [] => none
  | c :: inner => if c == '"' && inner.getLast? == some '"' then some inner.dropLast else none

/-- What a string literal stands for: its text without the quotes. Other kinds stand for no
string. -/
def stringValue? (t : Token) : Option Text :=
  match t.kind with
  | .stringLiteral => unquote? t.text
  | _ => none

/-- Quotes are taken off again, whatever stands between them. -/
theorem unquote?_quoted (inner : Text) : unquote? ('"' :: (inner ++ ['"'])) = some inner := by
  simp [unquote?]

end Token

end Lexing
