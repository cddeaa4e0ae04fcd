import Lexing.Text.Lines
import Lexing.Token

set_option relaxedAutoImplicit false
set_option autoImplicit false

/-!
# Tokens as JSON text

The JSON form of a token is an object of its kind, its text and its span. It is written without
any blank, or laid out with one element on each line.

## Main definitions

* `Lexing.Json.Layout` — compact or indented.
* `Lexing.Json.string`, `Lexing.Json.number`, `Lexing.Json.object`, `Lexing.Json.array` — the
  forms of JSON values.
* `Lexing.Json.token`, `Lexing.Json.tokens` — the forms of a token and of a list of tokens.
-/

namespace Lexing

namespace Json

/-- How JSON text is laid out: without blanks, or with each element on a line of its own. -/
inductive Layout where
  | compact
  | indented
deriving DecidableEq, Repr

/-- A hexadecimal number of four digits. -/
def fourHexDigits (n : Nat) : Text :=
  let digits := Nat.toDigits 16 n
  List.replicate (4 - digits.length) '0' ++ digits

/-- One character inside a string: only quotes, backslashes and the controls below the space are
escaped. -/
def escape (c : Char) : Text :=
  if c == '"' || c == '\\' then ['\\', c]
  else if c == '\x08' then ['\\', 'b']
  else if c == '\t' then ['\\', 't']
  else if c == '\n' then ['\\', 'n']
  else if c == '\x0c' then ['\\', 'f']
  else if c == '\x0d' then ['\\', 'r']
  else if c.toNat < 0x20 then ['\\', 'u'] ++ fourHexDigits c.toNat
  else [c]

/-- A string. -/
def string (text : Text) : Text :=
  '"' :: text.flatMap escape ++ ['"']

/-- A number in decimal. -/
def number (n : Nat) : Text :=
  Text.decimal n

/-- What stands before an element or a closing bracket at a depth: a new line and two spaces for
each level, or nothing. -/
def lineBreak (layout : Layout) (depth : Nat) : Text :=
  match layout with
  | .compact => []
  | .indented => '\n' :: List.replicate (2 * depth) ' '

/-- Elements between brackets, separated by commas. Without elements the brackets stand side by
side. -/
def bracketed (layout : Layout) (depth : Nat) (opening closing : Char)
    (elements : List Text) : Text :=
  if elements.isEmpty then [opening, closing]
  else
    opening ::
      [','].intercalate (elements.map fun element => lineBreak layout (depth + 1) ++ element) ++
      lineBreak layout depth ++ [closing]

/-- An array at a depth, of elements that are already written out. -/
def array (layout : Layout) (depth : Nat) (elements : List Text) : Text :=
  bracketed layout depth '[' ']' elements

/-- A field of an object. -/
def field (layout : Layout) (name value : Text) : Text :=
  string name ++ (match layout with
    | .compact => [':']
    | .indented => [':', ' ']) ++ value

/-- An object at a depth, of fields in order whose values are already written out. -/
def object (layout : Layout) (depth : Nat) (fields : List (Text × Text)) : Text :=
  bracketed layout depth '\x7b' '\x7d'
    (fields.map fun (name, value) => field layout name value)

/-- A span at a depth. -/
def span (layout : Layout) (depth : Nat) (s : Span) : Text :=
  object layout depth
    [("start".toList, number s.start), ("end".toList, number s.stop),
      ("line".toList, number s.line), ("column".toList, number s.column)]

/-- A token at a depth. -/
def token (layout : Layout) (depth : Nat) (t : Token) : Text :=
  object layout depth
    [("kind".toList, string t.kind.name.toList), ("text".toList, string t.text),
      ("span".toList, span layout (depth + 1) t.span)]

/-- A list of tokens. -/
def tokens (layout : Layout) (ts : List Token) : Text :=
  array layout 0 (ts.map (token layout 1))

end Json

end Lexing
