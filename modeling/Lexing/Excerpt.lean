import Lexing.Text.Lines

set_option relaxedAutoImplicit false
set_option autoImplicit false

/-!
# Excerpts

An excerpt shows a place in a source text to a person: the line of the place with the lines
just before it, numbered from one, and a caret under the column.

```text
8 | let b =
9 |     1.2.3
  |        ^
```

## Main definitions

* `Lexing.Excerpt.rows` — the numbered lines.
* `Lexing.Excerpt.caretRow` — the row with the caret.
* `Lexing.Excerpt.render` — the rows, separated by line feeds.
-/

namespace Lexing

namespace Excerpt

/-- At most this many lines are shown, the line of the place included. -/
def maxRows : Nat := 3

/-- What stands between the line numbers and the text. -/
def separator : Text := " | ".toList

/-- The index of the line that is shown last: the given line, or the last one of the text where
the text has fewer. -/
def lastShown (source : Text) (line : Nat) : Nat :=
  min line ((Text.lines source).length - 1)

/-- The width of the column of line numbers. -/
def gutterWidth (source : Text) (line : Nat) : Nat :=
  (Text.decimal (lastShown source line + 1)).length

/-- One row: a label, flush right in its column, then a stretch of text. -/
def row (width : Nat) (label content : Text) : Text :=
  Text.padLeft width label ++ separator ++ content

/-- A source line as it is shown: without the carriage returns at its end. -/
def shown (line : Text) : Text :=
  Text.dropLastWhile (· == '\r') line

/-- The numbered lines, the line of the place last. -/
def rows (source : Text) (line : Nat) : List Text :=
  let last := lastShown source line
  let first := last - (maxRows - 1)
  let shownLines := ((Text.lines source).take (last + 1)).drop first
  (shownLines.zipIdx (first + 1)).map fun (content, number) =>
    row (gutterWidth source line) (Text.decimal number) (shown content)

/-- Blank text as wide as the characters before a column. A tab stays a tab, so that the caret
comes to stand under its column whatever the width of tabs. -/
def caretPadding (line : Text) (column : Nat) : Text :=
  (line.take column).map fun c => if c == '\t' then '\t' else ' '

/-- The row with the caret. A column past the end of the line is taken to be its end. -/
def caretRow (source : Text) (line column : Nat) : Text :=
  let pointedAt := ((Text.lines source)[lastShown source line]?).getD []
  row (gutterWidth source line) [] (caretPadding pointedAt column ++ ['^'])

/-- The excerpt for a line and a column, both counted from zero. -/
def render (source : Text) (line column : Nat) : Text :=
  Text.joinLines (rows source line ++ [caretRow source line column])

end Excerpt

end Lexing
