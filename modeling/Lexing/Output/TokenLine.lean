import Lexing.Text.Lines
import Lexing.Text.Quoted
import Lexing.Token

set_option relaxedAutoImplicit false
set_option autoImplicit false

/-!
# Token lines

A token on one line: its place, its kind and its text, separated by tabs. The text is quoted,
so that no character of it can end the line or the column.

## Main definitions

* `Lexing.TokenLine.render` — one token, without the line feed.
* `Lexing.TokenLine.renderAll` — one line for each token.
-/

namespace Lexing

namespace TokenLine

/-- One token: line and column counted from one, the kind, and the quoted text. -/
def render (t : Token) : Text :=
  Text.decimal (t.span.line + 1) ++ ':' :: Text.decimal (t.span.column + 1) ++
    '\t' :: t.kind.name.toList ++ '\t' :: Quoted.ofText t.text

/-- One line for each token. -/
def renderAll (tokens : List Token) : Text :=
  tokens.flatMap fun t => render t ++ ['\n']

end TokenLine

end Lexing
