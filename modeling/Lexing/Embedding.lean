import Lexing.TokenStream

set_option relaxedAutoImplicit false
set_option autoImplicit false

/-!
# Embedding

The entry point for programs that hold no values of this library: trivia flags come as a byte,
the mode as a truth value.

## Main definitions

* `Lexing.Embedding.tokens` — all tokens of a text, or the first failure.
-/

namespace Lexing

/-- The mode that is literal or not. -/
def Mode.ofLiteral (literal : Bool) : Mode :=
  if literal then .literal else .full

namespace Embedding

/-- All tokens of a text, or the first failure. Bits of `flags` that have no meaning are
ignored. -/
def tokens (source : Text) (flags : UInt8) (literal : Bool) : Except Failure (List Token) :=
  tokenize source (Suppression.truncate ⟨flags⟩) (.ofLiteral literal)

end Embedding

end Lexing
