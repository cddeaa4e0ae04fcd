import Lexing.Text.CharClass

set_option relaxedAutoImplicit false
set_option autoImplicit false

/-!
# Release

The name and the version under which the program is released.

## Main definitions

* `Lexing.Release.version` — the version.
* `Lexing.Release.banner` — the line that tells name and version.
-/

namespace Lexing

namespace Release

/-- The name of the program. -/
def program : Text := "lexis".toList

/-- The version of the program and of the library. -/
def version : Text := "0.3.0".toList

/-- The line that tells name and version, without its line feed. -/
def banner : Text := program ++ ' ' :: version

end Release

end Lexing
