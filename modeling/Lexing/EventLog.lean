import Lexing.Session
import Lexing.Text.Quoted

set_option relaxedAutoImplicit false
set_option autoImplicit false

/-!
# Event log

What a session tells a log while it reads: one event for each token and one for each fault, with
the place where it begins. The end of the text is no event.

## Main definitions

* `Lexing.Event` — one entry of the log.
* `Lexing.Outcome.event?` — the event of a call.
* `Lexing.Session.log` — the events of all calls up to the end of the text.
-/

namespace Lexing

/-- How much an event matters: the more it matters, the more logs show it. -/
inductive Event.Level where
  | trace
  | debug
deriving DecidableEq, Repr

/-- The name of a level, as it is printed. -/
def Event.Level.name : Level → String
  | trace => "TRACE"
  | debug => "DEBUG"

/-- One entry of a log. Line and column count from zero. -/
structure Event where
  level : Event.Level
  message : String
  kind : Text
  line : Nat
  column : Nat
deriving DecidableEq, Repr

/-- The name of a fault with what it carries. -/
def Fault.label : Fault → Text
  | .unexpectedEscape escaped =>
    (Fault.unexpectedEscape escaped).name.toList ++ '(' :: Quoted.ofChar escaped ++ [')']
  | fault => fault.name.toList

/-- The event of a call, if it came to a token or a fault. -/
def Outcome.event? : Outcome → Option Event
  | .token t => some ⟨.trace, "token", t.kind.name.toList, t.span.line, t.span.column⟩
  | .failed (.fault r) => some ⟨.debug, "lexer error", r.fault.label, r.line, r.column⟩
  | _ => none

/-- The events of all calls up to the end of the text. -/
def Session.log (s : Session) (suppression : Suppression) (mode : Mode) : List Event :=
  (s.drain suppression mode).1.filterMap fun call => call.1.event?

end Lexing
