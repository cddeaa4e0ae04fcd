import Lexing.Suppression
import Lexing.Token

set_option relaxedAutoImplicit false
set_option autoImplicit false

/-!
# Requests

What a command line can ask for: the tokens of a file, or only whether it has any fault.

## Main definitions

* `Lexing.Command.Trivia` — the choices of trivia to leave out, by name.
* `Lexing.Command.Request` — the two requests.
* `Lexing.Command.Refusal` — why a command line makes no request.
-/

namespace Lexing

namespace Command

/-- Which trivia to leave out of the tokens. -/
inductive Trivia where
  | none
  | space
  | newline
  | all
deriving DecidableEq, Repr

namespace Trivia

/-- The word for a choice. -/
def name : Trivia → Text
  | none => "none".toList
  | space => "space".toList
  | newline => "newline".toList
  | all => "all".toList

/-- The choice of a word. Upper case makes another word. -/
def ofName? (name : Text) : Option Trivia :=
  [none, space, newline, all].find? fun choice => choice.name == name

/-- The suppression that a choice stands for. -/
def suppression : Trivia → Suppression
  | none => .none
  | space => .blanks
  | newline => .lineFeeds
  | all => .all

/-- Every choice is found by its word. -/
theorem ofName?_name (choice : Trivia) : ofName? choice.name = some choice := by
  cases choice <;> rfl

end Trivia

/-- The path that stands for standard input. -/
def standardInput : Text := ['-']

/-- What a command line can ask for. -/
inductive Request where
  /-- The tokens of a file: one line for each, or as JSON text. -/
  | tokens (path : Text) (trivia : Trivia) (literal json : Bool)
  /-- Whether a file can be read to its end without a fault. -/
  | check (path : Text) (literal : Bool)
deriving DecidableEq, Repr

/-- The file that is asked about. -/
def Request.path : Request → Text
  | .tokens path _ _ _ => path
  | .check path _ => path

/-- Why a command line makes no request. -/
inductive Refusal where
  /-- There is no command at all. -/
  | noCommand
  /-- Help is asked for. -/
  | help
  /-- The version is asked for. -/
  | version
  /-- A command, or a topic of help, that does not exist. -/
  | unknownCommand
  /-- An argument that the command does not take. -/
  | unknownArgument
  /-- The command lacks its file. -/
  | missingArgument
  /-- An option lacks its value, or has one that is no choice. -/
  | invalidValue
  /-- A flag has a value. -/
  | surplusValue
  /-- An option or a flag is given twice. -/
  | repeatedArgument
deriving DecidableEq, Repr

end Command

end Lexing
