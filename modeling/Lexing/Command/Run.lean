import Lexing.Command.Arguments
import Lexing.Command.FileTree
import Lexing.Embedding
import Lexing.Output.Json
import Lexing.Output.TokenLine
import Lexing.Release

set_option relaxedAutoImplicit false
set_option autoImplicit false

/-!
# Runs

What a run of the program prints and how it ends. A request that fails prints nothing but its
failure; a request that succeeds prints all its tokens, or how many there are.

## Main definitions

* `Lexing.Command.Report` — the exit status and what is printed.
* `Lexing.Command.ReadFailure.message` — the wording of a file that cannot be read.
* `Lexing.Command.Request.run` — the run of a request, given what comes of reading its file.
* `Lexing.Command.run` — the run of a command line, given what comes of reading any file.
-/

namespace Lexing

namespace Command

/-- How a run ends: its exit status, and what it prints to standard output and to standard
error. -/
structure Report where
  status : Nat
  output : Text
  errors : Text
deriving DecidableEq, Repr

namespace Report

/-- The report of a run that succeeds. -/
def success (output errors : Text) : Report := ⟨0, output, errors⟩

/-- The report of a run that fails: the reason on a line of its own. -/
def failure (message : Text) : Report := ⟨1, [], message ++ ['\n']⟩

end Report

/-- The wording of a reason for which a path could not be read. -/
def ReadFailure.reason : ReadFailure → Text
  | .missing => "file not found".toList
  | .notText => "stream did not contain valid UTF-8".toList
  | .system reason => reason

/-- The wording of a file that cannot be read. -/
def ReadFailure.message (path : Text) (e : ReadFailure) : Text :=
  if path == standardInput then "Error reading standard input: ".toList ++ e.reason
  else
    match e with
    | .missing => "Error: ".toList ++ e.reason ++ ": ".toList ++ path
    | _ => "Error reading ".toList ++ path ++ ": ".toList ++ e.reason

/-- The wording of a failure to read tokens. A defect never reaches a person: no text leads to
one. -/
def failureMessage : Failure → Text
  | .fault report => report.display
  | .defect _ => "defective reader".toList

/-- The tokens as they are printed: JSON text on lines of its own, or one line for each. -/
def printTokens (json : Bool) (tokens : List Token) : Text :=
  if json then Json.tokens .indented tokens ++ ['\n'] else TokenLine.renderAll tokens

/-- The line that tells how many tokens a file has. -/
def countLine (path : Text) (count : Nat) : Text :=
  "OK: ".toList ++ path ++ " (".toList ++ Text.decimal count ++ " tokens)\n".toList

namespace Request

/-- The suppression under which a request reads. A check leaves nothing out. -/
def suppression : Request → Suppression
  | .tokens _ trivia _ _ => trivia.suppression
  | .check _ _ => .none

/-- The mode in which a request reads. -/
def mode : Request → Mode
  | .tokens _ _ literal _ => .ofLiteral literal
  | .check _ literal => .ofLiteral literal

/-- What is printed about the tokens of a request's file. -/
def reportTokens (r : Request) (found : List Token) : Report :=
  match r with
  | .tokens _ _ _ json => .success (printTokens json found) []
  | .check path _ => .success [] (countLine path found.length)

/-- The run of a request, given what comes of reading its file. -/
def run (r : Request) (contents : Except ReadFailure Text) : Report :=
  match contents with
  | .error e => .failure (e.message r.path)
  | .ok source =>
    match tokenize source r.suppression r.mode with
    | .error failure => .failure (failureMessage failure)
    | .ok found => r.reportTokens found

end Request

/-- What a command line comes to that makes no request. Help and version are answers and no
mistakes; what help and the wording of mistakes say is left to the caller. -/
def Refusal.run : Refusal → Report
  | .version => .success (Release.banner ++ ['\n']) []
  | .help => .success [] []
  | _ => ⟨2, [], []⟩

/-- The run of a command line, given what comes of reading any file. -/
def run (arguments : List Text) (read : Text → Except ReadFailure Text) : Report :=
  match parse arguments with
  | .error refusal => refusal.run
  | .ok request => request.run (read request.path)

end Command

end Lexing
