import Lexing.Command.Run

set_option relaxedAutoImplicit false
set_option autoImplicit false

/-!
# Program

The command line program: it reads the file that its arguments name, and prints the report of
the run. Every decision is made by `Lexing.Command`; here stand only reading and printing.

## Main definitions

* `Lexing.Command.usage` — what help says.
* `Lexing.Command.contentsOf` — what comes of reading a file of the system.
* `main` — the program.
-/

namespace Lexing

namespace Command

/-- What help says, and what follows a mistake on the command line. -/
def usage : String :=
  "Tokenize source text and report lexical errors\n\n" ++
  "Usage: lexis <COMMAND>\n\n" ++
  "Commands:\n" ++
  "  tokens [--skip none|space|newline|all] [--literal] [--json] <PATH>\n" ++
  "      Print the token stream of a file\n" ++
  "  check [--literal] <PATH>\n" ++
  "      Scan a file to the end and report the first lexical error\n" ++
  "  help [COMMAND]\n" ++
  "      Print this message\n\n" ++
  "PATH is an input file, or - for standard input.\n"

/-- What a mistake on the command line is called. -/
def Refusal.complaint : Refusal → String
  | .noCommand => "a command is required"
  | .help => "help was asked for"
  | .version => "the version was asked for"
  | .unknownCommand => "unknown command"
  | .unknownArgument => "unexpected argument"
  | .missingArgument => "the input file is missing"
  | .invalidValue => "an option lacks its value, or has an invalid one"
  | .surplusValue => "a flag takes no value"
  | .repeatedArgument => "an option or flag is given twice"

/-- The words and the number that the system gives for an error. -/
def systemReason (details : String) (code : UInt32) : Text :=
  let number := code.toNat
  let shown := if number < 0x80000000 then number else 0x100000000 - number
  details.capitalize.toList ++ " (os error ".toList ++ Text.decimal shown ++ [')']

/-- The failure behind an error of the system. -/
def ReadFailure.ofSystem : IO.Error → ReadFailure
  | .noFileOrDirectory .. => .missing
  | .alreadyExists _ code details => .system (systemReason details code)
  | .otherError code details => .system (systemReason details code)
  | .resourceBusy code details => .system (systemReason details code)
  | .resourceVanished code details => .system (systemReason details code)
  | .unsupportedOperation code details => .system (systemReason details code)
  | .hardwareFault code details => .system (systemReason details code)
  | .unsatisfiedConstraints code details => .system (systemReason details code)
  | .illegalOperation code details => .system (systemReason details code)
  | .protocolError code details => .system (systemReason details code)
  | .timeExpired code details => .system (systemReason details code)
  | .interrupted _ code details => .system (systemReason details code)
  | .invalidArgument _ code details => .system (systemReason details code)
  | .permissionDenied _ code details => .system (systemReason details code)
  | .resourceExhausted _ code details => .system (systemReason details code)
  | .inappropriateType _ code details => .system (systemReason details code)
  | .noSuchThing _ code details => .system (systemReason details code)
  | .unexpectedEof => .system "unexpected end of file".toList
  | .userError message => .system message.toList

/-- The bytes of a stream up to its end, after those that have been read. -/
partial def bytesToEnd (input : IO.FS.Stream) (found : ByteArray) : IO ByteArray := do
  let more ← input.read 65536
  if more.isEmpty then return found
  bytesToEnd input (found ++ more)

/-- What comes of reading a file of the system, or standard input. -/
def contentsOf (path : Text) : IO (Except ReadFailure Text) := do
  if path == standardInput then
    try
      return decodeUtf8 (← bytesToEnd (← IO.getStdin) ByteArray.empty)
    catch e => return .error (.ofSystem e)
  else
    let name := String.ofList path
    try discard (IO.FS.realPath name)
    catch _ => return .error .missing
    try
      return decodeUtf8 (← IO.FS.readBinFile name)
    catch e => return .error (.ofSystem e)

/-- Prints a report and gives its exit status. -/
def Report.print (r : Report) : IO UInt32 := do
  (← IO.getStdout).putStr (String.ofList r.output)
  (← IO.getStderr).putStr (String.ofList r.errors)
  return r.status.toUInt32

/-- Prints what a command line comes to that makes no request. -/
def Refusal.print (r : Refusal) : IO UInt32 := do
  match r with
  | .help => (← IO.getStdout).putStr usage
  | .version => pure ()
  | mistake => (← IO.getStderr).putStr ("error: " ++ mistake.complaint ++ "\n\n" ++ usage)
  r.run.print

end Command

end Lexing

/-- The program. -/
def main (arguments : List String) : IO UInt32 := do
  match Lexing.Command.parse (arguments.map String.toList) with
  | .error refusal => refusal.print
  | .ok request =>
    let contents ← Lexing.Command.contentsOf request.path
    (request.run contents).print
