import Lexing.Command.Request

set_option relaxedAutoImplicit false
set_option autoImplicit false

/-!
# Arguments

The grammar of command lines. The first argument names a command; its options, flags and file
follow in any order. After `--` every argument is a file, whatever it looks like.

Arguments are taken from left to right, and the first reason to refuse wins. The value of an
option that follows as an argument of its own is judged late: when the next option, flag or file
has been told, or at the end. So an argument that is not known is refused before such a value.

## Main definitions

* `Lexing.Command.Argument` — the shapes of an argument.
* `Lexing.Command.Verb` — the commands, with the options they take.
* `Lexing.Command.Draft` — what has been taken of a command's arguments so far.
* `Lexing.Command.Draft.take` — one more argument.
* `Lexing.Command.parse` — the request of a command line, or why there is none.
-/

namespace Lexing

namespace Command

/-! ## Shapes -/

/-- The shapes of an argument. -/
inductive Argument where
  /-- Two hyphens: only files follow. -/
  | terminator
  /-- Two hyphens, a name, and perhaps an equals sign with a value. -/
  | long (name : Text) (value? : Option Text)
  /-- One hyphen and letters. -/
  | short (first : Char) (others : Text)
  /-- Anything else; a single hyphen and the empty text are such words. -/
  | word (text : Text)
deriving DecidableEq, Repr

/-- A text cut at its first equals sign, if it has one. -/
def cutAtEquals (text : Text) : Text × Option Text :=
  match text.dropWhile (· != '=') with
  | [] => (text, none)
  | _ :: value => (text.takeWhile (· != '='), some value)

/-- The shape of an argument. -/
def Argument.ofText : Text → Argument
  | ['-', '-'] => .terminator
  | '-' :: '-' :: rest =>
    let cut := cutAtEquals rest
    .long cut.1 cut.2
  | '-' :: first :: others => .short first others
  | text => .word text

/-! ## The arguments of a command -/

/-- The commands. -/
inductive Verb where
  | tokens
  | check
deriving DecidableEq, Repr

/-- The options and flags of commands. -/
inductive Switch where
  | help
  | literal
  | json
  | skip
deriving DecidableEq, Repr

/-- The name of a switch. -/
def Switch.name : Switch → Text
  | help => "help".toList
  | literal => "literal".toList
  | json => "json".toList
  | skip => "skip".toList

/-- The switches that a command takes. -/
def Verb.switches : Verb → List Switch
  | tokens => [.help, .literal, .json, .skip]
  | check => [.help, .literal]

/-- The letter that asks for help. -/
def helpLetter : Char := 'h'

/-- The letter that asks for the version. -/
def versionLetter : Char := 'V'

/-- An option that has been named, with its value once it is given. -/
inductive Pending where
  | none
  | unvalued
  | valued (value : Text)
deriving DecidableEq, Repr

/-- What has been taken of a command's arguments so far. -/
structure Draft where
  path? : Option Text
  trivia? : Option Trivia
  literal : Bool
  json : Bool
  pending : Pending
deriving DecidableEq, Repr

namespace Draft

/-- Nothing has been taken yet. -/
def empty : Draft := ⟨none, none, false, false, .none⟩

/-- Judges an option that has been named: it needs a value, must not be repeated, and its value
must be a choice. -/
def settle (d : Draft) : Except Refusal Draft :=
  match d.pending with
  | .none => .ok d
  | .unvalued => .error .invalidValue
  | .valued value =>
    if d.trivia?.isSome then .error .repeatedArgument
    else
      match Trivia.ofName? value with
      | none => .error .invalidValue
      | some choice => .ok { d with trivia? := some choice, pending := .none }

/-- Raises a flag, which must not be raised twice. -/
def raise (d : Draft) : Switch → Except Refusal Draft
  | .help => .error .help
  | .literal => if d.literal then .error .repeatedArgument else .ok { d with literal := true }
  | .json => if d.json then .error .repeatedArgument else .ok { d with json := true }
  | .skip => .ok { d with pending := .unvalued }

/-- Takes a switch, with the value that is attached to it. Only the one option takes a value;
an attached value is judged at once. -/
def takeSwitch (d : Draft) : Switch → Option Text → Except Refusal Draft
  | .skip, some value => do
    let settled ← d.settle
    { settled with pending := .valued value }.settle
  | _, some _ => .error .surplusValue
  | switch, none => do
    let settled ← d.settle
    settled.raise switch

/-- Takes a file. There is room for one. -/
def takePath (d : Draft) (path : Text) : Except Refusal Draft :=
  if d.path?.isSome then .error .unknownArgument
  else do
    let settled ← d.settle
    .ok { settled with path? := some path }

/-- Takes a word: the value of an option that still lacks it, or else a file. -/
def takeWord (d : Draft) (text : Text) : Except Refusal Draft :=
  match d.pending with
  | .unvalued => .ok { d with pending := .valued text }
  | _ => d.takePath text

/-- Takes one argument of a command. -/
def take (verb : Verb) (d : Draft) : Argument → Except Refusal Draft
  | .terminator => .ok d
  | .long name value? =>
    match verb.switches.find? fun switch => switch.name == name with
    | none => .error .unknownArgument
    | some switch => d.takeSwitch switch value?
  | .short first _ =>
    if first == helpLetter then d.takeSwitch .help none else .error .unknownArgument
  | .word text => d.takeWord text

/-- Takes the arguments of a command up to their end. -/
def takeAll (verb : Verb) (d : Draft) : List Text → Except Refusal Draft
  | [] => .ok d
  | text :: others =>
    match Argument.ofText text with
    | .terminator => others.foldlM takePath d
    | argument => do
      let taken ← d.take verb argument
      takeAll verb taken others

/-- The request that a command makes with its arguments. -/
def finish (verb : Verb) (d : Draft) : Except Refusal Request := do
  let settled ← d.settle
  match settled.path? with
  | none => .error .missingArgument
  | some path =>
    match verb with
    | .tokens =>
      .ok (.tokens path (settled.trivia?.getD .all) settled.literal settled.json)
    | .check => .ok (.check path settled.literal)

end Draft

/-! ## Command lines -/

/-- What the first word of a command line can name. -/
inductive Topic where
  | verb (verb : Verb)
  | help
deriving DecidableEq, Repr

/-- The topic of a word. -/
def Topic.ofName? (name : Text) : Option Topic :=
  if name == "tokens".toList then some (.verb .tokens)
  else if name == "check".toList then some (.verb .check)
  else if name == "help".toList then some .help
  else none

/-- What help on some topics comes to. A topic stands alone: it has no topics below it. -/
def helpOn : List Text → Refusal
  | [] => .help
  | [name] => if (Topic.ofName? name).isSome then .help else .unknownCommand
  | _ => .unknownCommand

/-- What a long name before any command comes to. -/
def refuseLong (name : Text) (value? : Option Text) : Refusal :=
  if name == "help".toList then if value?.isSome then .surplusValue else .help
  else if name == "version".toList then if value?.isSome then .surplusValue else .version
  else .unknownArgument

/-- What a letter before any command comes to. -/
def refuseShort (first : Char) : Refusal :=
  if first == helpLetter then .help
  else if first == versionLetter then .version
  else .unknownArgument

/-- What a command line comes to that opens with `--`. No command can follow, not even one that
exists. -/
def refuseTerminated : List Text → Refusal
  | [] => .noCommand
  | text :: _ => if (Topic.ofName? text).isSome then .unknownArgument else .unknownCommand

/-- The request of a command line, or why there is none. -/
def parse : List Text → Except Refusal Request
  | [] => .error .noCommand
  | text :: others =>
    match Argument.ofText text with
    | .terminator => .error (refuseTerminated others)
    | .long name value? => .error (refuseLong name value?)
    | .short first _ => .error (refuseShort first)
    | .word name =>
      match Topic.ofName? name with
      | none => .error .unknownCommand
      | some .help => .error (helpOn others)
      | some (.verb verb) => do
        let draft ← Draft.empty.takeAll verb others
        draft.finish verb

end Command

end Lexing
