import Lexing.Lexeme.Numeral
import Lexing.Lexeme.Plain
import Lexing.Lexeme.Quotation
import Lexing.Lexeme.Slash

set_option relaxedAutoImplicit false
set_option autoImplicit false

/-!
# Recognition

The first character of the remaining text, and at a minus sign the one after it, tell which
reader reads the next token.

## Main definitions

* `Lexing.Reader.route` — the reader for a first character.
* `Lexing.Reader.read` — what a reader finds at the front of a text.
* `Lexing.recognise` — what is found at the front of a text that is not empty.

## Main results

* `Lexing.Reader.fits_read` — every reader fits its text, whatever it is entered on.
* `Lexing.fits_recognise` — what is recognised uses up a leading part of the text.
-/

namespace Lexing

namespace Reader

/-- The reader for a first character, given the one that follows it. -/
def route (mode : Mode) (c : Char) (next? : Option Char) : Reader :=
  if CharClass.isBlank c then .blank
  else if CharClass.isLineFeed c then .lineFeed
  else if Plain.opensWord mode c then .word mode
  else if CharClass.isForeign c then .foreign
  else
    match mode with
    | .literal => .operator
    | .full =>
      if c.isDigit then .number
      else if c == '-' && next?.any Char.isDigit then .negativeNumber
      else if c == '"' then .string
      else if c == '/' then .slash
      else .operator

/-- What a reader finds at the front of a text. -/
def read : Reader → Text → Reading
  | .blank => Plain.readBlanks
  | .lineFeed => Plain.readLineFeed
  | .word mode => Plain.readWord mode
  | .foreign => Plain.readForeign
  | .operator => Plain.readOperator
  | .number => Numeral.read
  | .negativeNumber => Numeral.readNegative
  | .string => Quotation.read
  | .slash => Slash.read

/-- Every reader fits its text, whatever it is entered on. -/
theorem fits_read (reader : Reader) (input : Text) : (reader.read input).Fits input := by
  cases reader with
  | blank => exact Plain.fits_readRun (fun _ h => h) input
  | lineFeed => exact Plain.fits_readSingle _ _ _ input
  | word mode => exact Plain.fits_readRun (fun _ h => Plain.isWordPart_of_opensWord h) input
  | foreign => exact Plain.fits_readSingle _ _ _ input
  | operator => exact Plain.fits_readOperator input
  | number => exact Numeral.fits_read input
  | negativeNumber => exact Numeral.fits_readNegative input
  | string => exact Quotation.fits_read input
  | slash => exact Slash.fits_read input

end Reader

/-- What is found at the front of the text `c :: rest`. -/
def recognise (mode : Mode) (c : Char) (rest : Text) : Reading :=
  (Reader.route mode c rest.head?).read (c :: rest)

/-- What is recognised uses up a leading part of the text, and not nothing. -/
theorem fits_recognise (mode : Mode) (c : Char) (rest : Text) :
    (recognise mode c rest).Fits (c :: rest) :=
  Reader.fits_read _ _

end Lexing
