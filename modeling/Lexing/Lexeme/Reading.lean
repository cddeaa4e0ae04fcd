import Lexing.Fault
import Lexing.Token

set_option relaxedAutoImplicit false
set_option autoImplicit false

/-!
# Readings

A reading is what is found at the front of the remaining text: a lexeme of some kind, or a
fault. Readers produce readings, one for each way in which a token can begin. A reader may be
entered only on a character that it admits; entering it elsewhere is a defect of the library and
no fault of the text, so it has an outcome of its own.

## Main definitions

* `Lexing.Reader` — the ways in which a token can begin.
* `Lexing.Defect` — a reader entered on a character that it does not admit.
* `Lexing.Reading` — a lexeme, a fault or a defect.
* `Lexing.Reading.Fits` — a reading uses up a leading part of its text, and not nothing.
* `Lexing.Reader.enter` — the check at the door of every reader.

## Main results

* `Lexing.Reader.enter_of_admits` — behind the door the check leaves no trace.
* `Lexing.Reader.enter_induction` — what holds of defects and behind the door holds of a reader.
-/

namespace Lexing

/-- The ways in which a token can begin. -/
inductive Reader where
  | blank
  | lineFeed
  | word (mode : Mode)
  | foreign
  | operator
  | number
  | negativeNumber
  | string
  | slash
deriving DecidableEq, Repr

/-- A reader was entered on a character that it does not admit, or on no character at all. -/
structure Defect where
  reader : Reader
  found : Option Char
deriving DecidableEq, Repr

/-- What is found at the front of a text. -/
inductive Reading where
  /-- A lexeme: the stretch `raw` at the front of the text makes up a token that says `text`. -/
  | lexeme (kind : Token.Kind) (raw text : Text)
  /-- A fault: it lies after the stretch `lead`, and reading gives up after the further stretch
  `tail`. -/
  | fault (fault : Fault) (lead tail : Text)
  /-- The reader should not have been entered. -/
  | defect (defect : Defect)
deriving DecidableEq, Repr

namespace Reading

/-- A lexeme that says what it is. -/
def verbatim (kind : Token.Kind) (raw : Text) : Reading :=
  .lexeme kind raw raw

/-- The stretch of text that a reading uses up. -/
def consumed : Reading → Text
  | .lexeme _ raw _ => raw
  | .fault _ lead tail => lead ++ tail
  | .defect _ => []

/-- Whether the reading is a defect. -/
def isDefect : Reading → Bool
  | .defect _ => true
  | _ => false

/-- A reading fits a text if it uses up a leading part of it, and, unless it is a defect, at
least one character. -/
def Fits (input : Text) (r : Reading) : Prop :=
  r.consumed <+: input ∧ (r.isDefect = false → r.consumed ≠ [])

/-- A defect fits every text. -/
theorem fits_defect (input : Text) (d : Defect) : Fits input (.defect d) :=
  ⟨List.nil_prefix, fun h => by cases h⟩

/-- A reading that uses up the stretch between a text and a rest of it, which is not empty, fits
the text. -/
theorem fits_of_append (rest : Text) {input : Text} {r : Reading}
    (split : input = r.consumed ++ rest) (progress : r.consumed ≠ []) : Fits input r :=
  ⟨⟨rest, split.symm⟩, fun _ => progress⟩

end Reading

namespace Reader

/-- Enters a reader on a text: its first character must be admitted. -/
def enter (reader : Reader) (admits : Char → Bool) (input : Text)
    (read : Char → Text → Reading) : Reading :=
  match input with
  | [] => .defect ⟨reader, none⟩
  | c :: rest => if admits c then read c rest else .defect ⟨reader, some c⟩

/-- Behind the door the check leaves no trace. -/
theorem enter_of_admits (reader : Reader) {admits : Char → Bool} {c : Char} (rest : Text)
    (read : Char → Text → Reading) (h : admits c = true) :
    reader.enter admits (c :: rest) read = read c rest := by
  simp [enter, h]

/-- What holds of every defect, and of what is read behind the door, holds of the reader. -/
theorem enter_induction {motive : Reading → Prop} {reader : Reader} {admits : Char → Bool}
    {input : Text} {read : Char → Text → Reading} (defect : ∀ d, motive (.defect d))
    (entered : ∀ c rest, input = c :: rest → admits c = true → motive (read c rest)) :
    motive (reader.enter admits input read) := by
  unfold enter
  split
  · exact defect _
  · split
    · next c rest ha => exact entered c rest rfl ha
    · exact defect _

end Reader

end Lexing
