import Lexing.Lexeme.Reading

set_option relaxedAutoImplicit false
set_option autoImplicit false

/-!
# Plain lexemes

Lexemes that are told by their first character and never fail: runs of blanks, line feeds,
words, foreign characters and operators. A run is taken as long as it goes. An operator is one
character, but for the four that end in an equals sign.

## Main definitions

* `Lexing.Plain.readRun` — the longest run of a class.
* `Lexing.Plain.composites` — the operators of two characters.
* `Lexing.Plain.readOperator` — an operator, of two characters where possible.

## Main results

* `Lexing.Plain.fits_readRun`, `Lexing.Plain.fits_readSingle`,
  `Lexing.Plain.fits_readOperator` — each reading fits its text.
-/

namespace Lexing

namespace Plain

/-- The longest run of members of a class, on a character that is admitted to start it. -/
def readRun (reader : Reader) (kind : Token.Kind) (admits member : Char → Bool)
    (input : Text) : Reading :=
  reader.enter admits input fun _ _ => .verbatim kind (input.takeWhile member)

/-- The one character at the front of a text. -/
def readSingle (reader : Reader) (kind : Token.Kind) (admits : Char → Bool)
    (input : Text) : Reading :=
  reader.enter admits input fun c _ => .verbatim kind [c]

/-- A run of spaces, tabs and carriage returns. -/
def readBlanks (input : Text) : Reading :=
  readRun .blank .space CharClass.isBlank CharClass.isBlank input

/-- One line feed. -/
def readLineFeed (input : Text) : Reading :=
  readSingle .lineFeed .endOfLine CharClass.isLineFeed input

/-- The characters that open a word: in literal mode digits do so too. -/
def opensWord : Mode → Char → Bool
  | .full => CharClass.isWordLetter
  | .literal => CharClass.isWordPart

/-- A word. -/
def readWord (mode : Mode) (input : Text) : Reading :=
  readRun (.word mode) .identifier (opensWord mode) CharClass.isWordPart input

/-- One character that no other kind may hold. -/
def readForeign (input : Text) : Reading :=
  readSingle .foreign .unexpected CharClass.isForeign input

/-- The operators of two characters. -/
def composites : List (Char × Char) :=
  [('>', '='), ('<', '='), ('!', '='), ('=', '=')]

/-- An operator: of two characters if the first two of the text are such an operator. -/
def readOperator (input : Text) : Reading :=
  Reader.operator.enter (fun c => !CharClass.isWhiteSpace c) input fun c rest =>
    match rest with
    | [] => .verbatim .operator [c]
    | d :: _ => .verbatim .operator (if composites.contains (c, d) then [c, d] else [c])

/-- A character that opens a word in some mode can continue a word. -/
theorem isWordPart_of_opensWord {mode : Mode} {c : Char} (h : opensWord mode c = true) :
    CharClass.isWordPart c = true := by
  cases mode with
  | full => exact CharClass.isWordPart_of_isWordLetter h
  | literal => exact h

/-- A run of members fits the text at whose front it is read. -/
theorem fits_readRun {reader : Reader} {kind : Token.Kind} {admits member : Char → Bool}
    (sub : ∀ c, admits c = true → member c = true) (input : Text) :
    (readRun reader kind admits member input).Fits input := by
  refine Reader.enter_induction (Reading.fits_defect input) fun c rest hi ha => ?_
  refine Reading.fits_of_append _ List.takeWhile_append_dropWhile.symm ?_
  simp [Reading.verbatim, Reading.consumed, hi, sub c ha]

/-- A single character fits the text at whose front it is read. -/
theorem fits_readSingle (reader : Reader) (kind : Token.Kind) (admits : Char → Bool)
    (input : Text) : (readSingle reader kind admits input).Fits input := by
  refine Reader.enter_induction (Reading.fits_defect input) fun c rest hi _ => ?_
  exact Reading.fits_of_append rest hi (List.cons_ne_nil c [])

/-- An operator fits the text at whose front it is read. -/
theorem fits_readOperator (input : Text) : (readOperator input).Fits input := by
  refine Reader.enter_induction (Reading.fits_defect input) fun c rest hi _ => ?_
  cases rest with
  | nil => exact Reading.fits_of_append _ hi (List.cons_ne_nil c [])
  | cons d others =>
    simp only
    split
    · exact Reading.fits_of_append others hi (List.cons_ne_nil c [d])
    · exact Reading.fits_of_append (d :: others) hi (List.cons_ne_nil c [])

/-- A run on an admitted member holds at least that member, and is never a defect. -/
theorem readRun_cons (reader : Reader) (kind : Token.Kind) {admits member : Char → Bool}
    {c : Char} (rest : Text) (ha : admits c = true) (hm : member c = true) :
    readRun reader kind admits member (c :: rest) =
      .verbatim kind (c :: rest.takeWhile member) := by
  rw [readRun, Reader.enter_of_admits _ _ _ ha, List.takeWhile_cons_of_pos hm]

/-- A single admitted character is read as it is. -/
theorem readSingle_cons (reader : Reader) (kind : Token.Kind) {admits : Char → Bool} {c : Char}
    (rest : Text) (ha : admits c = true) :
    readSingle reader kind admits (c :: rest) = .verbatim kind [c] := by
  rw [readSingle, Reader.enter_of_admits _ _ _ ha]

end Plain

end Lexing
