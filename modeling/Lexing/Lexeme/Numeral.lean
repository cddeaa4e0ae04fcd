import Lexing.Lexeme.Reading

set_option relaxedAutoImplicit false
set_option autoImplicit false

/-!
# Numerals

Decimal integers, decimal fractions and hexadecimal numbers. A minus sign belongs to a decimal
number and to no hexadecimal one. A point may stand at the end of a decimal number but only
once in it. A numeral ends at the first character that cannot continue it.

## Main definitions

* `Lexing.Numeral.readDecimal` — an integer or a fraction.
* `Lexing.Numeral.countDigits` — the digits of a hexadecimal number, counted in a word.
* `Lexing.Numeral.readHexadecimal` — the part of a hexadecimal number after its mark.
* `Lexing.Numeral.readUnsigned` — the numeral after a possible sign.
* `Lexing.Numeral.read`, `Lexing.Numeral.readNegative` — numerals without and with a sign.

## Main results

* `Lexing.Numeral.fits_read`, `Lexing.Numeral.fits_readNegative` — each reading fits its text.
-/

namespace Lexing

namespace Numeral

/-- The mark of a hexadecimal number. -/
def hexMark : Text := ['0', 'x']

/-- The number of digits as it is counted, one by one, in a signed word of 32 bits. Past the
greatest number of the word the count goes on from the least one, so after `2 ^ 32` digits it is
back at zero. -/
def countDigits (digits : Text) : Int32 :=
  digits.foldl (fun count _ => count + 1) 0

/-- The part of a hexadecimal number after its mark. A point after the digits is worse than
missing digits: it is reported even where no digit stands before it. Digits are missing where their
count is zero. -/
def readHexadecimal (afterMark : Text) : Reading :=
  let digits := afterMark.takeWhile CharClass.isHexDigit
  match afterMark.dropWhile CharClass.isHexDigit with
  | '.' :: _ => .fault .hexadecimalDot (hexMark ++ digits) []
  | _ =>
    if countDigits digits = 0 then .fault .missingHexDigits (hexMark ++ digits) []
    else .verbatim .hexadecimal (hexMark ++ digits)

/-- A decimal number after a possible sign: digits, and perhaps a point with more digits. -/
def readDecimal (sign unsigned : Text) : Reading :=
  let whole := sign ++ unsigned.takeWhile Char.isDigit
  match unsigned.dropWhile Char.isDigit with
  | '.' :: afterPoint =>
    let number := whole ++ '.' :: afterPoint.takeWhile Char.isDigit
    match afterPoint.dropWhile Char.isDigit with
    | '.' :: _ => .fault .doubleDot number []
    | _ => .verbatim .float number
  | _ => .verbatim .integer whole

/-- The numeral after a possible sign. Only a number without a sign may have the mark of a
hexadecimal number; with one, reading gives up right after the sign. -/
def readUnsigned (sign unsigned : Text) : Reading :=
  match unsigned with
  | '0' :: 'x' :: afterMark =>
    if sign.isEmpty then readHexadecimal afterMark
    else .fault .negativeHexadecimal [] sign
  | _ => readDecimal sign unsigned

/-- A numeral without a sign. -/
def read (input : Text) : Reading :=
  Reader.number.enter Char.isDigit input fun _ _ => readUnsigned [] input

/-- A numeral with a minus sign, after which a digit must follow. -/
def readNegative (input : Text) : Reading :=
  Reader.negativeNumber.enter (· == '-') input fun sign unsigned =>
    Reader.number.enter Char.isDigit unsigned fun _ _ => readUnsigned [sign] unsigned

/-- Whatever is found after the mark, the mark and the digits are used up. -/
theorem consumed_readHexadecimal (afterMark : Text) :
    (readHexadecimal afterMark).consumed =
      hexMark ++ afterMark.takeWhile CharClass.isHexDigit := by
  simp only [readHexadecimal]
  split
  · exact List.append_nil _
  · split
    · exact List.append_nil _
    · rfl

/-- The part after the mark fits its text, with the mark. -/
theorem fits_readHexadecimal (afterMark : Text) :
    (readHexadecimal afterMark).Fits (hexMark ++ afterMark) := by
  have used := consumed_readHexadecimal afterMark
  refine Reading.fits_of_append (afterMark.dropWhile CharClass.isHexDigit) ?_ ?_
  · rw [used, List.append_assoc, List.takeWhile_append_dropWhile]
  · rw [used]
    exact List.cons_ne_nil _ _

/-- A decimal number that opens with a digit uses up its sign, its digits and its point. -/
theorem fits_readDecimal (sign : Text) {d : Char} (rest : Text) (hd : d.isDigit = true) :
    (readDecimal sign (d :: rest)).Fits (sign ++ d :: rest) := by
  have whole : sign ++ d :: rest = sign ++ (d :: rest).takeWhile Char.isDigit ++
      (d :: rest).dropWhile Char.isDigit := by
    rw [List.append_assoc, List.takeWhile_append_dropWhile]
  have opens : (d :: rest).takeWhile Char.isDigit ≠ [] := by simp [hd]
  simp only [readDecimal]
  split
  · next afterPoint hdrop =>
    have more : afterPoint = afterPoint.takeWhile Char.isDigit ++
        afterPoint.dropWhile Char.isDigit := List.takeWhile_append_dropWhile.symm
    rw [hdrop] at whole
    split
    · refine Reading.fits_of_append (afterPoint.dropWhile Char.isDigit) ?_ ?_
      · rw [whole, Reading.consumed, List.append_nil, List.append_assoc _ (_ :: _),
          List.cons_append, ← more]
      · simp [Reading.consumed]
    · refine Reading.fits_of_append (afterPoint.dropWhile Char.isDigit) ?_ ?_
      · rw [whole, Reading.verbatim, Reading.consumed, List.append_assoc _ (_ :: _),
          List.cons_append, ← more]
      · simp [Reading.verbatim, Reading.consumed]
  · exact Reading.fits_of_append _ whole (by simp [Reading.verbatim, Reading.consumed, hd])

/-- A numeral that opens with a digit after its sign uses up text from the sign on. -/
theorem fits_readUnsigned (sign : Text) {d : Char} (rest : Text) (hd : d.isDigit = true) :
    (readUnsigned sign (d :: rest)).Fits (sign ++ d :: rest) := by
  unfold readUnsigned
  split
  · next afterMark heq =>
    rw [heq]
    split
    · next he =>
      obtain rfl : sign = [] := by simpa using he
      exact fits_readHexadecimal afterMark
    · next he =>
      refine Reading.fits_of_append ('0' :: 'x' :: afterMark) rfl ?_
      simpa [Reading.consumed] using he
  · exact fits_readDecimal sign rest hd

/-- A numeral without a sign fits the text at whose front it is read. -/
theorem fits_read (input : Text) : (read input).Fits input := by
  refine Reader.enter_induction (Reading.fits_defect input) fun c rest hi ha => ?_
  rw [hi]
  exact fits_readUnsigned [] rest ha

/-- A numeral with a sign fits the text at whose front it is read. -/
theorem fits_readNegative (input : Text) : (readNegative input).Fits input := by
  refine Reader.enter_induction (Reading.fits_defect input) fun c rest hi _ => ?_
  refine Reader.enter_induction (Reading.fits_defect input) fun d more hr hd => ?_
  rw [hi, hr]
  exact fits_readUnsigned [c] more hd

end Numeral

end Lexing
