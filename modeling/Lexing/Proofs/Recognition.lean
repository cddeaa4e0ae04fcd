import Lexing.Proofs.Lexeme.Numeral
import Lexing.Proofs.Lexeme.Quotation
import Lexing.Proofs.Lexeme.Slash

set_option relaxedAutoImplicit false
set_option autoImplicit false

/-!
# Recognition is exact

What is recognised at the front of a text is what the grammar says stands there: a lexeme
together with a text that may follow it, or a fault. In particular the grammar leaves no choice
between lexemes, between faults or between the two, and no text leads to a defect.

## Main results

* `Lexing.conforms_recognise` — what is recognised conforms to the grammar.
* `Lexing.recognise_of_lexeme` — a lexeme that may stand in front of what follows is recognised.
* `Lexing.recognise_of_breaks` — a fault at the front of a text is recognised.
* `Lexing.recognise_eq_lexeme_iff`, `Lexing.recognise_eq_fault_iff` — exactly the lexemes and the
  faults of the grammar are recognised.
* `Lexing.recognise_of_isBlank`, `Lexing.recognise_of_isLineFeed` — what is recognised at the
  characters that can be suppressed.
-/

namespace Lexing

open Grammar

variable {mode : Mode} {kind : Token.Kind} {raw text left rest : Text} {c : Char}

/-- Under the condition of a reader, recognition is what that reader finds. -/
theorem recognise_of_opens (reader : Reader) (h : reader.Opens mode c rest.head?) :
    recognise mode c rest = reader.read (c :: rest) := by
  rw [recognise, Reader.route_of_opens h]

/-- **Soundness of recognition.** What is recognised conforms to the grammar; in particular it
is no defect.

**Proof sketch.** By cases on the reader that the first character leads to. `opens_route` gives
what this reader needs to know of the character, and each reader conforms to the grammar then. -/
theorem conforms_recognise (mode : Mode) (c : Char) (rest : Text) :
    (recognise mode c rest).Conforms mode (c :: rest) := by
  have opens := Reader.opens_route mode c rest.head?
  unfold recognise
  cases hreader : Reader.route mode c rest.head? with
  | blank =>
    rw [hreader] at opens
    exact Plain.conforms_readBlanks opens
  | lineFeed =>
    rw [hreader] at opens
    exact Plain.conforms_readLineFeed opens
  | word wordMode =>
    rw [hreader] at opens
    obtain ⟨rfl, hword⟩ := opens
    exact Plain.conforms_readWord hword
  | foreign =>
    rw [hreader] at opens
    exact Plain.conforms_readForeign opens
  | operator =>
    rw [hreader] at opens
    exact Plain.conforms_readOperator opens.1 opens.2
  | number =>
    rw [hreader] at opens
    obtain ⟨rfl, digit⟩ := opens
    exact Numeral.conforms_read digit
  | negativeNumber =>
    rw [hreader] at opens
    obtain ⟨rfl, rfl, d, hnext, digit⟩ := opens
    obtain ⟨others, rfl⟩ := List.head?_eq_some_iff.1 hnext
    exact Numeral.conforms_readNegative digit
  | string =>
    rw [hreader] at opens
    obtain ⟨rfl, rfl⟩ := opens
    exact Quotation.conforms_read rest
  | slash =>
    rw [hreader] at opens
    obtain ⟨rfl, rfl⟩ := opens
    exact Slash.conforms_read rest

/-- A decimal number is recognised if it is what stands after its sign. -/
theorem recognise_of_readUnsigned {sign digits tail : Text} {reading : Reading}
    (signed : IsSign sign) (nonempty : digits ≠ [])
    (decimal : ∀ d ∈ digits, d.isDigit = true) (split : c :: rest = sign ++ (digits ++ tail))
    (found : Numeral.readUnsigned sign (digits ++ tail) = reading) :
    recognise .full c rest = reading := by
  obtain ⟨d, others, rfl⟩ := List.exists_cons_of_ne_nil nonempty
  have digit : d.isDigit = true := decimal d (List.mem_cons_self ..)
  rcases signed with rfl | rfl
  · obtain ⟨rfl, rfl⟩ := List.cons.inj split
    rw [recognise_of_opens .number ⟨rfl, digit⟩, ← found]
    exact Numeral.read_cons digit
  · obtain ⟨rfl, rfl⟩ := List.cons.inj split
    rw [recognise_of_opens .negativeNumber ⟨rfl, rfl, d, rfl, digit⟩, ← found]
    exact Numeral.readNegative_cons digit

/-- A mark is recognised as an operator where what follows makes nothing longer of it. -/
theorem recognise_mark (marks : isMark mode c = true)
    (follows : MayPrecede mode .operator [c] rest) :
    recognise mode c rest = .verbatim .operator [c] := by
  by_cases slash : mode = .full ∧ c = '/'
  · obtain ⟨rfl, rfl⟩ := slash
    rw [recognise_of_opens .slash ⟨rfl, rfl⟩]
    exact Slash.read_mark follows
  · have opens : Reader.operator.Opens mode c rest.head? := by
      refine ⟨marks, fun full => ⟨fun hc => slash ⟨full, hc⟩, ?_⟩⟩
      intro minus d hd
      have special := (Plain.allows_mark_iff.1 (follows d hd)).2 full
      simpa [minus] using special.1
    rw [recognise_of_opens .operator opens]
    exact Plain.readMark_append marks follows

/-- **Completeness of recognition.** A lexeme in front of a text that may follow it is
recognised.

**Proof sketch.** By cases on the lexeme. Its first character leads to its reader
(`recognise_of_opens`), and this reader takes exactly the lexeme, because what follows stops it
there. -/
theorem recognise_of_lexeme (lexeme : Lexeme mode kind raw text)
    (follows : MayPrecede mode kind raw left) (split : c :: rest = raw ++ left) :
    recognise mode c rest = .lexeme kind raw text := by
  cases lexeme with
  | space nonempty blanks =>
    obtain ⟨d, run, rfl⟩ := List.exists_cons_of_ne_nil nonempty
    obtain ⟨rfl, rfl⟩ := List.cons.inj split
    rw [recognise_of_opens .blank (blanks c (List.mem_cons_self ..))]
    exact Plain.readBlanks_append nonempty blanks follows
  | endOfLine =>
    obtain ⟨rfl, rfl⟩ := List.cons.inj split
    have feed : CharClass.isLineFeed '\n' = true := rfl
    rw [recognise_of_opens .lineFeed feed]
    exact Plain.readSingle_cons .lineFeed .endOfLine rest feed
  | identifier opens continues =>
    obtain ⟨rfl, rfl⟩ := List.cons.inj split
    rw [recognise_of_opens (.word mode) ⟨rfl, opens⟩]
    exact Plain.readWord_append opens continues follows
  | integer signed nonempty decimal =>
    exact recognise_of_readUnsigned signed nonempty decimal (by simpa using split)
      (Numeral.readUnsigned_integer signed nonempty decimal follows)
  | float signed nonempty decimal decimalFraction =>
    exact recognise_of_readUnsigned signed nonempty decimal (by simpa using split)
      (Numeral.readUnsigned_float nonempty decimal decimalFraction follows)
  | hexadecimal counted hexadecimal =>
    obtain ⟨rfl, rfl⟩ := List.cons.inj split
    rw [recognise_of_opens .number ⟨rfl, rfl⟩]
    refine (Numeral.read_cons rfl).trans ?_
    exact Numeral.readUnsigned_hexadecimal counted hexadecimal follows
  | stringLiteral pieces =>
    obtain ⟨rfl, rfl⟩ := List.cons.inj split
    rw [recognise_of_opens .string ⟨rfl, rfl⟩, ← Quotation.read_append pieces left]
    simp [Reader.read]
  | blockComment unclosed =>
    obtain ⟨rfl, rfl⟩ := List.cons.inj split
    rw [recognise_of_opens .slash ⟨rfl, rfl⟩]
    refine Eq.trans ?_ (Slash.read_blockComment unclosed left)
    simp [Reader.read]
  | lineComment oneLine =>
    obtain ⟨rfl, rfl⟩ := List.cons.inj split
    rw [recognise_of_opens .slash ⟨rfl, rfl⟩]
    exact Slash.read_lineComment oneLine follows
  | composite composes =>
    obtain ⟨rfl, rfl⟩ := List.cons.inj split
    have others : c ≠ '/' ∧ c ≠ '-' := by
      constructor <;> (rintro rfl; exact absurd composes (by decide))
    have opens : Reader.operator.Opens mode c ('=' :: left).head? :=
      ⟨Plain.isMark_of_mem_composing mode composes,
        fun _ => ⟨others.1, fun hc => absurd hc others.2⟩⟩
    exact (recognise_of_opens .operator opens).trans (Plain.readComposite_append composes)
  | mark marks =>
    obtain ⟨rfl, rfl⟩ := List.cons.inj split
    exact recognise_mark marks follows
  | unexpected foreign =>
    obtain ⟨rfl, rfl⟩ := List.cons.inj split
    rw [recognise_of_opens .foreign foreign]
    exact Plain.readSingle_cons .foreign .unexpected rest foreign

/-- **Completeness for faults.** A fault at the front of a text is recognised.

**Proof sketch.** By cases on the fault, as for lexemes: the first character leads to the reader,
and the reader gives up where the fault says. -/
theorem recognise_of_breaks {f : Fault} {lead tail : Text} (breaks : Breaks f lead tail left)
    (split : c :: rest = lead ++ tail ++ left) : recognise .full c rest = .fault f lead tail := by
  cases breaks with
  | missingHexDigits hexadecimal uncounted noDigit noPoint =>
    obtain ⟨rfl, rfl⟩ := List.cons.inj split
    rw [recognise_of_opens .number ⟨rfl, rfl⟩]
    refine (Numeral.read_cons rfl).trans ?_
    simpa using Numeral.readUnsigned_missingHexDigits hexadecimal uncounted noDigit noPoint
  | @hexadecimalDot digits left hexadecimal =>
    obtain ⟨rfl, rfl⟩ := List.cons.inj split
    rw [recognise_of_opens .number ⟨rfl, rfl⟩]
    refine (Numeral.read_cons rfl).trans ?_
    simpa using Numeral.readUnsigned_hexadecimalDot hexadecimal left
  | negativeHexadecimal =>
    obtain ⟨rfl, rfl⟩ := List.cons.inj split
    rw [recognise_of_opens .negativeNumber ⟨rfl, rfl, '0', rfl, rfl⟩]
    exact Numeral.readNegative_cons rfl
  | @doubleDot sign whole fraction left signed nonempty decimal decimalFraction =>
    exact recognise_of_readUnsigned signed nonempty decimal (by simpa using split)
      (Numeral.readUnsigned_doubleDot sign left nonempty decimal decimalFraction)
  | @unexpectedEscape raw meaning left e pieces unknown =>
    obtain ⟨rfl, rfl⟩ := List.cons.inj split
    rw [recognise_of_opens .string ⟨rfl, rfl⟩, ← Quotation.read_badEscape pieces unknown left]
    simp [Reader.read]
  | @unterminatedString raw meaning pieces =>
    obtain ⟨rfl, rfl⟩ := List.cons.inj split
    rw [recognise_of_opens .string ⟨rfl, rfl⟩]
    simpa [Reader.read] using Quotation.read_unclosed pieces (.inl rfl)
  | @unterminatedEscape raw meaning pieces =>
    obtain ⟨rfl, rfl⟩ := List.cons.inj split
    rw [recognise_of_opens .string ⟨rfl, rfl⟩]
    simpa [Reader.read] using Quotation.read_unclosed pieces (.inr rfl)
  | @unterminatedBlockComment body unclosed =>
    obtain ⟨rfl, rfl⟩ := List.cons.inj split
    rw [recognise_of_opens .slash ⟨rfl, rfl⟩]
    simpa [Reader.read] using Slash.read_unclosed unclosed

/-- **Recognition is exact.** A lexeme is recognised if and only if the grammar has it at the
front of the text, with a text after it that may follow it. -/
theorem recognise_eq_lexeme_iff :
    recognise mode c rest = .lexeme kind raw text ↔
      Lexeme mode kind raw text ∧
        ∃ left, c :: rest = raw ++ left ∧ MayPrecede mode kind raw left := by
  constructor
  · intro h
    have conforms := conforms_recognise mode c rest
    rw [h] at conforms
    exact conforms
  · rintro ⟨lexeme, left, split, follows⟩
    exact recognise_of_lexeme lexeme follows split

/-- A fault is recognised if and only if the grammar has it at the front of the text, where
numbers, strings and comments are recognised. -/
theorem recognise_eq_fault_iff {f : Fault} {lead tail : Text} :
    recognise mode c rest = .fault f lead tail ↔
      mode = .full ∧ ∃ left, c :: rest = lead ++ tail ++ left ∧ Breaks f lead tail left := by
  constructor
  · intro h
    have conforms := conforms_recognise mode c rest
    rw [h] at conforms
    exact conforms
  · rintro ⟨rfl, left, split, breaks⟩
    exact recognise_of_breaks breaks split

/-! ## Recognition of trivia -/

/-- At a blank the lexeme is one of blanks. -/
theorem recognise_of_isBlank (mode : Mode) (rest : Text) (blank : CharClass.isBlank c = true) :
    ∃ run left, c :: rest = run ++ left ∧ (∀ y ∈ run, CharClass.isBlank y = true) ∧
      recognise mode c rest = .lexeme .space run run := by
  obtain ⟨run, left, split, inside, stops⟩ := Text.exists_run CharClass.isBlank (c :: rest)
  have nonempty : run ≠ [] := by
    rintro rfl
    rw [List.nil_append] at split
    rw [← split, Text.stops_cons, blank] at stops
    cases stops
  have follows : MayPrecede mode .space run left := by
    intro d hd
    simp [allows, stops d hd]
  exact ⟨run, left, split, inside, recognise_of_lexeme (.space nonempty inside) follows split⟩

/-- At a line feed the lexeme is this line feed. -/
theorem recognise_of_isLineFeed (mode : Mode) (rest : Text)
    (feed : CharClass.isLineFeed c = true) :
    recognise mode c rest = .lexeme .endOfLine ['\n'] ['\n'] := by
  obtain rfl : c = '\n' := by simpa [CharClass.isLineFeed] using feed
  have follows : MayPrecede mode .endOfLine ['\n'] rest := by
    intro d _
    rfl
  exact recognise_of_lexeme .endOfLine follows rfl

end Lexing
