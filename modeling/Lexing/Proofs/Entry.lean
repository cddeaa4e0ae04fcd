import Lexing.Proofs.Found
import Lexing.Proofs.Gathering

set_option relaxedAutoImplicit false
set_option autoImplicit false

/-!
# Readers are entered rightly

A reader that is entered on a character that it does not admit is a defect of the library. This
never happens, whatever the text is and whatever calls are made: the character that a reader is
chosen by is one that this reader admits, and behind the sign of a number there is a digit. Nor can
the lexeme of a token that a session has found fail to be cut out of the text.

## Main definitions

* `Lexing.Reader.admits` — the characters on which a reader may be entered.
* `Lexing.Reader.doors` — the readers that are entered one behind the other.
* `Lexing.Reader.MayEnter` — a reader may be entered at a cursor.

## Main results

* `Lexing.Reader.isDefect_read_iff` — a reader comes to a defect exactly where it may not be
  entered.
* `Lexing.Reader.mayEnter_route` — a reader that a character leads to may be entered on it.
* `Lexing.Session.never_defective` — no call of any run is a defect.
-/

namespace Lexing

/-! ## Places ahead of a cursor -/

/-- The character some steps ahead can be read if and only if there is one. -/
theorem Cursor.current_skip_eq_ok_iff {c : Cursor} {n : Nat} {x : Char} :
    (c.skip n).current = .ok x ↔ c.rest[n]? = some x := by
  have ahead : (c.skip n).rest = c.rest.drop n := rest_skip c n
  rw [← List.head?_drop, ← ahead]
  unfold current
  cases (c.skip n).rest with
  | nil => simp
  | cons y others => simp

namespace Reader

variable {reader : Reader} {c : Cursor}

/-! ## Doors -/

/-- The characters on which a reader may be entered. -/
def admits : Reader → Char → Bool
  | .blank => CharClass.isBlank
  | .lineFeed => CharClass.isLineFeed
  | .word mode => Plain.opensWord mode
  | .foreign => CharClass.isForeign
  | .operator => fun c => !CharClass.isWhiteSpace c
  | .number => Char.isDigit
  | .negativeNumber => fun c => c == '-'
  | .string => fun c => c == '"'
  | .slash => fun c => c == '/'

/-- The readers that are entered, each one character behind the other: behind the sign of a number
the reader of numbers without a sign is entered. -/
def doors : Reader → List Reader
  | .negativeNumber => [.negativeNumber, .number]
  | reader => [reader]

/-- All other readers have one door. -/
theorem doors_of_ne (other : reader ≠ .negativeNumber) : reader.doors = [reader] := by
  cases reader with
  | negativeNumber => exact absurd rfl other
  | _ => rfl

/-- A reader may be entered at a cursor: each of its doors can read the character in front of it
and admits this character. -/
def MayEnter (reader : Reader) (c : Cursor) : Prop :=
  ∀ i door, reader.doors[i]? = some door → ∃ x, (c.skip i).current = .ok x ∧ door.admits x = true

/-- A reader with one door may be entered on the characters that it admits. -/
theorem mayEnter_iff_of_doors (single : reader.doors = [reader]) :
    reader.MayEnter c ↔ ∃ x rest, c.rest = x :: rest ∧ reader.admits x = true := by
  simp only [MayEnter, Cursor.current_skip_eq_ok_iff, single]
  constructor
  · intro enters
    obtain ⟨x, found, admitted⟩ := enters 0 reader rfl
    rw [← List.head?_eq_getElem?] at found
    obtain ⟨rest, split⟩ := List.head?_eq_some_iff.1 found
    exact ⟨x, rest, split, admitted⟩
  · rintro ⟨x, rest, split, admitted⟩ i door here
    cases i with
    | zero =>
      cases here
      exact ⟨x, by rw [split]; rfl, admitted⟩
    | succ i => cases here

/-- The reader of negative numbers may be entered on a minus sign with a digit behind it. -/
theorem mayEnter_negativeNumber_iff :
    negativeNumber.MayEnter c ↔ ∃ d rest, c.rest = '-' :: d :: rest ∧ d.isDigit = true := by
  simp only [MayEnter, Cursor.current_skip_eq_ok_iff]
  constructor
  · intro enters
    obtain ⟨x, first, minus⟩ := enters 0 .negativeNumber rfl
    obtain ⟨d, second, digit⟩ := enters 1 .number rfl
    obtain rfl : x = '-' := by simpa [admits] using minus
    rw [← List.head?_eq_getElem?] at first
    obtain ⟨others, split⟩ := List.head?_eq_some_iff.1 first
    rw [split, List.getElem?_cons_succ, ← List.head?_eq_getElem?] at second
    obtain ⟨rest, rfl⟩ := List.head?_eq_some_iff.1 second
    exact ⟨d, rest, split, digit⟩
  · rintro ⟨d, rest, split, digit⟩ i door here
    rw [split]
    match i, here with
    | 0, rfl => exact ⟨'-', rfl, rfl⟩
    | 1, rfl => exact ⟨d, rfl, digit⟩

/-! ## Defects -/

/-- If nothing behind the door is a defect, then a defect is a door that stays closed. -/
theorem isDefect_enter_iff {admits : Char → Bool} {input : Text} {read : Char → Text → Reading}
    (clean : ∀ x rest, input = x :: rest → (read x rest).isDefect = false) :
    (reader.enter admits input read).isDefect = true ↔
      ¬ ∃ x rest, input = x :: rest ∧ admits x = true := by
  cases input with
  | nil => simp [enter, Reading.isDefect]
  | cons x rest =>
    by_cases admitted : admits x = true
    · simp [enter_of_admits, admitted, clean]
    · simp [enter, admitted, Reading.isDefect]

/-- A numeral is no defect once its first digit is admitted. -/
theorem isDefect_readUnsigned (sign input : Text) :
    (Numeral.readUnsigned sign input).isDefect = false := by
  unfold Numeral.readUnsigned
  split
  · split
    · simp only [Numeral.readHexadecimal]
      split
      · rfl
      · split <;> rfl
    · rfl
  · simp only [Numeral.readDecimal]
    split
    · split <;> rfl
    · rfl

/-- A negative number is a defect where its sign or its first digit is missing. -/
theorem isDefect_readNegative_iff (input : Text) :
    (Numeral.readNegative input).isDefect = true ↔
      ¬ ∃ d rest, input = '-' :: d :: rest ∧ d.isDigit = true := by
  by_cases signed : ∃ rest, input = '-' :: rest
  · obtain ⟨rest, rfl⟩ := signed
    have entered : Numeral.readNegative ('-' :: rest) =
        Reader.number.enter Char.isDigit rest fun _ _ => Numeral.readUnsigned ['-'] rest :=
      enter_of_admits .negativeNumber rest _ rfl
    rw [entered, isDefect_enter_iff fun _ _ _ => isDefect_readUnsigned _ _]
    simp
  · have closed : (Numeral.readNegative input).isDefect = true := by
      cases input with
      | nil => rfl
      | cons x rest =>
        have other : ¬ (x == '-') = true := by
          intro minus
          exact signed ⟨rest, by rw [beq_iff_eq.1 minus]⟩
        simp [Numeral.readNegative, enter, other, Reading.isDefect]
    simp only [closed, true_iff]
    rintro ⟨d, rest, rfl, -⟩
    exact signed ⟨d :: rest, rfl⟩

/-- **Defects are closed doors.** A reader comes to a defect exactly where it may not be entered.

**Proof sketch.** By the reader. The one for negative numbers looks at two characters and is
treated by itself (`isDefect_readNegative_iff`). All others ask for one character only, and none of
them comes to a defect once they have it (`isDefect_enter_iff`). -/
theorem isDefect_read_iff (reader : Reader) (c : Cursor) :
    (reader.read c.rest).isDefect = true ↔ ¬ reader.MayEnter c := by
  by_cases negative : reader = .negativeNumber
  · subst negative
    rw [mayEnter_negativeNumber_iff]
    exact isDefect_readNegative_iff c.rest
  · rw [mayEnter_iff_of_doors (doors_of_ne negative)]
    cases reader with
    | negativeNumber => exact absurd rfl negative
    | operator =>
      apply isDefect_enter_iff
      intro x rest _
      cases rest <;> rfl
    | number => exact isDefect_enter_iff fun _ _ _ => isDefect_readUnsigned [] _
    | string =>
      apply isDefect_enter_iff
      intro x rest _
      cases Quotation.readBody rest <;> rfl
    | slash =>
      apply isDefect_enter_iff
      intro x rest _
      split
      · split <;> rfl
      · rfl
      · rfl
    | _ => exact isDefect_enter_iff fun _ _ _ => rfl

/-! ## Routes -/

variable {mode : Mode} {x : Char} {rest : Text}

/-- A reader admits the character that it is chosen by. What is left over for operators is visible
ASCII, and so no white space of any script. -/
theorem admits_of_opens {next? : Option Char} (opens : reader.Opens mode x next?) :
    reader.admits x = true := by
  cases reader with
  | blank => exact opens
  | lineFeed => exact opens
  | word wordMode =>
    obtain ⟨rfl, opensWord⟩ := opens
    exact opensWord
  | foreign => exact opens
  | operator => exact Plain.not_isWhiteSpace_of_isMark opens.1
  | number => exact opens.2
  | negativeNumber => exact beq_iff_eq.2 opens.2.1
  | string => exact beq_iff_eq.2 opens.2
  | slash => exact beq_iff_eq.2 opens.2

/-- **Routes lead to open doors.** A reader that a character leads to may be entered on it.

**Proof sketch.** `opens_route` says what holds of a character that leads to a reader. For the
minus sign it includes the digit behind it. For all other readers it implies what their door asks
for (`admits_of_opens`). -/
theorem mayEnter_route (mode : Mode) (split : c.rest = x :: rest) :
    (route mode x rest.head?).MayEnter c := by
  have opens := opens_route mode x rest.head?
  by_cases negative : route mode x rest.head? = .negativeNumber
  · rw [negative] at opens ⊢
    obtain ⟨-, rfl, d, behind, digit⟩ := opens
    obtain ⟨others, rfl⟩ := List.head?_eq_some_iff.1 behind
    exact mayEnter_negativeNumber_iff.2 ⟨d, others, split, digit⟩
  · exact (mayEnter_iff_of_doors (doors_of_ne negative)).2 ⟨x, rest, split, admits_of_opens opens⟩

/-- White space of other scripts leads to no operator, in either mode. -/
example (next? : Option Char) :
    route .full '\u2003' next? = .foreign ∧ route .literal '\u2003' next? = .foreign :=
  ⟨rfl, rfl⟩

end Reader

/-! ## Runs -/

namespace Session

/-- No call comes to a defect. -/
theorem Asks.ne_defect {s after : Session} {o : Outcome} (asked : s.Asks o after)
    (defect : Defect) : o ≠ .failed (.defect defect) := by
  rintro rfl
  rcases asked.pulls_or_stays with ⟨suppression, mode, pulls, -⟩ | ⟨finished, -⟩
  · cases pulls
  · cases finished

/-- **No call is a defect.** Whatever the session is and whatever calls have led to it, no further
call is a defect, and no text fails by one. A defect is that a reader is entered where it may not
be, and in front of every character that is not suppressed the reader that is chosen may be entered.
Of every token that calls on a text have found on their way to the session, the span is in order,
within the text and between characters, and its lexeme can be cut out.

**Proof sketch.** A call that is asked for comes to what a call in some mode can come to, and the
cases of this exclude a defect (`Asks.ne_defect`). Doors and routes are `isDefect_read_iff` and
`mayEnter_route`. A token that was found stands in the text, so that its span cuts something out
(`exists_standsIn`), which `slice?_isSome_iff` turns into boundaries. -/
theorem never_defective (source : Text) (s : Session) :
    (∀ o after, s.Asks o after → ∀ defect, o ≠ .failed (.defect defect)) ∧
      (∀ suppression mode failure, tokenize source suppression mode = .error failure →
        ∃ report, failure = .fault report) ∧
      (∀ (reader : Reader) (c : Cursor),
        (reader.read c.rest).isDefect = true ↔ ¬ reader.MayEnter c) ∧
      (∀ suppression mode x rest, (s.cursor.pass suppression).rest = x :: rest →
        (Reader.route mode x rest.head?).MayEnter (s.cursor.pass suppression)) ∧
      ∀ mode t, (ofText source).Finds mode t s →
        t.span.start ≤ t.span.stop ∧ t.span.stop ≤ Text.byteLength source ∧
          Text.IsBoundary source t.span.start ∧ Text.IsBoundary source t.span.stop ∧
          ∃ raw, s.lexeme? t.span = some raw := by
  refine ⟨fun _ _ => Asks.ne_defect, ?_, Reader.isDefect_read_iff, ?_, ?_⟩
  · intro suppression mode failure failed
    rw [tokenize_eq_gather] at failed
    exact exists_report failed
  · intro suppression mode x rest split
    exact Reader.mayEnter_route mode split
  · intro mode t found
    obtain ⟨raw, stands, cut⟩ := found.exists_standsIn
    have isCut : (Text.slice? source t.span.start t.span.stop).isSome = true := by
      rw [stands.slice]
      rfl
    obtain ⟨ordered, first, last⟩ := Text.slice?_isSome_iff.1 isCut
    exact ⟨ordered, last.le, first, last, raw, cut⟩

end Session

end Lexing
