import Lexing.Proofs.Verdict

set_option relaxedAutoImplicit false
set_option autoImplicit false

/-!
# Verdicts on numbers

What a digit begins, or a minus sign in front of a digit, is told by what stands behind the sign.
The mark of a hexadecimal number counts at the first digit only. Behind it or, without a mark,
from the first digit on, runs of digits are as long as they can be, and the points behind the runs
tell the rest.

## Main definitions

* `Lexing.Text.IsLeadingRun` — a run that goes on as long as it can.
* `Lexing.Numeral.OpensWithDigit` — a digit stands at the front of a text.
* `Lexing.Numeral.Verdict` — what a number comes to.

## Main results

* `Lexing.Numeral.exists_verdict` — every number has a verdict.
* `Lexing.Numeral.Verdict.readUnsigned_eq` — the verdict is what is read behind the sign.
* `Lexing.Session.numbers_exact` — every call at a number comes to the one verdict on it.
-/

namespace Lexing

/-- A run of members of a class goes on up to what is left: this is empty, or its first character is
no member. -/
structure Text.IsLeadingRun (member : Char → Bool) (run left : Text) : Prop where
  inside : ∀ c ∈ run, member c = true
  stops : Text.Stops member left

namespace Numeral

open Grammar

/-- A text opens with a decimal digit. -/
def OpensWithDigit (text : Text) : Prop :=
  ∃ d, text.head? = some d ∧ d.isDigit = true

/-- What a number comes to, from its sign and the text behind the sign. -/
inductive Verdict (sign unsigned : Text) : Reading → Prop where
  /-- Hexadecimal numbers have no sign. The sign alone is used up. -/
  | negativeHexadecimal (hasSign : sign ≠ []) (mark : hexMark <+: unsigned) :
      Verdict sign unsigned (.fault .negativeHexadecimal [] sign)
  /-- Hexadecimal numbers have no point, not even right behind their mark. -/
  | hexadecimalDot {digits left : Text} (noSign : sign = [])
      (split : unsigned = hexMark ++ (digits ++ left))
      (run : Text.IsLeadingRun CharClass.isHexDigit digits left) (point : left.head? = some '.') :
      Verdict sign unsigned (.fault .hexadecimalDot (hexMark ++ digits) [])
  /-- Without a point, a digit is missing behind the mark if those that are there count as none. -/
  | missingHexDigits {digits left : Text} (noSign : sign = [])
      (split : unsigned = hexMark ++ (digits ++ left)) (uncounted : CountsAsNone digits)
      (run : Text.IsLeadingRun CharClass.isHexDigit digits left)
      (noPoint : left.head? ≠ some '.') :
      Verdict sign unsigned (.fault .missingHexDigits (hexMark ++ digits) [])
  /-- A hexadecimal number is the mark and the longest run of digits behind it. -/
  | hexadecimal {digits left : Text} (noSign : sign = [])
      (split : unsigned = hexMark ++ (digits ++ left)) (counted : ¬ CountsAsNone digits)
      (run : Text.IsLeadingRun CharClass.isHexDigit digits left)
      (noPoint : left.head? ≠ some '.') :
      Verdict sign unsigned (.verbatim .hexadecimal (hexMark ++ digits))
  /-- An integer is the longest run of digits, without a point behind it. -/
  | integer {digits left : Text} (noMark : ¬ hexMark <+: unsigned)
      (split : unsigned = digits ++ left) (run : Text.IsLeadingRun Char.isDigit digits left)
      (noPoint : left.head? ≠ some '.') :
      Verdict sign unsigned (.verbatim .integer (sign ++ digits))
  /-- A number has one point. -/
  | doubleDot {digits fraction left : Text} (noMark : ¬ hexMark <+: unsigned)
      (split : unsigned = digits ++ '.' :: (fraction ++ left))
      (decimal : ∀ c ∈ digits, c.isDigit = true)
      (run : Text.IsLeadingRun Char.isDigit fraction left) (point : left.head? = some '.') :
      Verdict sign unsigned (.fault .doubleDot (sign ++ digits ++ '.' :: fraction) [])
  /-- A number with a point is the longest runs of digits on both sides of the point. There may be
  no digit behind it. -/
  | float {digits fraction left : Text} (noMark : ¬ hexMark <+: unsigned)
      (split : unsigned = digits ++ '.' :: (fraction ++ left))
      (decimal : ∀ c ∈ digits, c.isDigit = true)
      (run : Text.IsLeadingRun Char.isDigit fraction left) (noPoint : left.head? ≠ some '.') :
      Verdict sign unsigned (.verbatim .float (sign ++ digits ++ '.' :: fraction))

variable {sign unsigned digits left rest : Text} {c : Char} {reading : Reading}

/-! ## Runs of digits -/

/-- Every text has a leading run that goes on as long as it can. -/
theorem exists_leadingRun (member : Char → Bool) (input : Text) :
    ∃ run left, input = run ++ left ∧ Text.IsLeadingRun member run left := by
  obtain ⟨run, left, split, inside, stops⟩ := Text.exists_run member input
  exact ⟨run, left, split, inside, stops⟩

/-- No decimal digit is a point. -/
theorem stops_point (left : Text) : Text.Stops Char.isDigit ('.' :: left) :=
  Text.stops_cons.2 (by decide)

/-- The longest run of digits of a text that opens with a digit is not empty. -/
theorem OpensWithDigit.ne_nil (opens : OpensWithDigit (digits ++ left))
    (stops : Text.Stops Char.isDigit left) : digits ≠ [] := by
  rintro rfl
  obtain ⟨d, head, digit⟩ := opens
  have noDigit : d.isDigit = false := stops d head
  rw [digit] at noDigit
  cases noDigit

/-! ## Verdicts -/

/-- Every number has a verdict.

**Proof sketch.** By the mark, the sign and the points. Wherever a run of digits begins, the text
is cut behind the longest one (`exists_leadingRun`). -/
theorem exists_verdict (sign unsigned : Text) : ∃ reading, Verdict sign unsigned reading := by
  by_cases mark : hexMark <+: unsigned
  · by_cases noSign : sign = []
    · obtain ⟨afterMark, rfl⟩ := mark
      obtain ⟨digits, left, rfl, run⟩ := exists_leadingRun CharClass.isHexDigit afterMark
      by_cases point : left.head? = some '.'
      · exact ⟨_, .hexadecimalDot noSign rfl run point⟩
      by_cases uncounted : CountsAsNone digits
      · exact ⟨_, .missingHexDigits noSign rfl uncounted run point⟩
      · exact ⟨_, .hexadecimal noSign rfl uncounted run point⟩
    · exact ⟨_, .negativeHexadecimal noSign mark⟩
  · obtain ⟨digits, left, rfl, run⟩ := exists_leadingRun Char.isDigit unsigned
    by_cases point : left.head? = some '.'
    · obtain ⟨afterPoint, rfl⟩ := List.head?_eq_some_iff.1 point
      obtain ⟨fraction, left, rfl, runBehind⟩ := exists_leadingRun Char.isDigit afterPoint
      by_cases second : left.head? = some '.'
      · exact ⟨_, .doubleDot mark rfl run.inside runBehind second⟩
      · exact ⟨_, .float mark rfl run.inside runBehind second⟩
    · exact ⟨_, .integer mark rfl run point⟩

/-- Behind the longest run of digits, without a point, an integer may stop: where the run is a
single zero, no mark would be left to begin with it. -/
theorem mayPrecede_integer (signed : IsSign sign) (noMark : ¬ hexMark <+: digits ++ left)
    (run : Text.IsLeadingRun Char.isDigit digits left) (noPoint : left.head? ≠ some '.') :
    MayPrecede .full .integer (sign ++ digits) left := by
  intro c head
  refine (allows_integer_iff signed run.inside).2 ⟨run.stops c head, ?_, ?_⟩
  · rintro rfl
    exact noPoint head
  · rintro ⟨rfl, rfl⟩
    obtain ⟨tail, rfl⟩ := List.head?_eq_some_iff.1 head
    exact noMark ⟨tail, rfl⟩

/-- The verdict on a number is what is read behind its sign.

**Proof sketch.** By cases on the verdict, each of which is a lexeme or a fault of the grammar: the
run is as long as it can be, so that nothing behind it goes on with it. -/
theorem Verdict.readUnsigned_eq (signed : IsSign sign) (opens : OpensWithDigit unsigned)
    (verdict : Verdict sign unsigned reading) : readUnsigned sign unsigned = reading := by
  cases verdict with
  | negativeHexadecimal hasSign mark =>
    obtain ⟨tail, rfl⟩ := mark
    rcases signed with rfl | rfl
    · exact absurd rfl hasSign
    · rfl
  | @hexadecimalDot digits left noSign split run point =>
    obtain ⟨tail, rfl⟩ := List.head?_eq_some_iff.1 point
    subst noSign split
    exact readUnsigned_hexadecimalDot run.inside tail
  | @missingHexDigits digits left noSign split uncounted run noPoint =>
    subst noSign split
    exact readUnsigned_missingHexDigits run.inside uncounted run.stops noPoint
  | @hexadecimal digits left noSign split counted run noPoint =>
    subst noSign split
    refine readUnsigned_hexadecimal counted run.inside ?_
    intro c head
    have noDot : c ≠ '.' := by
      rintro rfl
      exact noPoint head
    simp [allows, run.stops c head, noDot]
  | @integer digits left noMark split run noPoint =>
    subst split
    exact readUnsigned_integer signed (opens.ne_nil run.stops) run.inside
      (mayPrecede_integer signed noMark run noPoint)
  | @doubleDot digits fraction left noMark split decimal run point =>
    obtain ⟨tail, rfl⟩ := List.head?_eq_some_iff.1 point
    subst split
    exact readUnsigned_doubleDot sign tail (opens.ne_nil (stops_point _)) decimal run.inside
  | @float digits fraction left noMark split decimal run noPoint =>
    subst split
    refine readUnsigned_float (opens.ne_nil (stops_point _)) decimal run.inside ?_
    intro c head
    refine allows_float_iff.2 ⟨run.stops c head, ?_⟩
    rintro rfl
    exact noPoint head

/-- The verdict on a number is what is recognised from its first character on. -/
theorem Verdict.recognise_eq (signed : IsSign sign) (opens : OpensWithDigit unsigned)
    (verdict : Verdict sign unsigned reading) (split : c :: rest = sign ++ unsigned) :
    recognise .full c rest = reading := by
  have found := verdict.readUnsigned_eq signed opens
  obtain ⟨d, head, digit⟩ := opens
  obtain ⟨tail, rfl⟩ := List.head?_eq_some_iff.1 head
  -- the first digit is all of the number that matters for the reader that is chosen
  have decimal : ∀ e ∈ [d], e.isDigit = true := by
    simpa using digit
  exact recognise_of_readUnsigned signed (List.cons_ne_nil d []) decimal split found

/-- A number begins with a visible character. -/
theorem OpensWithDigit.visible (signed : IsSign sign) (opens : OpensWithDigit unsigned)
    (split : c :: rest = sign ++ unsigned) : 0x20 < c.toNat := by
  obtain ⟨d, head, digit⟩ := opens
  obtain ⟨tail, rfl⟩ := List.head?_eq_some_iff.1 head
  rcases signed with rfl | rfl
  · obtain ⟨rfl, rfl⟩ := List.cons.inj split
    exact (Reader.visible_of_isWordPart (Reader.isWordPart_eq_true_iff.2 (.inr digit))).1
  · obtain ⟨rfl, rfl⟩ := List.cons.inj split
    decide

end Numeral

namespace Session

/-- **Numbers are recognised exactly.** Whatever calls have led to where a digit comes next, or a
minus sign in front of a digit, there is exactly one verdict on the text that is left. All calls
that recognise numbers come to it: a number that is as long as its runs of digits can be, or the
fault of a sign, a point or a missing digit.

**Proof sketch.** There is always a verdict (`exists_verdict`), and whatever has it is recognised
(`Verdict.recognise_eq`). The first character is visible, as it is a digit or the sign, so that
`Reads.verdict_exact` applies. -/
theorem numbers_exact (source sign unsigned : Text) (s : Session)
    (reached : (ofText source).Reaches s) (split : s.cursor.rest = sign ++ unsigned)
    (signed : Grammar.IsSign sign) (opens : Numeral.OpensWithDigit unsigned) :
    (∃! reading, Numeral.Verdict sign unsigned reading) ∧
      ∀ reading, Numeral.Verdict sign unsigned reading → s.Answers .full reading := by
  have reads : s.Reads source := reached.reads (reads_ofText source)
  have nonempty : s.cursor.rest ≠ [] := by
    obtain ⟨d, head, -⟩ := opens
    obtain ⟨tail, rfl⟩ := List.head?_eq_some_iff.1 head
    simp [split]
  obtain ⟨c, rest, front⟩ := List.exists_cons_of_ne_nil nonempty
  have parts : c :: rest = sign ++ unsigned := front.symm.trans split
  exact reads.verdict_exact front (opens.visible signed parts)
    (Numeral.exists_verdict sign unsigned) fun _ verdict =>
      verdict.recognise_eq signed opens parts

/-- Behind a second zero the letter of the mark does not count: the signed number in a bracket ends
in front of it. -/
theorem numbers_exact_late_mark :
    (ofText ['(', '-', '0', '0', 'x', '1']).Reaches
        ⟨⟨['('], ['-', '0', '0', 'x', '1'], ⟨0, 1, 1, 1⟩⟩, none⟩ ∧
      Answers ⟨⟨['('], ['-', '0', '0', 'x', '1'], ⟨0, 1, 1, 1⟩⟩, none⟩ .full
        (.verbatim .integer ['-', '0', '0']) := by
  have call : (ofText ['(', '-', '0', '0', 'x', '1']).take .none .full =
      (.token ⟨.operator, ['('], ⟨0, 1, 0, 0⟩⟩,
        ⟨⟨['('], ['-', '0', '0', 'x', '1'], ⟨0, 1, 1, 1⟩⟩, none⟩) := by decide +kernel
  have reached : (ofText ['(', '-', '0', '0', 'x', '1']).Reaches
      ⟨⟨['('], ['-', '0', '0', 'x', '1'], ⟨0, 1, 1, 1⟩⟩, none⟩ := .single ⟨_, .take call⟩
  have recognised := numbers_exact _ ['-'] ['0', '0', 'x', '1'] _ reached rfl (.inr rfl)
    ⟨'0', rfl, rfl⟩
  have run : Text.IsLeadingRun Char.isDigit ['0', '0'] ['x', '1'] :=
    ⟨by simp, Text.stops_cons.2 (by decide)⟩
  have noMark : ¬ Numeral.hexMark <+: ['0', '0', 'x', '1'] := by
    simp [Numeral.hexMark]
  exact ⟨reached, recognised.2 _ (.integer noMark rfl run (by decide))⟩

/-- The longest run of digits behind the mark makes up no number where it is too long to be counted:
all calls fail for missing digits. -/
theorem numbers_exact_uncounted :
    Grammar.uncountedZeros ≠ [] ∧
      Text.IsLeadingRun CharClass.isHexDigit Grammar.uncountedZeros [] ∧
      (ofText ('0' :: 'x' :: Grammar.uncountedZeros)).Answers .full
        (.fault .missingHexDigits ('0' :: 'x' :: Grammar.uncountedZeros) []) := by
  refine ⟨Grammar.uncountedZeros_ne_nil,
    ⟨Grammar.isHexDigit_of_mem_uncountedZeros, Text.stops_nil⟩, ?_⟩
  have found : recognise .full '0' ('x' :: Grammar.uncountedZeros) =
      .fault .missingHexDigits ('0' :: 'x' :: Grammar.uncountedZeros) [] :=
    recognise_of_breaks Grammar.breaks_uncountedZeros (by simp)
  exact (reads_ofText _).answers rfl (by decide) found

end Session

end Lexing
