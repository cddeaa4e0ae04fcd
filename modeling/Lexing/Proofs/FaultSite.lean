import Lexing.Proofs.Gathering
import Lexing.Proofs.Reachable

set_option relaxedAutoImplicit false
set_option autoImplicit false

/-!
# Where faults lie

A report of a fault points at one place of the text, and what stands around this place is what
the fault says. The place lies between where the call began and where it gave up, and the fault
tells how far the call went: to the place itself, one character further, or to the end of the
text.

## Main definitions

* `Lexing.Fault.LiesAt` — what stands around the place of a fault, and where reading gives up.

## Main results

* `Lexing.Grammar.Breaks.liesAt` — a fault of the grammar has its place.
* `Lexing.Session.faults_located` — every failure of every run is a fault, at its place.
-/

namespace Lexing

open Grammar

/-- A fault lies at the place `k` of a text, and reading gives up at the place `c`, both counted
in characters. -/
def Fault.LiesAt (source : Text) (k c : Nat) : Fault → Prop
  | .missingHexDigits =>
    -- behind the mark there are no digits, or too many to be counted
    (∃ digits, '0' :: 'x' :: digits <:+ source.take k ∧
        (∀ d ∈ digits, CharClass.isHexDigit d = true) ∧ CountsAsNone digits) ∧
      (∀ x, source[k]? = some x → CharClass.isHexDigit x = false ∧ x ≠ '.') ∧ c = k
  | .hexadecimalDot =>
    (∃ digits, '0' :: 'x' :: digits <:+ source.take k ∧
        ∀ d ∈ digits, CharClass.isHexDigit d = true) ∧
      source[k]? = some '.' ∧ c = k
  | .negativeHexadecimal => ['-', '0', 'x'] <+: source.drop k ∧ c = k + 1
  | .doubleDot =>
    (∃ whole fraction, whole ++ '.' :: fraction <:+ source.take k ∧ whole ≠ [] ∧
        (∀ d ∈ whole, d.isDigit = true) ∧ ∀ d ∈ fraction, d.isDigit = true) ∧
      source[k]? = some '.' ∧ c = k
  | .unexpectedEscape e =>
    -- the backslash stands in a string that opens before it
    (∃ raw meaning, Pieces raw meaning ∧ '"' :: raw <:+ source.take k) ∧
      ['\\', e] <+: source.drop k ∧ e ∉ escapes.map Prod.fst ∧ c = k + 1
  | .unterminatedBlockComment =>
    ['/', '*'] <+: source.drop k ∧ ¬ ['*', '/'] <:+: source.drop (k + 2) ∧ c = source.length
  | .unterminatedString =>
    -- pieces of a string and at most one more backslash, but no closing quote
    (∃ raw meaning, Pieces raw meaning ∧
        (source.drop k = '"' :: raw ∨ source.drop k = '"' :: raw ++ ['\\'])) ∧
      c = source.length

/-- **A fault of the grammar has its place**: behind its lead, and reading gives up behind its
tail.

**Proof sketch.** By cases on the fault. Each rule of the grammar fixes the lead, the tail and what
is left, and the cuts of the text at the place are the lead and what follows it. The two faults of
a missing end leave nothing, so that their reading gives up at the end of the text. -/
theorem Grammar.Breaks.liesAt {f : Fault} {lead tail left source : Text} {k c : Nat}
    (breaks : Breaks f lead tail left) (front : Text) (before : source.take k = front ++ lead)
    (behind : source.drop k = tail ++ left) (stop : c = k + tail.length) :
    f.LiesAt source k c := by
  have here : source[k]? = (tail ++ left).head? := by rw [← behind, List.head?_drop]
  have length : (tail ++ left).length = source.length - k := by rw [← behind, List.length_drop]
  cases breaks with
  | @missingHexDigits digits left hexadecimal uncounted noDigit noPoint =>
    refine ⟨⟨digits, ⟨front, before.symm⟩, hexadecimal, uncounted⟩, ?_, stop⟩
    intro x found
    rw [here] at found
    refine ⟨noDigit x found, ?_⟩
    rintro rfl
    exact noPoint found
  | @hexadecimalDot digits left hexadecimal =>
    exact ⟨⟨digits, ⟨front, before.symm⟩, hexadecimal⟩, here, stop⟩
  | @negativeHexadecimal left => exact ⟨⟨left, behind.symm⟩, stop⟩
  | @doubleDot sign whole fraction left signed nonempty decimal decimalFraction =>
    refine ⟨⟨whole, fraction, ⟨front ++ sign, ?_⟩, nonempty, decimal, decimalFraction⟩, here, stop⟩
    rw [before]
    simp
  | @unexpectedEscape raw meaning left e pieces unknown =>
    refine ⟨⟨raw, meaning, pieces, front, before.symm⟩, ⟨left, behind.symm⟩, ?_, stop⟩
    intro known
    obtain ⟨⟨_, d⟩, member, rfl⟩ := List.mem_map.1 known
    exact unknown d member
  | @unterminatedString raw meaning pieces =>
    refine ⟨⟨raw, meaning, pieces, .inl (by simpa using behind)⟩, ?_⟩
    simp only [List.append_nil, List.length_cons] at length stop
    omega
  | @unterminatedEscape raw meaning pieces =>
    refine ⟨⟨raw, meaning, pieces, .inr (by simpa using behind)⟩, ?_⟩
    simp only [List.append_nil, List.cons_append, List.length_cons] at length stop
    omega
  | @unterminatedBlockComment body unclosed =>
    refine ⟨⟨body, by simpa using behind.symm⟩, ?_, ?_⟩
    · rw [← List.drop_drop, behind]
      simpa using unclosed
    · simp only [List.append_nil, List.length_cons] at length stop
      omega

namespace Cursor

variable {suppression : Suppression} {mode : Mode} {c d : Cursor}

/-- The failure of a call is a fault at a place between those before and after the call. -/
theorem Pulls.liesAt {failure : Failure} (h : Pulls suppression mode c (.failed failure) d)
    (placed : c.Placed) :
    ∃ f k, failure = .fault (.ofPosition f c.source (.behind (c.source.take k))) ∧
      c.position.offset ≤ k ∧ k ≤ d.position.offset ∧
      f.LiesAt c.source k d.position.offset := by
  cases h with
  | @fault f trivia lead tail left full split suppressed kept breaks =>
    have led : c.rest = (trivia ++ lead) ++ (tail ++ left) := by simp [split]
    have whole : c.rest = (trivia ++ (lead ++ tail)) ++ left := by simp [split]
    obtain ⟨before, rest⟩ := placed.cut
    have stop : (c.skip (trivia ++ (lead ++ tail)).length).position.offset =
        c.position.offset + (trivia ++ lead).length + tail.length := by
      rw [position_skip_length whole, Position.offset_after]
      simp only [List.length_append]
      omega
    refine ⟨f, c.position.offset + (trivia ++ lead).length, ?_, Nat.le_add_right _ _, ?_, ?_⟩
    · rw [placed.after_eq_behind led]
    · rw [stop]
      exact Nat.le_add_right _ _
    · -- the text in front of the place ends with the lead, and the tail stands behind it
      refine breaks.liesAt (c.before.reverse ++ trivia) ?_ ?_ stop
      · rw [List.take_add, ← before, ← rest, led, List.take_left, List.append_assoc]
      · rw [← List.drop_drop, ← rest, led, List.drop_left]

end Cursor

namespace Session

/-- **Faults lie where their reports say.** Whatever calls have led to a session, a failure of a
further call is a fault of the text. Its report names a place that is not before the place of the
session and not behind the place where the call gives up: it gives the line and the column of
this place and shows it. What stands around it is what the fault says, and the fault tells how
far the call goes.

**Proof sketch.** A session that calls have led to reads its text (`Reaches.reads`). A call that
fails is one of the calls of the grammar (`pulls_or_stays`), since an ended stream does not fail,
and `Cursor.Pulls.liesAt` places its fault. -/
theorem faults_located (source : Text) (s : Session) (reached : (ofText source).Reaches s)
    (failure : Failure) (after : Session) (asked : s.Asks (.failed failure) after) :
    ∃ r k, failure = .fault r ∧ s.position.offset ≤ k ∧ k ≤ after.position.offset ∧
      r.line = (source.take k).countP CharClass.isLineFeed ∧
      r.column = (Text.lastLine (source.take k)).length ∧
      r.excerpt = Excerpt.render source r.line r.column ∧
      r.fault.LiesAt source k after.position.offset := by
  have reads : s.Reads source := reached.reads (reads_ofText source)
  rcases asked.pulls_or_stays with ⟨suppression, mode, pulls, -⟩ | ⟨finished, -⟩
  · obtain ⟨f, k, rfl, low, high, lies⟩ := pulls.liesAt reads.placed
    have text : s.cursor.source = source := reads.text
    rw [text] at lies ⊢
    exact ⟨_, k, rfl, low, high, rfl, rfl, rfl, lies⟩
  · cases finished

/-- Behind a word and a line feed that is passed over, a minus sign in front of a hexadecimal
number is at fault, and the call gives up behind it. -/
theorem faults_located_below_word :
    (ofText ['a', '\n', '-', '0', 'x', '1']).Reaches
        ⟨⟨['a'], ['\n', '-', '0', 'x', '1'], ⟨0, 1, 1, 1⟩⟩,
          some ⟨.identifier, ['a'], ⟨0, 1, 0, 0⟩⟩⟩ ∧
      Asks
        ⟨⟨['a'], ['\n', '-', '0', 'x', '1'], ⟨0, 1, 1, 1⟩⟩, some ⟨.identifier, ['a'], ⟨0, 1, 0, 0⟩⟩⟩
        (.failed (.fault (.ofPlace .negativeHexadecimal ['a', '\n', '-', '0', 'x', '1'] 1 0)))
        ⟨⟨['-', '\n', 'a'], ['0', 'x', '1'], ⟨1, 1, 3, 3⟩⟩, none⟩ ∧
      ∃ k, 1 ≤ k ∧ k ≤ 3 ∧
        Fault.LiesAt ['a', '\n', '-', '0', 'x', '1'] k 3 .negativeHexadecimal := by
  have word : (ofText ['a', '\n', '-', '0', 'x', '1']).next .none .full =
      (.token ⟨.identifier, ['a'], ⟨0, 1, 0, 0⟩⟩,
        ⟨⟨['a'], ['\n', '-', '0', 'x', '1'], ⟨0, 1, 1, 1⟩⟩,
          some ⟨.identifier, ['a'], ⟨0, 1, 0, 0⟩⟩⟩) := by decide +kernel
  have number : next
      ⟨⟨['a'], ['\n', '-', '0', 'x', '1'], ⟨0, 1, 1, 1⟩⟩, some ⟨.identifier, ['a'], ⟨0, 1, 0, 0⟩⟩⟩
      .all .full =
      (.failed (.fault (.ofPlace .negativeHexadecimal ['a', '\n', '-', '0', 'x', '1'] 1 0)),
        ⟨⟨['-', '\n', 'a'], ['0', 'x', '1'], ⟨1, 1, 3, 3⟩⟩, none⟩) := by decide +kernel
  have reached : (ofText ['a', '\n', '-', '0', 'x', '1']).Reaches
      ⟨⟨['a'], ['\n', '-', '0', 'x', '1'], ⟨0, 1, 1, 1⟩⟩,
        some ⟨.identifier, ['a'], ⟨0, 1, 0, 0⟩⟩⟩ := .single ⟨_, .next word⟩
  obtain ⟨r, k, same, low, high, -, -, -, lies⟩ := faults_located _ _ reached _ _ (.next number)
  cases same
  exact ⟨reached, .next number, k, low, high, lies⟩

/-- Where a digit is missing because there are too many to be counted, the call does not give up
behind the mark: the last character that it has passed is a digit. -/
theorem faults_located_uncounted :
    ∃ report after, (ofText ('0' :: 'x' :: uncountedZeros)).Asks (.failed (.fault report)) after ∧
      report.fault = .missingHexDigits ∧
      ¬ ['0', 'x'] <:+ ('0' :: 'x' :: uncountedZeros).take after.position.offset := by
  have call := take_ofText_of_breaks breaks_uncountedZeros
  rw [List.append_nil] at call
  refine ⟨_, _, .take call, rfl, ?_⟩
  have stop : ((Cursor.ofText ('0' :: 'x' :: uncountedZeros)).skip
      ('0' :: 'x' :: uncountedZeros).length).position.offset =
        ('0' :: 'x' :: uncountedZeros).length := by
    rw [Cursor.position_skip_ofText]
    rfl
  rw [position, stop, List.take_length]
  intro ends
  rcases List.suffix_cons_iff.1 ends with whole | ends
  · exact uncountedZeros_ne_nil (List.cons.inj (List.cons.inj whole).2).2.symm
  rcases List.suffix_cons_iff.1 ends with whole | ends
  · cases (List.cons.inj whole).1
  · have zero : 'x' = '0' := eq_zero_of_mem_uncountedZeros (ends.subset (by simp))
    cases zero

end Session

end Lexing
