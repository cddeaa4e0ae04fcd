import Lexing.Lexeme.Recognition
import Lexing.Proofs.Grammar
import Lexing.Proofs.Text.CodePoint
import Mathlib.Tactic.SplitIfs

set_option relaxedAutoImplicit false
set_option autoImplicit false

/-!
# Routing

Which reader a first character leads to, said for each reader on its own and not by the order in
which the classes are tried. The conditions exclude one another and leave nothing out, so the
order does not matter.

## Main definitions

* `Lexing.Reader.Opens` — the condition under which a reader is entered.

## Main results

* `Lexing.Reader.route_eq_iff` — a character is routed to a reader exactly under its condition.
-/

namespace Lexing

namespace Reader

/-- The condition under which a reader is entered: on the first character of what is left, and
on the character after it. -/
def Opens (mode : Mode) (c : Char) (next? : Option Char) : Reader → Prop
  | .blank => CharClass.isBlank c = true
  | .lineFeed => CharClass.isLineFeed c = true
  | .word wordMode => wordMode = mode ∧ Plain.opensWord mode c = true
  | .foreign => CharClass.isForeign c = true
  | .number => mode = .full ∧ c.isDigit = true
  | .negativeNumber => mode = .full ∧ c = '-' ∧ ∃ d, next? = some d ∧ d.isDigit = true
  | .string => mode = .full ∧ c = '"'
  | .slash => mode = .full ∧ c = '/'
  | .operator =>
    Grammar.isMark mode c = true ∧
      (mode = .full → c ≠ '/' ∧ (c = '-' → ∀ d, next? = some d → d.isDigit = false))

variable {mode : Mode} {c : Char} {next? : Option Char} {reader : Reader}

theorem isPunctuation_iff :
    Grammar.isPunctuation c = true ↔
      0x20 < c.toNat ∧ c.toNat < 0x7F ∧ ¬ CharClass.isWordPart c = true := by
  simp only [Grammar.isPunctuation, Bool.and_eq_true, decide_eq_true_eq, Bool.not_eq_true',
    Bool.not_eq_true, and_assoc]

/-- A character is in none of the classes that are tried first if and only if it is visible and
belongs to no word. -/
theorem isPunctuation_iff_not :
    Grammar.isPunctuation c = true ↔
      ¬ CharClass.isBlank c = true ∧ ¬ CharClass.isLineFeed c = true ∧
        ¬ CharClass.isWordPart c = true ∧ ¬ CharClass.isForeign c = true := by
  rw [isPunctuation_iff, CharClass.isBlank_iff, CharClass.isLineFeed_iff,
    CharClass.isForeign_iff]
  constructor
  · rintro ⟨low, high, word⟩
    exact ⟨by omega, by omega, word, by omega⟩
  · rintro ⟨blank, feed, word, foreign⟩
    exact ⟨by omega, by omega, word⟩

/-- The characters of words are letters, the underscore and digits. -/
theorem isWordPart_eq_true_iff :
    CharClass.isWordPart c = true ↔ CharClass.isWordLetter c = true ∨ c.isDigit = true := by
  rw [CharClass.isWordPart_iff, CharClass.isWordLetter_iff, CharClass.isDigit_iff]
  omega

/-- A reader is entered only under its condition.

**Proof sketch.** By cases on the choice. Its own test is the condition of the reader. The operator
comes last, and what none of the tests before has taken is punctuation. -/
theorem opens_route (mode : Mode) (c : Char) (next? : Option Char) :
    Opens mode c next? (route mode c next?) := by
  cases mode with
  | literal =>
    simp only [route]
    split_ifs with blank feed opens foreign
    · exact blank
    · exact feed
    · exact ⟨rfl, opens⟩
    · exact foreign
    · have punctuation : Grammar.isPunctuation c = true :=
        isPunctuation_iff_not.2 ⟨blank, feed, opens, foreign⟩
      exact ⟨by simp [Grammar.isMark, punctuation], fun h => by cases h⟩
  | full =>
    simp only [route]
    split_ifs with blank feed opens foreign digit negative quote slash
    · exact blank
    · exact feed
    · exact ⟨rfl, opens⟩
    · exact foreign
    · exact ⟨rfl, digit⟩
    · simp only [Bool.and_eq_true, beq_iff_eq, Option.any_eq_true] at negative
      obtain ⟨minus, d, hnext, hd⟩ := negative
      exact ⟨rfl, minus, d, hnext, hd⟩
    · exact ⟨rfl, by simpa using quote⟩
    · exact ⟨rfl, by simpa using slash⟩
    · have noWord : ¬ CharClass.isWordPart c = true := by
        rw [isWordPart_eq_true_iff]
        exact not_or.2 ⟨opens, digit⟩
      have punctuation : Grammar.isPunctuation c = true :=
        isPunctuation_iff_not.2 ⟨blank, feed, noWord, foreign⟩
      refine ⟨?_, fun _ => ⟨by simpa using slash, ?_⟩⟩
      · simpa [Grammar.isMark, punctuation] using quote
      · rintro minus d rfl
        simpa [minus] using negative

/-- A visible ASCII character is neither blank nor a line feed nor foreign. -/
theorem layout_of_visible (low : 0x20 < c.toNat) (high : c.toNat < 0x7F) :
    CharClass.isBlank c = false ∧ CharClass.isLineFeed c = false ∧
      CharClass.isForeign c = false := by
  simp only [← Bool.not_eq_true, CharClass.isBlank_iff, CharClass.isLineFeed_iff,
    CharClass.isForeign_iff]
  omega

/-- The characters of words are visible. -/
theorem visible_of_isWordPart (h : CharClass.isWordPart c = true) :
    0x20 < c.toNat ∧ c.toNat < 0x7F := by
  rw [CharClass.isWordPart_iff] at h
  omega

/-- Under its condition a reader is entered.

**Proof sketch.** By cases on the reader. The readers are tried in order, and the condition of each
of them excludes those that are tried before it. This is arithmetic on the numbers of
characters. -/
theorem route_of_opens (h : Opens mode c next? reader) : route mode c next? = reader := by
  cases reader with
  | blank =>
    have blank : CharClass.isBlank c = true := h
    simp [route, blank]
  | lineFeed =>
    have feed : CharClass.isLineFeed c = true := h
    have blank : ¬ CharClass.isBlank c = true := by
      rw [CharClass.isLineFeed_iff] at feed
      rw [CharClass.isBlank_iff]
      omega
    simp [route, blank, feed]
  | word wordMode =>
    obtain ⟨rfl, opens⟩ := h
    obtain ⟨low, high⟩ := visible_of_isWordPart (Plain.isWordPart_of_opensWord opens)
    obtain ⟨blank, feed, -⟩ := layout_of_visible low high
    simp [route, blank, feed, opens]
  | foreign =>
    have foreign : CharClass.isForeign c = true := h
    have others : ¬ CharClass.isBlank c = true ∧ ¬ CharClass.isLineFeed c = true ∧
        ¬ CharClass.isWordPart c = true := by
      rw [CharClass.isForeign_iff] at foreign
      rw [CharClass.isBlank_iff, CharClass.isLineFeed_iff, CharClass.isWordPart_iff]
      omega
    have opens : ¬ Plain.opensWord mode c = true :=
      fun hw => others.2.2 (Plain.isWordPart_of_opensWord hw)
    simp [route, others.1, others.2.1, opens, foreign]
  | number =>
    obtain ⟨rfl, digit⟩ := h
    obtain ⟨low, high⟩ := visible_of_isWordPart (isWordPart_eq_true_iff.2 (.inr digit))
    have letter : ¬ CharClass.isWordLetter c = true := by
      rw [CharClass.isDigit_iff] at digit
      rw [CharClass.isWordLetter_iff]
      omega
    obtain ⟨blank, feed, foreign⟩ := layout_of_visible low high
    simp [route, blank, feed, foreign, Plain.opensWord, letter, digit]
  | negativeNumber =>
    obtain ⟨rfl, rfl, d, rfl, digit⟩ := h
    have others : CharClass.isBlank '-' = false ∧ CharClass.isLineFeed '-' = false ∧
        Plain.opensWord .full '-' = false ∧ CharClass.isForeign '-' = false ∧
        Char.isDigit '-' = false := by decide
    simp [route, others, digit]
  | string =>
    obtain ⟨rfl, rfl⟩ := h
    rfl
  | slash =>
    obtain ⟨rfl, rfl⟩ := h
    rfl
  | operator =>
    obtain ⟨marks, special⟩ := h
    simp only [Grammar.isMark, Bool.and_eq_true] at marks
    obtain ⟨low, high, word⟩ := isPunctuation_iff.1 marks.1
    have opens : ¬ Plain.opensWord mode c = true :=
      fun hw => word (Plain.isWordPart_of_opensWord hw)
    obtain ⟨blank, feed, foreign⟩ := layout_of_visible low high
    cases mode with
    | literal => simp [route, blank, feed, foreign, opens]
    | full =>
      have digit : c.isDigit = false := by
        rw [← Bool.not_eq_true]
        exact fun hd => word (isWordPart_eq_true_iff.2 (.inr hd))
      obtain ⟨slash, minus⟩ := special rfl
      have quote : c ≠ '"' := by simpa using marks.2
      have negative : ¬ (c == '-' && next?.any Char.isDigit) = true := by
        simp only [Bool.and_eq_true, beq_iff_eq, Option.any_eq_true, not_and, not_exists]
        intro hc d hnext hd
        rw [minus hc d hnext] at hd
        cases hd
      simp only [route, blank, feed, foreign, opens, digit, negative, beq_eq_false_iff_ne.2 quote,
        beq_eq_false_iff_ne.2 slash, Bool.false_eq_true, if_false]

/-- A character is routed to a reader exactly under the condition of that reader. -/
theorem route_eq_iff : route mode c next? = reader ↔ Opens mode c next? reader := by
  constructor
  · rintro rfl
    exact opens_route mode c next?
  · exact route_of_opens

end Reader

end Lexing
