import Lexing.Proofs.Text.CodePoint
import Lexing.Proofs.Text.Decimal
import Lexing.Proofs.Text.Escaping
import Lexing.Text.Quoted
import Mathlib.Tactic.SplitIfs

set_option relaxedAutoImplicit false
set_option autoImplicit false

/-!
# Quoted text is told apart

Text between double quotes holds no control character, whatever the text is, and so it is on one
line. It is that of one text only. Both follow from the convention alone. It does not matter which
characters are written by number, as long as quotes, backslashes and controls are not written as
they are.

## Main definitions

* `Lexing.CharClass.isControl` — the control characters.
* `Lexing.Quoted.escaping` — the convention on quoted text.

## Main results

* `Lexing.Quoted.writes_escape` — characters are escaped by the convention.
* `Lexing.Quoted.isLegible_escaping` — the convention tells characters apart.
* `Lexing.Quoted.not_isControl_of_mem_ofText` — quoted text holds no control character.
* `Lexing.Quoted.selfDelimiting_ofText` — texts that are quoted alike are the same.
-/

namespace Lexing

/-- The control characters of Unicode, those of ASCII included. -/
def CharClass.isControl (c : Char) : Bool :=
  c.toNat < 0x20 || (0x7F ≤ c.toNat && c.toNat ≤ 0x9F)

/-- Control characters have no shape of their own. -/
theorem Unicode.isInvisible_of_isControl {c : Char} (control : CharClass.isControl c = true) :
    isInvisible c = true := by
  have low : (0x0, 0x1F) ∈ invisible := List.mem_cons_self
  have high : (0x7F, 0xA0) ∈ invisible := List.mem_cons_of_mem _ List.mem_cons_self
  simp only [CharClass.isControl, Bool.or_eq_true, Bool.and_eq_true, decide_eq_true_eq] at control
  simp only [isInvisible, inRanges, Bool.and_eq_true, Bool.not_eq_true', Bool.and_eq_false_iff,
    decide_eq_false_iff_not, List.any_eq_true, decide_eq_true_eq]
  rcases control with below | between
  · exact ⟨by omega, _, low, by omega, by omega⟩
  · exact ⟨by omega, _, high, by omega, by omega⟩

namespace Quoted

/-- The convention on quoted text: six characters have a letter, any other may be written by number
in braces, and all but controls may be written as they are. -/
def escaping : Escaping where
  plain c := c ≠ '"' ∧ c ≠ '\\' ∧ CharClass.isControl c = false
  letters := [('\x00', '0'), ('\t', 't'), ('\r', 'r'), ('\n', 'n'), ('"', '"'), ('\\', '\\')]
  numbered _ := True
  numeral c := '\x7b' :: (hexadecimal c.toNat ++ ['\x7d'])

/-- Characters are escaped by the convention. -/
theorem writes_escape (c : Char) : escaping.Writes c (escape '"' c) := by
  unfold escape
  split_ifs with null tab carriage feed special hidden
  · obtain rfl : c = '\x00' := by simpa using null
    exact .letter (by decide)
  · obtain rfl : c = '\t' := by simpa using tab
    exact .letter (by decide)
  · obtain rfl : c = '\r' := by simpa using carriage
    exact .letter (by decide)
  · obtain rfl : c = '\n' := by simpa using feed
    exact .letter (by decide)
  · have either : c = '\\' ∨ c = '"' := by simpa using special
    rcases either with rfl | rfl
    · exact .letter (by decide)
    · exact .letter (by decide)
  · exact .numeral trivial
  · simp only [Bool.or_eq_true, beq_iff_eq, not_or, Bool.not_eq_true] at special hidden
    refine .plain ⟨special.2, special.1, ?_⟩
    rw [← Bool.not_eq_true]
    intro control
    rw [Unicode.isInvisible_of_isControl control] at hidden
    cases hidden.2

/-- A closing brace is no digit. -/
theorem brace_not_mem_hexadecimal (n : Nat) : '\x7d' ∉ hexadecimal n := by
  intro inside
  have digit := CharClass.isHexDigit_of_mem_toDigits (by decide) (by decide) n _ inside
  revert digit
  decide

/-- The convention tells characters apart. -/
theorem isLegible_escaping : escaping.IsLegible where
  noQuote plain := plain.1 rfl
  noBackslash plain := plain.2.1 rfl
  letters := by decide
  noMark := by decide
  numerals := by
    intro c d x y _ _ same
    -- the number ends at the first closing brace
    have braced : hexadecimal c.toNat ++ '\x7d' :: x = hexadecimal d.toNat ++ '\x7d' :: y := by
      simpa [escaping] using same
    obtain ⟨digits, behind⟩ := Text.append_cons_inj (brace_not_mem_hexadecimal _)
      (brace_not_mem_hexadecimal _) braced
    exact ⟨Char.toNat_inj.1 (Text.toDigits_inj (by decide) (by decide) digits), behind⟩

/-- No control character is written for any character. -/
theorem not_isControl_of_writes {c d : Char} {v : Text} (writes : escaping.Writes c v)
    (inside : d ∈ v) : CharClass.isControl d = false := by
  have letters : ∀ p ∈ escaping.letters, CharClass.isControl p.2 = false := by decide
  cases writes with
  | plain plain =>
    rw [List.mem_singleton.1 inside]
    exact plain.2.2
  | letter given =>
    simp only [List.mem_cons, List.not_mem_nil, or_false] at inside
    rcases inside with rfl | rfl
    · rfl
    · exact letters _ given
  | numeral numbered =>
    simp only [escaping, List.mem_cons, List.mem_append, List.not_mem_nil, or_false] at inside
    rcases inside with rfl | rfl | rfl | digit | rfl
    · rfl
    · rfl
    · rfl
    · have hexadecimal := CharClass.isHexDigit_of_mem_toDigits (by decide) (by decide) _ d digit
      rw [CharClass.isHexDigit_iff] at hexadecimal
      simp only [CharClass.isControl, Bool.or_eq_false_iff, Bool.and_eq_false_iff,
        decide_eq_false_iff_not]
      omega
    · rfl

/-- **Quoted text holds no control character**, whatever the text is. So it is on one line. -/
theorem not_isControl_of_mem_ofText {text : Text} {d : Char} (inside : d ∈ ofText text) :
    CharClass.isControl d = false := by
  simp only [ofText, List.cons_append, List.mem_cons, List.mem_append, List.mem_flatMap,
    List.not_mem_nil, or_false] at inside
  rcases inside with rfl | ⟨c, -, escaped⟩ | rfl
  · rfl
  · exact not_isControl_of_writes (writes_escape c) escaped
  · rfl

/-- Quoted text ends by itself, at its closing quote. -/
theorem selfDelimiting_ofText : Text.SelfDelimiting ofText :=
  Escaping.selfDelimiting_quote isLegible_escaping writes_escape

end Quoted

end Lexing
