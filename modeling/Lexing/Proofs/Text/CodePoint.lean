import Lexing.Text.CharClass

set_option relaxedAutoImplicit false
set_option autoImplicit false

/-!
# Character classes by code point

Each class of characters is a union of intervals of code points. Once classes are read this way,
that one contains another, or that two have nothing in common, is a fact of linear arithmetic.

## Main results

* `Lexing.CharClass.isBlank_iff`, `Lexing.CharClass.isLineFeed_iff`,
  `Lexing.CharClass.isDigit_iff`, `Lexing.CharClass.isHexDigit_iff`,
  `Lexing.CharClass.isWordLetter_iff`, `Lexing.CharClass.isWordPart_iff`,
  `Lexing.CharClass.isForeign_iff` — the intervals of each class.
* `Lexing.CharClass.isHexDigit_of_mem_toDigits` — numbers are written with hexadecimal digits.
-/

namespace Lexing

namespace CharClass

variable {c : Char}

/-- A character is known by its code point. -/
theorem eq_iff_toNat {d : Char} : c = d ↔ c.toNat = d.toNat :=
  Char.toNat_inj.symm

theorem isBlank_iff : isBlank c = true ↔ c.toNat = 0x20 ∨ c.toNat = 0x9 ∨ c.toNat = 0xD := by
  simp only [isBlank, Bool.or_eq_true, beq_iff_eq, eq_iff_toNat, or_assoc]
  rfl

theorem isLineFeed_iff : isLineFeed c = true ↔ c.toNat = 0xA := by
  simp only [isLineFeed, beq_iff_eq, eq_iff_toNat]
  rfl

/-- A blank ends no line. -/
theorem isLineFeed_of_isBlank (blank : isBlank c = true) : isLineFeed c = false := by
  rw [isBlank_iff] at blank
  rw [← Bool.not_eq_true, isLineFeed_iff]
  omega

theorem isDigit_iff : c.isDigit = true ↔ 0x30 ≤ c.toNat ∧ c.toNat ≤ 0x39 := by
  simp only [Char.isDigit, Bool.and_eq_true, decide_eq_true_eq]
  rfl

theorem isAlpha_iff :
    c.isAlpha = true ↔ 0x41 ≤ c.toNat ∧ c.toNat ≤ 0x5A ∨ 0x61 ≤ c.toNat ∧ c.toNat ≤ 0x7A := by
  have upper : c.isUpper = true ↔ 0x41 ≤ c.toNat ∧ c.toNat ≤ 0x5A := by
    show decide (c.val ≥ 'A'.val ∧ c.val ≤ 'Z'.val) = true ↔ _
    rw [decide_eq_true_eq]
    rfl
  have lower : c.isLower = true ↔ 0x61 ≤ c.toNat ∧ c.toNat ≤ 0x7A := by
    show (decide (c.val ≥ 'a'.val) && decide (c.val ≤ 'z'.val)) = true ↔ _
    rw [Bool.and_eq_true, decide_eq_true_eq, decide_eq_true_eq]
    rfl
  show (c.isUpper || c.isLower) = true ↔ _
  rw [Bool.or_eq_true, upper, lower]

theorem isHexDigit_iff :
    isHexDigit c = true ↔ 0x30 ≤ c.toNat ∧ c.toNat ≤ 0x39 ∨ 0x61 ≤ c.toNat ∧ c.toNat ≤ 0x66 ∨
      0x41 ≤ c.toNat ∧ c.toNat ≤ 0x46 := by
  simp only [isHexDigit, Bool.or_eq_true, Bool.and_eq_true, decide_eq_true_eq, isDigit_iff,
    or_assoc]
  rfl

theorem isWordLetter_iff :
    isWordLetter c = true ↔
      c.toNat = 0x5F ∨ 0x41 ≤ c.toNat ∧ c.toNat ≤ 0x5A ∨ 0x61 ≤ c.toNat ∧ c.toNat ≤ 0x7A := by
  simp only [isWordLetter, Bool.or_eq_true, beq_iff_eq, isAlpha_iff, eq_iff_toNat]
  rfl

theorem isWordPart_iff :
    isWordPart c = true ↔
      c.toNat = 0x5F ∨ (0x41 ≤ c.toNat ∧ c.toNat ≤ 0x5A ∨ 0x61 ≤ c.toNat ∧ c.toNat ≤ 0x7A) ∨
        0x30 ≤ c.toNat ∧ c.toNat ≤ 0x39 := by
  simp only [isWordPart, Char.isAlphanum, Bool.or_eq_true, beq_iff_eq, isAlpha_iff, isDigit_iff,
    eq_iff_toNat]
  rfl

theorem isForeign_iff :
    isForeign c = true ↔
      0x7F ≤ c.toNat ∨
        c.toNat < 0x20 ∧ c.toNat ≠ 0x9 ∧ c.toNat ≠ 0xA ∧ c.toNat ≠ 0xD := by
  have blank : isBlank c = false ↔ ¬ (c.toNat = 0x20 ∨ c.toNat = 0x9 ∨ c.toNat = 0xD) := by
    rw [← isBlank_iff, Bool.not_eq_true]
  have feed : isLineFeed c = false ↔ ¬ c.toNat = 0xA := by
    rw [← isLineFeed_iff, Bool.not_eq_true]
  simp only [isForeign, isAsciiControl, Bool.or_eq_true, Bool.and_eq_true, Bool.not_eq_true',
    decide_eq_true_eq, beq_iff_eq, blank, feed]
  omega

/-! ## Written numbers -/

/-- The digits of a number in a base up to sixteen are hexadecimal digits. -/
theorem isHexDigit_of_mem_toDigits {b : Nat} (low : 1 < b) (high : b ≤ 16) (n : Nat) :
    ∀ d ∈ Nat.toDigits b n, isHexDigit d = true := by
  have digit : ∀ m < 16, isHexDigit (Nat.digitChar m) = true := by decide
  induction n using Nat.strongRecOn with
  | ind n ih =>
    intro d hd
    by_cases small : n < b
    · rw [Nat.toDigits_of_lt_base small, List.mem_singleton] at hd
      rw [hd]
      exact digit n (by omega)
    · rw [Nat.toDigits_of_base_le low (by omega), List.mem_append, List.mem_singleton] at hd
      rcases hd with front | rfl
      · exact ih (n / b) (Nat.div_lt_self (by omega) low) d front
      · exact digit (n % b) (Nat.lt_of_lt_of_le (Nat.mod_lt n (by omega)) high)

end CharClass

end Lexing
