import Lexing.Proofs.Text.Run
import Lexing.Text.Lines

set_option relaxedAutoImplicit false
set_option autoImplicit false

/-!
# Written numbers

A number is known by its digits, also where other text stands behind them that does not go on with
a digit. A larger number has at least as many digits.

## Main results

* `Lexing.Text.toDigits_inj` — numbers with the same digits are the same.
* `Lexing.Text.decimal_append_inj` — the same with text behind the digits.
* `Lexing.Text.length_decimal_mono` — larger numbers are no shorter.
-/

namespace Lexing

namespace Text

variable {b m n : Nat} {x y : Text}

/-- Numbers with the same digits in a base up to sixteen are the same.

**Proof sketch.** Strong induction on the number. The last digits are the same and tell the
remainders by the base, the digits before them tell the quotients, and both together tell the
numbers. -/
theorem toDigits_inj (low : 1 < b) (high : b ≤ 16) (same : Nat.toDigits b m = Nat.toDigits b n) :
    m = n := by
  have digit : ∀ i < 16, ∀ j < 16, Nat.digitChar i = Nat.digitChar j → i = j := by decide
  -- a number below the base has one digit, and any other has more
  have longer : ∀ {i j : Nat}, i < b → b ≤ j → Nat.toDigits b i ≠ Nat.toDigits b j := by
    intro i j small large equal
    rw [Nat.toDigits_of_lt_base small, Nat.toDigits_of_base_le low large] at equal
    have lengths := congrArg List.length equal
    have front := @Nat.length_toDigits_pos b (j / b)
    simp only [List.length_append, List.length_singleton] at lengths
    omega
  induction m using Nat.strongRecOn generalizing n with
  | ind m ih =>
    by_cases first : m < b
    · by_cases second : n < b
      · rw [Nat.toDigits_of_lt_base first, Nat.toDigits_of_lt_base second] at same
        exact digit m (by omega) n (by omega) (List.singleton_inj.1 same)
      · exact absurd same (longer first (Nat.le_of_not_lt second))
    · have large : b ≤ m := Nat.le_of_not_lt first
      by_cases second : n < b
      · exact absurd same.symm (longer second large)
      · rw [Nat.toDigits_of_base_le low large,
          Nat.toDigits_of_base_le low (Nat.le_of_not_lt second)] at same
        obtain ⟨fronts, lasts⟩ := List.append_inj' same rfl
        have quotients : m / b = n / b := ih (m / b) (Nat.div_lt_self (by omega) low) fronts
        have remainders : m % b = n % b := by
          have small := Nat.mod_lt m (show 0 < b by omega)
          have other := Nat.mod_lt n (show 0 < b by omega)
          exact digit _ (by omega) _ (by omega) (List.singleton_inj.1 lasts)
        rw [← Nat.div_add_mod m b, ← Nat.div_add_mod n b, quotients, remainders]

/-- A number in decimal is made of digits. -/
theorem isDigit_of_mem_decimal : ∀ c ∈ decimal n, c.isDigit = true :=
  fun _ => Nat.isDigit_of_mem_toDigits (by decide) (by decide)

/-- A character that is no digit is in no number. -/
theorem not_mem_decimal {c : Char} (other : c.isDigit = false) (n : Nat) : c ∉ decimal n := by
  intro inside
  rw [isDigit_of_mem_decimal c inside] at other
  cases other

/-- Numbers in front of what does not go on with a digit are told by their digits. -/
theorem decimal_append_inj (stops : Stops Char.isDigit x) (others : Stops Char.isDigit y)
    (same : decimal m ++ x = decimal n ++ y) : m = n ∧ x = y := by
  have digits : decimal m = decimal n := by
    rw [← takeWhile_run isDigit_of_mem_decimal stops, same,
      takeWhile_run isDigit_of_mem_decimal others]
  rw [digits] at same
  exact ⟨toDigits_inj (by decide) (by decide) digits, List.append_cancel_left same⟩

/-- A larger number is no shorter in decimal. -/
theorem length_decimal_mono (le : m ≤ n) : (decimal m).length ≤ (decimal n).length := by
  have positive : 0 < (decimal n).length := Nat.length_toDigits_pos
  have bound : n < 10 ^ (decimal n).length :=
    (Nat.length_toDigits_le_iff (by decide) positive).1 (Nat.le_refl _)
  exact (Nat.length_toDigits_le_iff (by decide) positive).2 (by omega)

end Text

end Lexing
