import Lexing.Proofs.Routing
import Mathlib.Tactic.Tauto

set_option relaxedAutoImplicit false
set_option autoImplicit false

/-!
# Numerals conform to the grammar

What the readers of numbers find conforms to the grammar, faults included, and every number of
the grammar is found by its reader.

## Main results

* `Lexing.Numeral.countDigits_eq_zero_iff` — what the count of digits can tell.
* `Lexing.Numeral.conforms_read`, `Lexing.Numeral.conforms_readNegative` — what is found
  conforms.
* `Lexing.Numeral.readUnsigned_integer`, `Lexing.Numeral.readUnsigned_float`,
  `Lexing.Numeral.readUnsigned_hexadecimal` — what is in the grammar is found.
* `Lexing.Numeral.readUnsigned_missingHexDigits`, `Lexing.Numeral.readUnsigned_hexadecimalDot`,
  `Lexing.Numeral.readUnsigned_doubleDot` — the faults of the grammar are found.
-/

namespace Lexing

namespace Numeral

open Grammar

variable {sign digits whole fraction unsigned left : Text}

/-! ## Counted digits -/

/-- Digits are counted on from any number by their number, in the word of the count. -/
theorem foldl_count (digits : Text) (count : Int32) :
    digits.foldl (fun count _ => count + 1) count = count + .ofNat digits.length := by
  induction digits generalizing count with
  | nil => exact (Int32.add_zero count).symm
  | cons d digits ih =>
    rw [List.foldl_cons, ih, List.length_cons, Nat.add_comm, Int32.ofNat_add, Int32.add_assoc]
    rfl

/-- **The count of digits is zero exactly where their number is a multiple of `2 ^ 32`.**

**Proof sketch.** Counting in a word comes to the number of digits as a word (`foldl_count`), since
both add one for each digit. As a word a number is zero exactly where it is a multiple of
`Int32.size`. -/
theorem countDigits_eq_zero_iff : countDigits digits = 0 ↔ CountsAsNone digits := by
  have count : countDigits digits = .ofNat digits.length := by
    rw [countDigits, foldl_count, Int32.zero_add]
  rw [count, CountsAsNone, ← Int32.toBitVec_inj, ← BitVec.toNat_inj, Int32.toBitVec_ofNat',
    Nat.dvd_iff_mod_eq_zero]
  rfl

/-! ## Hexadecimal numbers -/

/-- The part of a hexadecimal number after its mark conforms, with the mark.

**Proof sketch.** Cut what follows the mark into its run of digits and the rest. By what the rest
begins with and by whether the count is zero (`countDigits_eq_zero_iff`) this is a rule of the
grammar. The run stops at the rest, so that the number may stand there. -/
theorem conforms_readHexadecimal (afterMark : Text) :
    (readHexadecimal afterMark).Conforms .full (hexMark ++ afterMark) := by
  obtain ⟨run, left, rfl, inside, stops⟩ := Text.exists_run CharClass.isHexDigit afterMark
  simp only [readHexadecimal, Text.takeWhile_run inside stops, Text.dropWhile_run inside stops]
  split
  · next tail => exact ⟨rfl, '.' :: tail, by simp, .hexadecimalDot inside⟩
  · next noPoint =>
    have head : left.head? ≠ some '.' := by
      intro h
      obtain ⟨tail, rfl⟩ := List.head?_eq_some_iff.1 h
      exact noPoint tail rfl
    split
    · next zero =>
      have uncounted : CountsAsNone run := countDigits_eq_zero_iff.1 zero
      exact ⟨rfl, left, by simp [hexMark], .missingHexDigits inside uncounted stops head⟩
    · next nonzero =>
      have counted : ¬ CountsAsNone run := mt countDigits_eq_zero_iff.2 nonzero
      refine ⟨.hexadecimal counted inside, left, by simp [hexMark], ?_⟩
      intro c hc
      have point : c ≠ '.' := by
        rintro rfl
        exact head hc
      simp [allows, stops c hc, point]

/-- A hexadecimal number is found where neither a hexadecimal digit nor a point follows it. -/
theorem readUnsigned_hexadecimal (counted : ¬ CountsAsNone digits)
    (hexadecimal : ∀ c ∈ digits, CharClass.isHexDigit c = true)
    (follows : MayPrecede .full .hexadecimal ('0' :: 'x' :: digits) left) :
    readUnsigned [] ('0' :: 'x' :: (digits ++ left)) =
      .verbatim .hexadecimal ('0' :: 'x' :: digits) := by
  have stops : Text.Stops CharClass.isHexDigit left :=
    follows.stops fun c hc => by
      simp only [allows, Bool.not_eq_true', Bool.or_eq_false_iff] at hc
      exact hc.1
  have allowed : ∀ tail, left ≠ '.' :: tail := by
    rintro tail rfl
    simp [allows] at follows
  simp only [readUnsigned, List.isEmpty_nil, if_true, readHexadecimal,
    Text.takeWhile_run hexadecimal stops, Text.dropWhile_run hexadecimal stops]
  rw [if_neg (mt countDigits_eq_zero_iff.1 counted)]
  rfl

/-- Missing digits are found where the digits after the mark count as none, and neither another
digit nor a point follows them. -/
theorem readUnsigned_missingHexDigits
    (hexadecimal : ∀ c ∈ digits, CharClass.isHexDigit c = true)
    (uncounted : CountsAsNone digits) (noDigit : Text.Stops CharClass.isHexDigit left)
    (noPoint : left.head? ≠ some '.') :
    readUnsigned [] ('0' :: 'x' :: (digits ++ left)) =
      .fault .missingHexDigits ('0' :: 'x' :: digits) [] := by
  simp only [readUnsigned, List.isEmpty_nil, if_true, readHexadecimal,
    Text.takeWhile_run hexadecimal noDigit, Text.dropWhile_run hexadecimal noDigit]
  rw [if_pos (countDigits_eq_zero_iff.2 uncounted)]
  split
  · exact absurd rfl noPoint
  · rfl

/-- A point is found behind the mark and any hexadecimal digits. -/
theorem readUnsigned_hexadecimalDot (hexadecimal : ∀ c ∈ digits, CharClass.isHexDigit c = true)
    (left : Text) :
    readUnsigned [] ('0' :: 'x' :: (digits ++ '.' :: left)) =
      .fault .hexadecimalDot ('0' :: 'x' :: digits) [] := by
  have point : Text.Stops CharClass.isHexDigit ('.' :: left) := Text.stops_cons.2 (by decide)
  simp only [readUnsigned, List.isEmpty_nil, if_true, readHexadecimal,
    Text.takeWhile_run hexadecimal point, Text.dropWhile_run hexadecimal point]
  rfl

/-! ## Decimal numbers -/

/-- A signed run of digits is a zero exactly if the run is. -/
theorem append_eq_zero_iff (signed : IsSign sign) (decimal : ∀ c ∈ digits, c.isDigit = true) :
    sign ++ digits = ['0'] ∨ sign ++ digits = ['-', '0'] ↔ digits = ['0'] := by
  rcases signed with rfl | rfl
  · have noSign : digits ≠ ['-', '0'] := by
      rintro rfl
      exact absurd (decimal '-' (by simp)) (by decide)
    simp [noSign]
  · simp

/-- What may follow an integer. -/
theorem allows_integer_iff (signed : IsSign sign) (decimal : ∀ c ∈ digits, c.isDigit = true)
    {c : Char} :
    allows .full .integer (sign ++ digits) c = true ↔
      c.isDigit = false ∧ c ≠ '.' ∧ ¬ (c = 'x' ∧ digits = ['0']) := by
  rw [← append_eq_zero_iff signed decimal]
  simp [allows]
  tauto

/-- What may follow a number with a point. -/
theorem allows_float_iff {raw : Text} {c : Char} :
    allows .full .float raw c = true ↔ c.isDigit = false ∧ c ≠ '.' := by
  simp [allows]

/-- A decimal number that opens with a digit conforms, if it does not open with the mark of a
hexadecimal number.

**Proof sketch.** Cut the text into its run of digits and the rest, and behind a point cut the rest
once more. By the points this is an integer, a fraction, or the fault of a second point. An integer
may stand in front of the rest, for no digit goes on with it and no mark of a hexadecimal number
begins there. -/
theorem conforms_readDecimal (signed : IsSign sign) {d : Char} {rest : Text}
    (digit : d.isDigit = true) (noMark : ∀ tail, d :: rest ≠ '0' :: 'x' :: tail) :
    (readDecimal sign (d :: rest)).Conforms .full (sign ++ d :: rest) := by
  obtain ⟨run, left, hrun, inside, stops⟩ := Text.exists_run Char.isDigit (d :: rest)
  have nonempty : run ≠ [] := by
    rintro rfl
    obtain rfl : left = d :: rest := hrun.symm
    rw [Text.stops_cons, digit] at stops
    cases stops
  rw [hrun] at noMark ⊢
  simp only [readDecimal, Text.takeWhile_run inside stops, Text.dropWhile_run inside stops]
  split
  · next afterPoint =>
    obtain ⟨fraction, left, rfl, inside', stops'⟩ := Text.exists_run Char.isDigit afterPoint
    simp only [Text.takeWhile_run inside' stops', Text.dropWhile_run inside' stops']
    split
    · next tail =>
      exact ⟨rfl, '.' :: tail, by simp, .doubleDot signed nonempty inside inside'⟩
    · next noPoint =>
      refine ⟨.float signed nonempty inside inside', left, by simp, ?_⟩
      intro c hc
      refine allows_float_iff.2 ⟨stops' c hc, ?_⟩
      rintro rfl
      obtain ⟨tail, rfl⟩ := List.head?_eq_some_iff.1 hc
      exact noPoint tail rfl
  · next noPoint =>
    refine ⟨.integer signed nonempty inside, left, by simp, ?_⟩
    intro c hc
    obtain ⟨tail, rfl⟩ := List.head?_eq_some_iff.1 hc
    refine (allows_integer_iff signed inside).2 ⟨stops c hc, ?_, ?_⟩
    · rintro rfl
      exact noPoint tail rfl
    · rintro ⟨rfl, rfl⟩
      exact noMark tail rfl

/-- Without the mark of a hexadecimal number, a number is decimal. -/
theorem readUnsigned_of_noMark (noMark : ∀ tail, unsigned ≠ '0' :: 'x' :: tail) :
    readUnsigned sign unsigned = readDecimal sign unsigned := by
  unfold readUnsigned
  split
  · next tail => exact absurd rfl (noMark tail)
  · rfl

/-- Digits that another character than the letter of the mark follows make up no mark. -/
theorem noMark_of_digits (left : Text) (nonempty : digits ≠ [])
    (decimal : ∀ c ∈ digits, c.isDigit = true)
    (follows : digits = ['0'] → left.head? ≠ some 'x') (tail : Text) :
    digits ++ left ≠ '0' :: 'x' :: tail := by
  intro h
  match digits, nonempty with
  | [c], _ =>
    obtain ⟨rfl, rfl⟩ := List.cons.inj h
    exact follows rfl rfl
  | c :: e :: others, _ =>
    simp only [List.cons_append, List.cons.injEq] at h
    obtain ⟨-, rfl, -⟩ := h
    exact absurd (decimal 'x' (by simp)) (by decide)

/-- An integer is found where neither a digit nor a point follows it, and no hexadecimal number
begins. -/
theorem readUnsigned_integer (signed : IsSign sign) (nonempty : digits ≠ [])
    (decimal : ∀ c ∈ digits, c.isDigit = true)
    (follows : MayPrecede .full .integer (sign ++ digits) left) :
    readUnsigned sign (digits ++ left) = .verbatim .integer (sign ++ digits) := by
  have allowed : ∀ c, left.head? = some c →
      c.isDigit = false ∧ c ≠ '.' ∧ ¬ (c = 'x' ∧ digits = ['0']) :=
    fun c hc => (allows_integer_iff signed decimal).1 (follows c hc)
  have stops : Text.Stops Char.isDigit left := fun c hc => (allowed c hc).1
  have noMark := noMark_of_digits left nonempty decimal
    fun zero head => (allowed 'x' head).2.2 ⟨rfl, zero⟩
  rw [readUnsigned_of_noMark noMark]
  simp only [readDecimal, Text.takeWhile_run decimal stops, Text.dropWhile_run decimal stops]
  split
  · exact absurd rfl (allowed '.' rfl).2.1
  · rfl

/-- A number with a point is found where neither a digit nor a point follows it. -/
theorem readUnsigned_float (nonempty : whole ≠ []) (decimal : ∀ c ∈ whole, c.isDigit = true)
    (decimalFraction : ∀ c ∈ fraction, c.isDigit = true)
    (follows : MayPrecede .full .float (sign ++ whole ++ '.' :: fraction) left) :
    readUnsigned sign (whole ++ '.' :: (fraction ++ left)) =
      .verbatim .float (sign ++ whole ++ '.' :: fraction) := by
  have allowed : ∀ c, left.head? = some c → c.isDigit = false ∧ c ≠ '.' :=
    fun c hc => allows_float_iff.1 (follows c hc)
  have stops : Text.Stops Char.isDigit left := fun c hc => (allowed c hc).1
  have point : Text.Stops Char.isDigit ('.' :: (fraction ++ left)) :=
    Text.stops_cons.2 (by decide)
  have noMark := noMark_of_digits ('.' :: (fraction ++ left)) nonempty decimal
    fun _ => by simp
  rw [readUnsigned_of_noMark noMark]
  simp only [readDecimal, Text.takeWhile_run decimal point, Text.dropWhile_run decimal point,
    Text.takeWhile_run decimalFraction stops, Text.dropWhile_run decimalFraction stops]
  split
  · exact absurd rfl (allowed '.' rfl).2
  · rfl

/-- A second point is found in a number. -/
theorem readUnsigned_doubleDot (sign left : Text) (nonempty : whole ≠ [])
    (decimal : ∀ c ∈ whole, c.isDigit = true)
    (decimalFraction : ∀ c ∈ fraction, c.isDigit = true) :
    readUnsigned sign (whole ++ '.' :: (fraction ++ '.' :: left)) =
      .fault .doubleDot (sign ++ whole ++ '.' :: fraction) [] := by
  have point (rest : Text) : Text.Stops Char.isDigit ('.' :: rest) :=
    Text.stops_cons.2 (by decide)
  have noMark := noMark_of_digits ('.' :: (fraction ++ '.' :: left)) nonempty decimal
    fun _ => by simp
  rw [readUnsigned_of_noMark noMark]
  simp only [readDecimal, Text.takeWhile_run decimal (point _),
    Text.dropWhile_run decimal (point _), Text.takeWhile_run decimalFraction (point _),
    Text.dropWhile_run decimalFraction (point _)]

/-! ## Numerals -/

/-- A numeral that opens with a digit after its sign conforms. -/
theorem conforms_readUnsigned (signed : IsSign sign) {d : Char} {rest : Text}
    (digit : d.isDigit = true) :
    (readUnsigned sign (d :: rest)).Conforms .full (sign ++ d :: rest) := by
  by_cases mark : ∃ tail, d :: rest = '0' :: 'x' :: tail
  · obtain ⟨tail, hmark⟩ := mark
    rw [hmark]
    rcases signed with rfl | rfl
    · exact conforms_readHexadecimal tail
    · exact ⟨rfl, '0' :: 'x' :: tail, rfl, .negativeHexadecimal⟩
  · have noMark : ∀ tail, d :: rest ≠ '0' :: 'x' :: tail := fun tail h => mark ⟨tail, h⟩
    rw [readUnsigned_of_noMark noMark]
    exact conforms_readDecimal signed digit noMark

/-- A numeral without a sign is what stands after no sign. -/
theorem read_cons {d : Char} {rest : Text} (digit : d.isDigit = true) :
    read (d :: rest) = readUnsigned [] (d :: rest) := by
  rw [read, Reader.enter_of_admits _ _ _ digit]

/-- A numeral with a sign is what stands after the sign. -/
theorem readNegative_cons {d : Char} {rest : Text} (digit : d.isDigit = true) :
    readNegative ('-' :: d :: rest) = readUnsigned ['-'] (d :: rest) := by
  rw [readNegative, Reader.enter_of_admits _ _ _ (by decide),
    Reader.enter_of_admits _ _ _ digit]

/-- A numeral without a sign conforms. -/
theorem conforms_read {d : Char} {rest : Text} (digit : d.isDigit = true) :
    (read (d :: rest)).Conforms .full (d :: rest) := by
  rw [read_cons digit]
  exact conforms_readUnsigned (.inl rfl) digit

/-- A numeral with a sign conforms. -/
theorem conforms_readNegative {d : Char} {rest : Text} (digit : d.isDigit = true) :
    (readNegative ('-' :: d :: rest)).Conforms .full ('-' :: d :: rest) := by
  rw [readNegative_cons digit]
  exact conforms_readUnsigned (.inr rfl) digit

end Numeral

end Lexing
