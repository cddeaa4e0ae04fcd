import Lexing.Text.CharClass

set_option relaxedAutoImplicit false
set_option autoImplicit false

/-!
# Escaping between quotes

Between double quotes a character is written as it is, or as a backslash and a letter, or as a
backslash, the letter `u` and its number. Several conventions are of this form. They differ in the
letters, in how a number is written, and in which characters are written in which way. What is
written can be told under all of them, because no character is written with what another one begins
with, and none with the closing quote.

## Main definitions

* `Lexing.Text.SelfDelimiting` — what is written ends by itself.
* `Lexing.Escaping` — a convention.
* `Lexing.Escaping.Writes` — the ways to write a character.
* `Lexing.Escaping.IsLegible` — the convention tells characters apart.

## Main results

* `Lexing.Escaping.Writes.append_inj` — a character is told by what begins with it.
* `Lexing.Escaping.flatMap_append_inj` — a text is told by what stands up to the closing quote.
* `Lexing.Escaping.selfDelimiting_quote` — what stands between quotes ends by itself.
-/

namespace Lexing

/-! ## What ends by itself -/

/-- What is written ends by itself: it is told by any text that begins with it, and so is what
stands behind it. -/
def Text.SelfDelimiting {α : Type} (write : α → Text) : Prop :=
  ∀ ⦃a b : α⦄ ⦃x y : Text⦄, write a ++ x = write b ++ y → a = b ∧ x = y

/-- What ends by itself is told where nothing stands behind it. -/
theorem Text.SelfDelimiting.injective {α : Type} {write : α → Text}
    (ends : SelfDelimiting write) : Function.Injective write := by
  intro a b same
  have behind : write a ++ [] = write b ++ [] := by rw [same]
  exact (ends behind).1

/-! ## Conventions -/

/-- A convention on how characters are written between double quotes. -/
structure Escaping where
  /-- The characters that may be written as they are. -/
  plain : Char → Prop
  /-- The characters that have a letter, with their letters. -/
  letters : List (Char × Char)
  /-- The characters that may be written by number. -/
  numbered : Char → Prop
  /-- The number of a character, as it is written behind a backslash and the letter `u`. -/
  numeral : Char → Text

namespace Escaping

/-- The ways to write a character. -/
inductive Writes (e : Escaping) (c : Char) : Text → Prop where
  | plain (plain : e.plain c) : Writes e c [c]
  | letter {letter : Char} (given : (c, letter) ∈ e.letters) : Writes e c ['\\', letter]
  | numeral (numbered : e.numbered c) : Writes e c ('\\' :: 'u' :: e.numeral c)

/-- A convention tells characters apart: quotes and backslashes are not written as they are, each
letter is that of one character and is not the mark of numbers, and each number is that of one
character, whatever stands behind it. -/
structure IsLegible (e : Escaping) : Prop where
  noQuote : ¬ e.plain '"'
  noBackslash : ¬ e.plain '\\'
  letters : ∀ p ∈ e.letters, ∀ q ∈ e.letters, p.2 = q.2 → p.1 = q.1
  noMark : ∀ p ∈ e.letters, p.2 ≠ 'u'
  numerals : ∀ {c d : Char} {x y : Text}, e.numbered c → e.numbered d →
    e.numeral c ++ x = e.numeral d ++ y → c = d ∧ x = y

variable {e : Escaping} {c d : Char} {v w x y : Text}

/-- What is written for a character is a character of its own or begins with a backslash. In either
case it does not begin with a quote. -/
theorem Writes.exists_cons (legible : e.IsLegible) (writes : e.Writes c v) :
    ∃ first rest, v = first :: rest ∧ first ≠ '"' := by
  cases writes with
  | plain plain =>
    refine ⟨c, [], rfl, ?_⟩
    rintro rfl
    exact legible.noQuote plain
  | letter given => exact ⟨'\\', _, rfl, by decide⟩
  | numeral numbered => exact ⟨'\\', _, rfl, by decide⟩

/-- An escape does not begin with a character that is written as it is. -/
theorem IsLegible.ne_backslash (legible : e.IsLegible) (plain : e.plain c) : c ≠ '\\' := by
  rintro rfl
  exact legible.noBackslash plain

/-- **A character is told by what begins with it.**

**Proof sketch.** By cases on how the two characters are written. A plain character is no
backslash, so that it is told from the escapes by its first character. An escape by a letter is
told from one by a number by its mark, letters differ, and numerals end by themselves. -/
theorem Writes.append_inj (legible : e.IsLegible) (first : e.Writes c v) (second : e.Writes d w)
    (same : v ++ x = w ++ y) : c = d ∧ x = y := by
  cases first with
  | plain plain =>
    cases second with
    | plain other => exact List.cons.inj same
    | letter given => exact absurd (List.cons.inj same).1 (legible.ne_backslash plain)
    | numeral numbered => exact absurd (List.cons.inj same).1 (legible.ne_backslash plain)
  | @letter letter given =>
    cases second with
    | plain other => exact absurd (List.cons.inj same).1.symm (legible.ne_backslash other)
    | @letter other found =>
      obtain ⟨letters, behind⟩ := List.cons.inj (List.cons.inj same).2
      exact ⟨legible.letters _ given _ found letters, behind⟩
    | numeral numbered =>
      exact absurd (List.cons.inj (List.cons.inj same).2).1 (legible.noMark _ given)
  | numeral numbered =>
    cases second with
    | plain other => exact absurd (List.cons.inj same).1.symm (legible.ne_backslash other)
    | @letter other found =>
      exact absurd (List.cons.inj (List.cons.inj same).2).1.symm (legible.noMark _ found)
    | numeral others =>
      exact legible.numerals numbered others (List.cons.inj (List.cons.inj same).2).2

/-- **A text is told by what stands up to the closing quote**, and so is what stands behind it.

**Proof sketch.** Induction on both texts. What a character is written as does not begin with the
quote, so that both end at the same quote. Otherwise their first characters are the same
(`Writes.append_inj`). -/
theorem flatMap_append_inj (legible : e.IsLegible) {write : Char → Text}
    (writes : ∀ c, e.Writes c (write c)) {text other : Text}
    (same : text.flatMap write ++ '"' :: x = other.flatMap write ++ '"' :: y) :
    text = other ∧ x = y := by
  -- only the empty text is closed right away
  have filled (c : Char) (rest behind : Text) :
      (c :: rest).flatMap write ++ behind ≠ '"' :: x ∧
        (c :: rest).flatMap write ++ behind ≠ '"' :: y := by
    obtain ⟨first, others, form, noQuote⟩ := (writes c).exists_cons legible
    simp [form, noQuote]
  induction text generalizing other with
  | nil =>
    cases other with
    | nil => exact ⟨rfl, (List.cons.inj same).2⟩
    | cons d others => exact absurd same.symm (filled d others _).1
  | cons c text ih =>
    cases other with
    | nil => exact absurd same (filled c text _).2
    | cons d others =>
      rw [List.flatMap_cons, List.flatMap_cons, List.append_assoc, List.append_assoc] at same
      obtain ⟨rfl, behind⟩ := (writes c).append_inj legible (writes d) same
      obtain ⟨rfl, rest⟩ := ih behind
      exact ⟨rfl, rest⟩

/-- Text between quotes ends by itself. -/
theorem selfDelimiting_quote (legible : e.IsLegible) {write : Char → Text}
    (writes : ∀ c, e.Writes c (write c)) :
    Text.SelfDelimiting fun text : Text => '"' :: text.flatMap write ++ ['"'] := by
  intro text other x y same
  refine flatMap_append_inj legible writes ?_
  simpa using same

end Escaping

end Lexing
