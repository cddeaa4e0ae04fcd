import Lexing.Text.CharClass

set_option relaxedAutoImplicit false
set_option autoImplicit false

/-!
# Lines

Text cut into pieces at separating characters, above all into lines at its line feeds, and the
small layout operations on single lines.

## Main definitions

* `Lexing.Text.split` — the pieces between the characters of a class.
* `Lexing.Text.lines` — the pieces between line feeds; a text has one line more than line feeds.
* `Lexing.Text.dropLastWhile` — a text without the longest run of a class at its end.
* `Lexing.Text.padLeft` — a text filled up with spaces on the left.

## Main results

* `Lexing.Text.length_lines` — the number of lines.
* `Lexing.Text.not_mem_of_mem_split` — no piece holds a separating character.
-/

namespace Lexing

namespace Text

/-- The pieces between the separating characters of a text. The empty text has one empty
piece. -/
def split (separates : Char → Bool) : Text → List Text
  | [] => [[]]
  | c :: rest =>
    if separates c then [] :: split separates rest
    else
      match split separates rest with
      | [] => [[c]]
      | piece :: others => (c :: piece) :: others

/-- The pieces between the line feeds of a text. -/
def lines (text : Text) : List Text :=
  split CharClass.isLineFeed text

/-- Lines put together again, with a line feed between each two. -/
def joinLines (rows : List Text) : Text :=
  ['\n'].intercalate rows

/-- A text without the longest run of members at its end. -/
def dropLastWhile (member : Char → Bool) (line : Text) : Text :=
  (line.reverse.dropWhile member).reverse

/-- A text filled up to a width with spaces on the left. A longer text is left as it is. -/
def padLeft (width : Nat) (text : Text) : Text :=
  List.replicate (width - text.length) ' ' ++ text

/-- The decimal digits of a number. -/
def decimal (n : Nat) : Text :=
  Nat.toDigits 10 n

theorem split_ne_nil (separates : Char → Bool) (text : Text) : split separates text ≠ [] := by
  cases text with
  | nil => simp [split]
  | cons c rest =>
    rw [split]
    split
    · simp
    · split <;> simp

/-- There is one piece more than separating characters. -/
theorem length_split (separates : Char → Bool) (text : Text) :
    (split separates text).length = text.countP separates + 1 := by
  induction text with
  | nil => rfl
  | cons c rest ih =>
    have hne := split_ne_nil separates rest
    rw [split, List.countP_cons]
    split
    · simp_all
    · split <;> simp_all

/-- A text has one line more than line feeds. -/
theorem length_lines (text : Text) :
    (lines text).length = text.countP CharClass.isLineFeed + 1 :=
  length_split _ text

/-- No piece holds a separating character. -/
theorem not_mem_of_mem_split {separates : Char → Bool} {text piece : Text}
    (h : piece ∈ split separates text) {c : Char} (hc : separates c = true) : c ∉ piece := by
  intro hmem
  induction text generalizing piece with
  | nil =>
    obtain rfl : piece = [] := by simpa [split] using h
    cases hmem
  | cons d rest ih =>
    rw [split] at h
    split at h
    · rcases List.mem_cons.1 h with rfl | h
      · cases hmem
      · exact ih h hmem
    · next hd =>
      have hne := split_ne_nil separates rest
      cases hs : split separates rest with
      | nil => exact absurd hs hne
      | cons first others =>
        simp only [hs] at h ih
        rcases List.mem_cons.1 h with rfl | h
        · rcases List.mem_cons.1 hmem with rfl | hmem
          · exact hd hc
          · exact ih List.mem_cons_self hmem
        · exact ih (List.mem_cons_of_mem _ h) hmem

end Text

end Lexing
