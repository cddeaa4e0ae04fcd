import Lexing.Text.Lines
import Mathlib.Data.List.DropRight

set_option relaxedAutoImplicit false
set_option autoImplicit false

/-!
# Lines of longer texts

How the lines of a text change when it grows at its end: another character goes on with the last
line or begins a new one, and behind a line feed the lines of two texts stand one after the other.
So texts that are put together row by row are cut into these rows.

## Main definitions

* `Lexing.Text.lastLine` — what stands behind the last line feed of a text.

## Main results

* `Lexing.Text.lastLine_concat` — the last line of a text with one more character.
* `Lexing.Text.lines_append_lineFeed` — the lines of two texts with a line feed between them.
* `Lexing.Text.lines_joinLines` — rows that are put together are cut apart again.
* `Lexing.Text.exists_dropLastWhile` — what is cut off a line without a run at its end.
-/

namespace Lexing

namespace Text

/-- What stands behind the last line feed of a text; all of it where there is none. -/
def lastLine (text : Text) : Text :=
  text.rtakeWhile fun c => !CharClass.isLineFeed c

/-- One more character begins a new line if it is a line feed, and else goes on with the last
one. -/
theorem lastLine_concat (text : Text) (c : Char) :
    lastLine (text ++ [c]) = if CharClass.isLineFeed c then [] else lastLine text ++ [c] := by
  rw [lastLine, List.rtakeWhile_concat, lastLine]
  cases CharClass.isLineFeed c <;> rfl

/-- Behind a line feed the lines of two texts stand one after the other. -/
theorem lines_append_lineFeed (u v : Text) : lines (u ++ '\n' :: v) = lines u ++ lines v := by
  unfold lines
  induction u with
  | nil => rfl
  | cons c u ih =>
    rw [List.cons_append, split, split, ih]
    cases hu : split CharClass.isLineFeed u with
    | nil => exact absurd hu (split_ne_nil _ u)
    | cons first others => cases CharClass.isLineFeed c <;> rfl

/-- A text without a line feed is one line. -/
theorem lines_of_not_mem {text : Text} (oneLine : '\n' ∉ text) : lines text = [text] := by
  unfold lines
  induction text with
  | nil => rfl
  | cons c text ih =>
    rw [List.mem_cons, not_or] at oneLine
    have inner : CharClass.isLineFeed c = false := by
      simp [CharClass.isLineFeed, Ne.symm oneLine.1]
    rw [split, ih oneLine.2, inner]
    rfl

/-- Between two rows that are put together there is a line feed. -/
theorem joinLines_cons_cons (row next : Text) (others : List Text) :
    joinLines (row :: next :: others) = row ++ '\n' :: joinLines (next :: others) := by
  simp [joinLines]

/-- Rows that are put together are cut apart again, if there are any and none of them has a line
feed.

**Proof sketch.** Induction on the rows: the first one is a line by itself, and behind the line
feed there are the lines of the others (`lines_append_lineFeed`). -/
theorem lines_joinLines {rows : List Text} (nonempty : rows ≠ [])
    (oneLine : ∀ row ∈ rows, '\n' ∉ row) : lines (joinLines rows) = rows := by
  induction rows with
  | nil => exact absurd rfl nonempty
  | cons row others ih =>
    obtain ⟨first, later⟩ := List.forall_mem_cons.1 oneLine
    cases others with
    | nil =>
      rw [joinLines, List.intercalate_singleton]
      exact lines_of_not_mem first
    | cons next others =>
      rw [joinLines_cons_cons, lines_append_lineFeed, lines_of_not_mem first, ih (by simp) later]
      rfl

/-- Rows that are put together end with the last of them. -/
theorem suffix_joinLines (rows : List Text) (last : Text) :
    last <:+ joinLines (rows ++ [last]) := by
  induction rows with
  | nil => simp [joinLines]
  | cons row others ih =>
    obtain ⟨next, later, rows⟩ := List.exists_cons_of_ne_nil
      (show others ++ [last] ≠ [] by simp)
    rw [List.cons_append, rows, joinLines_cons_cons, ← rows]
    exact ih.trans ((List.suffix_cons '\n' _).trans (List.suffix_append row _))

/-- A text is cut into what is left without a run of a class at its end, and this run. No member
stands at the end of what is left. -/
theorem exists_dropLastWhile (member : Char → Bool) (line : Text) :
    ∃ run, line = dropLastWhile member line ++ run ∧ (∀ c ∈ run, member c = true) ∧
      ∀ c, (dropLastWhile member line).getLast? = some c → member c = false := by
  refine ⟨(line.reverse.takeWhile member).reverse, ?_, ?_, ?_⟩
  · rw [dropLastWhile, ← List.reverse_append, List.takeWhile_append_dropWhile, List.reverse_reverse]
  · intro c inside
    exact List.mem_takeWhile_imp (List.mem_reverse.1 inside)
  · intro c last
    rw [dropLastWhile, List.getLast?_reverse] at last
    have stays := List.head?_dropWhile_not member line.reverse
    rw [last] at stays
    exact stays

end Text

end Lexing
