import Lexing.Excerpt
import Lexing.Proofs.Text.Decimal
import Lexing.Proofs.Text.Line

set_option relaxedAutoImplicit false
set_option autoImplicit false

/-!
# The layout of excerpts

Whatever the line and the column are, an excerpt is a small table: up to three source lines, the
line of the place last, and a row with a caret under them. The columns of the table are aligned,
because no line number that is shown has more digits than the last one. No row has a line feed, so
the rows are what the excerpt is cut into at its line feeds.

## Main definitions

* `Lexing.Excerpt.IsRow` — a row with its label flush right in front of the separator.
* `Lexing.Excerpt.ShowsLine` — a row shows a source line, but for carriage returns at its end.
* `Lexing.Excerpt.IsPadding` — blank text under the characters before a column.
* `Lexing.Excerpt.IsLaidOut` — the layout of an excerpt.

## Main results

* `Lexing.Excerpt.isRow_row` — a label that fits is flush right.
* `Lexing.Excerpt.getElem?_rows` — which lines are shown, and their numbers.
* `Lexing.Excerpt.lines_render` — the rows are the lines of the excerpt.
* `Lexing.Excerpt.isLaidOut_render` — every excerpt is laid out.
-/

namespace Lexing

namespace Excerpt

/-! ## Layout -/

/-- A row: in front of the separator a label, flush right in a column of the given width that is
blank but for the label, and behind the separator a content. -/
def IsRow (width : Nat) (label content row : Text) : Prop :=
  ∃ blank, blank + label.length = width ∧
    row = List.replicate blank ' ' ++ label ++ " | ".toList ++ content

/-- A row shows a source line by its index: it is numbered from one, and the line is complete but
for the carriage returns at its end. -/
def ShowsLine (source : Text) (width index : Nat) (row : Text) : Prop :=
  ∃ content carriage, (Text.lines source)[index]? = some (content ++ carriage) ∧
    (∀ c ∈ carriage, c = '\r') ∧ content.getLast? ≠ some '\r' ∧
    IsRow width (Text.decimal (index + 1)) content row

/-- Blank text under the characters of a line before a column, or under all of them where the line
is shorter: a tab under each tab, and a space under any other character. -/
def IsPadding (pointedAt : Text) (column : Nat) (padding : Text) : Prop :=
  padding.length = min column pointedAt.length ∧
    ∀ i c, pointedAt[i]? = some c → i < padding.length →
      padding[i]? = some (if c = '\t' then '\t' else ' ')

/-- The layout of an excerpt: the numbered rows and the row with the caret, where `last` is the
index of the source line `pointedAt`. The column of line numbers is as wide as the number of this
line. -/
structure IsLaidOut (source : Text) (last : Nat) (pointedAt : Text) (column : Nat)
    (numbered : List Text) (caret : Text) : Prop where
  /-- Up to three source lines are shown. -/
  length : numbered.length = min 3 (last + 1)
  /-- They follow one another, and the line pointed at is the last of them. -/
  shows : ∀ i row, numbered[i]? = some row → ∃ index, index + numbered.length = last + 1 + i ∧
    ShowsLine source (Text.decimal (last + 1)).length index row
  /-- The row with the caret has no number, and the caret stands behind the padding. -/
  points : ∃ padding, IsPadding pointedAt column padding ∧
    IsRow (Text.decimal (last + 1)).length [] (padding ++ ['^']) caret
  /-- There is one caret, so it is the one behind the padding. -/
  single : caret.count '^' = 1

variable {source line content row label : Text} {index column width : Nat}

/-! ## Rows -/

/-- A label that fits into its column is flush right in it. -/
theorem isRow_row (fits : label.length ≤ width) (content : Text) :
    IsRow width label content (Excerpt.row width label content) :=
  ⟨width - label.length, by omega, rfl⟩

/-- The index of the line that is shown last is that of a source line. -/
theorem lastShown_lt (source : Text) (index : Nat) :
    lastShown source index < (Text.lines source).length := by
  have nonempty := Text.length_lines source
  unfold lastShown
  omega

/-- The numbered rows are up to three. -/
theorem length_rows (source : Text) (index : Nat) :
    (rows source index).length = min 3 (lastShown source index + 1) := by
  have inside := lastShown_lt source index
  simp only [rows, maxRows, List.length_map, List.length_zipIdx, List.length_drop, List.length_take]
  omega

/-- Which source line a row shows, and its number. The last row is for the line pointed at.

**Proof sketch.** The rows number the lines from at most two before the line pointed at up to it,
so that a row at a place shows the line as many places further. -/
theorem getElem?_rows {i : Nat} (given : (rows source index)[i]? = some row) :
    ∃ k line, k + (rows source index).length = lastShown source index + 1 + i ∧
      (Text.lines source)[k]? = some line ∧
      row = Excerpt.row (gutterWidth source index) (Text.decimal (k + 1)) (shown line) := by
  have inside : i < (rows source index).length := (List.getElem?_eq_some_iff.1 given).1
  rw [length_rows] at inside ⊢
  simp only [rows, maxRows, List.getElem?_map, List.getElem?_zipIdx, List.getElem?_drop,
    Option.map_map, Option.map_eq_some_iff] at given
  obtain ⟨line, found, rfl⟩ := given
  rw [List.getElem?_take_of_lt (by omega)] at found
  refine ⟨lastShown source index - 2 + i, line, by omega, found, ?_⟩
  show Excerpt.row _ (Text.decimal (lastShown source index - 2 + 1 + i)) (shown line) = _
  rw [Nat.add_right_comm]

/-- The label of a row fits into its column, since numbers do not get shorter downward. -/
theorem length_decimal_le_gutterWidth {k : Nat} (upTo : k ≤ lastShown source index) :
    (Text.decimal (k + 1)).length ≤ gutterWidth source index :=
  Text.length_decimal_mono (by omega)

/-- A source line as it is shown is complete but for the carriage returns at its end. -/
theorem showsLine_row (found : (Text.lines source)[index]? = some line)
    (fits : (Text.decimal (index + 1)).length ≤ width) :
    ShowsLine source width index
      (Excerpt.row width (Text.decimal (index + 1)) (shown line)) := by
  obtain ⟨carriage, cut, inside, ends⟩ := Text.exists_dropLastWhile (· == '\r') line
  refine ⟨shown line, carriage, ?_, ?_, ?_, isRow_row fits (shown line)⟩
  · rw [found]
    exact congrArg some cut
  · intro c given
    simpa using inside c given
  · intro last
    simpa using ends '\r' last

/-! ## The caret -/

/-- The padding goes up to the column, or to the end of the line. -/
theorem isPadding_caretPadding (line : Text) (column : Nat) :
    IsPadding line column (caretPadding line column) := by
  refine ⟨by simp [caretPadding], ?_⟩
  intro i c found inside
  have before : i < column := by
    simp only [caretPadding, List.length_map, List.length_take] at inside
    omega
  simp [caretPadding, before, found]

/-- Padding is made of tabs and spaces. -/
theorem mem_caretPadding {c : Char} (inside : c ∈ caretPadding line column) :
    c = '\t' ∨ c = ' ' := by
  obtain ⟨d, -, rfl⟩ := List.mem_map.1 inside
  by_cases tab : d = '\t' <;> simp [tab]

/-- The caret is the only one of its row. -/
theorem count_caret (width : Nat) (line : Text) (column : Nat) :
    (Excerpt.row width [] (caretPadding line column ++ ['^'])).count '^' = 1 := by
  have padding : (caretPadding line column).count '^' = 0 := by
    rw [List.count_eq_zero]
    intro inside
    rcases mem_caretPadding inside with same | same <;> cases same
  simp [Excerpt.row, Text.padLeft, separator, padding, List.count_replicate]

/-! ## The lines of an excerpt -/

/-- No row has a line feed if its label and its content have none. -/
theorem lineFeed_not_mem_row (first : '\n' ∉ label) (second : '\n' ∉ content) :
    '\n' ∉ Excerpt.row width label content := by
  simp [Excerpt.row, Text.padLeft, separator, first, second]

/-- What is shown of a source line has no line feed. -/
theorem lineFeed_not_mem_shown (inside : line ∈ Text.lines source) : '\n' ∉ shown line := by
  obtain ⟨carriage, cut, -⟩ := Text.exists_dropLastWhile (· == '\r') line
  intro feed
  refine Text.not_mem_of_mem_split inside (show CharClass.isLineFeed '\n' = true from rfl) ?_
  rw [cut]
  exact List.mem_append_left _ feed

/-- **The rows are the lines of the excerpt.**

**Proof sketch.** Joining rows by line feeds and cutting at them again gives the rows, if no row
holds a line feed (`lines_joinLines`). A numbered row holds a line of the source and the digits of
a number, the last row nothing but blanks, tabs and the caret. -/
theorem lines_render (source : Text) (index column : Nat) :
    Text.lines (render source index column) =
      rows source index ++ [caretRow source index column] := by
  apply Text.lines_joinLines (by simp)
  intro row given
  rcases List.mem_append.1 given with numbered | caret
  · obtain ⟨i, found⟩ := List.mem_iff_getElem?.1 numbered
    obtain ⟨k, line, -, inside, rfl⟩ := getElem?_rows found
    exact lineFeed_not_mem_row (Text.not_mem_decimal rfl (k + 1))
      (lineFeed_not_mem_shown (List.mem_of_getElem? inside))
  · rw [List.mem_singleton.1 caret]
    apply lineFeed_not_mem_row (by simp)
    intro feed
    rcases List.mem_append.1 feed with padding | caret
    · rcases mem_caretPadding padding with same | same <;> cases same
    · cases List.mem_singleton.1 caret

/-- An excerpt ends with its caret. -/
theorem getLast?_render (source : Text) (index column : Nat) :
    (render source index column).getLast? = some '^' := by
  obtain ⟨front, joined⟩ := Text.suffix_joinLines (rows source index) (caretRow source index column)
  rw [render, ← joined]
  simp [caretRow, Excerpt.row]

/-- **Every excerpt is laid out**, whatever the source, the line and the column are. It is cut at
its line feeds into numbered rows and the row with the caret, and does not end with a line feed.
Where the source has no such line, the last line of the source is pointed at.

**Proof sketch.** The line that is pointed at exists, for its index is at most that of the last one
(`lastShown_lt`). The rows are those of `lines_render`. `getElem?_rows` tells which line each of
them shows, and `length_decimal_le_gutterWidth` that its number fits into the gutter. -/
theorem isLaidOut_render (source : Text) (line column : Nat) :
    ∃ last pointedAt numbered caret,
      last = min line ((Text.lines source).length - 1) ∧
      (Text.lines source)[last]? = some pointedAt ∧
      Text.lines (render source line column) = numbered ++ [caret] ∧
      (render source line column).getLast? = some '^' ∧
      IsLaidOut source last pointedAt column numbered caret := by
  have last := lastShown_lt source line
  have pointedAt : ((Text.lines source)[lastShown source line]?).getD [] =
      (Text.lines source)[lastShown source line] := by
    rw [List.getElem?_eq_getElem last, Option.getD_some]
  refine ⟨lastShown source line, (Text.lines source)[lastShown source line], rows source line,
    caretRow source line column, rfl, List.getElem?_eq_getElem last,
    lines_render source line column, getLast?_render source line column,
    length_rows source line, ?_, ?_, count_caret _ _ column⟩
  · intro i row given
    obtain ⟨k, content, counts, found, rfl⟩ := getElem?_rows given
    have inside : i < (rows source line).length := (List.getElem?_eq_some_iff.1 given).1
    exact ⟨k, counts, showsLine_row found (length_decimal_le_gutterWidth (by omega))⟩
  · refine ⟨caretPadding (Text.lines source)[lastShown source line] column,
      isPadding_caretPadding _ column, ?_⟩
    rw [caretRow, pointedAt]
    exact isRow_row (Nat.zero_le _) _

/-- Where the numbers get longer, the shorter ones are moved to the right. -/
example : render "a\nb\nc\nd\ne\nf\ng\nh\n\ti\r\n\tj".toList 9 1 =
    " 8 | h\n 9 | \ti\n10 | \tj\n   | \t^".toList := by decide +kernel

end Excerpt

end Lexing
