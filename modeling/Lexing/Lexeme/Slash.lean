import Lexing.Lexeme.Reading

set_option relaxedAutoImplicit false
set_option autoImplicit false

/-!
# Slashes

What a slash begins: a block comment, a comment to the end of the line, or nothing but an
operator. A block comment ends at the first `*/` after its opener; comments do not nest.

## Main definitions

* `Lexing.Slash.throughCloser?` — a text up to and with the first `*/`.
* `Lexing.Slash.read` — a comment or the operator.

## Main results

* `Lexing.Slash.fits_read` — each reading fits its text.
-/

namespace Lexing

namespace Slash

/-- A text up to and with the first `*/` in it, if there is one. -/
def throughCloser? : Text → Option Text
  | [] => none
  | c :: rest =>
    if c == '*' && rest.head? == some '/' then some ['*', '/']
    else (throughCloser? rest).map (c :: ·)

/-- A comment or an operator. The star of an opener closes nothing. A block comment without an
end is a fault at its opener, and all text is used up. A line comment ends before the line
feed. -/
def read (input : Text) : Reading :=
  Reader.slash.enter (· == '/') input fun slash rest =>
    match rest with
    | '*' :: body =>
      match throughCloser? body with
      | some raw => .verbatim .blockComment (slash :: '*' :: raw)
      | none => .fault .unterminatedBlockComment [] input
    | '/' :: _ => .verbatim .lineComment (input.takeWhile fun c => !CharClass.isLineFeed c)
    | _ => .verbatim .operator [slash]

/-- A comment body is a leading part of the text it is looked for in. -/
theorem throughCloser?_prefix {input raw : Text} (h : throughCloser? input = some raw) :
    raw <+: input := by
  fun_induction throughCloser? input generalizing raw with
  | case1 => cases h
  | case2 c rest hc =>
    simp only [Bool.and_eq_true, beq_iff_eq] at hc
    obtain ⟨rfl, hhead⟩ := hc
    cases rest with
    | nil => cases hhead
    | cons d others =>
      obtain rfl : d = '/' := by simpa using hhead
      obtain rfl : ['*', '/'] = raw := by simpa using h
      exact ⟨others, rfl⟩
  | case3 c rest hc ih =>
    obtain ⟨more, hmore, rfl⟩ := Option.map_eq_some_iff.1 h
    simpa [List.cons_prefix_cons] using ih hmore

/-- What a slash begins fits the text at whose front it is read. -/
theorem fits_read (input : Text) : (read input).Fits input := by
  refine Reader.enter_induction (Reading.fits_defect input) fun c rest hi hc => ?_
  obtain rfl : c = '/' := by simpa using hc
  split
  · next body =>
    split
    · next raw hraw =>
      refine ⟨?_, fun _ => List.cons_ne_nil _ _⟩
      simpa [Reading.verbatim, Reading.consumed, hi, List.cons_prefix_cons] using
        throughCloser?_prefix hraw
    · exact Reading.fits_of_append [] (by simp [Reading.consumed])
        (by simp [Reading.consumed, hi])
  · refine Reading.fits_of_append _ List.takeWhile_append_dropWhile.symm ?_
    simp [hi, Reading.verbatim, Reading.consumed, CharClass.isLineFeed]
  · exact Reading.fits_of_append _ hi (List.cons_ne_nil _ _)

end Slash

end Lexing
