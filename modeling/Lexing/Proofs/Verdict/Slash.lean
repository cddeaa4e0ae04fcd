import Lexing.Proofs.Verdict
import Mathlib.Data.Nat.Find

set_option relaxedAutoImplicit false
set_option autoImplicit false

/-!
# Verdicts on slashes

What a slash begins is told by the character behind it and, for a block comment, by the first place
at which a closer stands. The star of the opener is no part of a closer, and an opener inside of a
comment opens nothing.

## Main definitions

* `Lexing.Slash.ClosesAt` — a closer stands at a place behind the opener.
* `Lexing.Slash.Verdict` — what a slash begins.

## Main results

* `Lexing.Slash.exists_verdict` — every text that begins with a slash has a verdict.
* `Lexing.Slash.Verdict.recognise_eq` — the verdict is what is recognised.
* `Lexing.Session.slash_exact` — every call at a slash comes to the one verdict on it.
-/

namespace Lexing

namespace Slash

/-- A closer stands at the place `i` of a text that begins with an opener. The opener takes up the
first two places. -/
def ClosesAt (text : Text) (i : Nat) : Prop :=
  2 ≤ i ∧ ['*', '/'] <+: text.drop i

/-- What a text begins with whose first character is a slash. -/
inductive Verdict (text : Text) : Reading → Prop where
  /-- A block comment goes up to and with the first closer. -/
  | blockComment {i : Nat} (star : text[1]? = some '*') (closes : ClosesAt text i)
      (first : ∀ j < i, ¬ ClosesAt text j) :
      Verdict text (.verbatim .blockComment (text.take (i + 2)))
  /-- Without a closer all text is used up. -/
  | unclosed (star : text[1]? = some '*') (unclosed : ∀ i, ¬ ClosesAt text i) :
      Verdict text (.fault .unterminatedBlockComment [] text)
  /-- A line comment is the longest leading part without a line feed. -/
  | lineComment {line left : Text} (slash : text[1]? = some '/') (split : text = line ++ left)
      (oneLine : ∀ c ∈ line, CharClass.isLineFeed c = false)
      (stops : ∀ c, left.head? = some c → CharClass.isLineFeed c = true) :
      Verdict text (.verbatim .lineComment line)
  /-- In front of any other character, or of none, a slash is an operator. -/
  | operator (star : text[1]? ≠ some '*') (slash : text[1]? ≠ some '/') :
      Verdict text (.verbatim .operator ['/'])

variable {rest body : Text} {reading : Reading} {i : Nat}

/-! ## Closers -/

/-- Places behind the opener are places in the body. -/
theorem closesAt_opener {k : Nat} :
    ClosesAt ('/' :: '*' :: body) (k + 2) ↔ ['*', '/'] <+: body.drop k := by
  simp [ClosesAt]

/-- A closer stands in a text if and only if it stands at one of its places. -/
theorem closer_infix_iff : ['*', '/'] <:+: body ↔ ∃ k, ['*', '/'] <+: body.drop k := by
  constructor
  · rintro ⟨front, left, rfl⟩
    exact ⟨front.length, left, by simp⟩
  · rintro ⟨k, closes⟩
    exact closes.isInfix.trans (body.drop_suffix k).isInfix

/-- At its first closer a body is cut into a part without a closer, the closer, and the rest. -/
theorem exists_cut (closes : ClosesAt ('/' :: '*' :: body) i)
    (first : ∀ j < i, ¬ ClosesAt ('/' :: '*' :: body) j) :
    ∃ inner left, body = inner ++ '*' :: '/' :: left ∧ i = inner.length + 2 ∧
      ¬ ['*', '/'] <:+: inner := by
  obtain ⟨k, rfl⟩ : ∃ k, i = k + 2 := ⟨i - 2, (Nat.sub_add_cancel closes.1).symm⟩
  obtain ⟨left, behind⟩ := closesAt_opener.1 closes
  have cut : body = body.take k ++ '*' :: '/' :: left := by
    rw [show '*' :: '/' :: left = body.drop k from behind, List.take_append_drop]
  have place : (body.take k).length = k := by
    have lengths := congrArg List.length behind
    simp only [List.length_append, List.length_cons, List.length_drop] at lengths
    exact List.length_take_of_le (by omega)
  refine ⟨body.take k, left, cut, congrArg (· + 2) place.symm, ?_⟩
  intro inside
  obtain ⟨j, early⟩ := closer_infix_iff.1 inside
  -- A closer within the first `k` characters of the body starts before the first closer does.
  have before : j < k := by
    have fits := early.length_le
    rw [List.length_drop, place] at fits
    simp only [List.length_cons] at fits
    omega
  refine first (j + 2) (by omega) (closesAt_opener.2 ?_)
  rw [List.drop_take] at early
  exact early.trans (List.take_prefix _ _)

/-! ## Verdicts -/

/-- What follows the slash is what the rest of the text begins with. -/
theorem second_eq_head? (c : Char) (rest : Text) : (c :: rest)[1]? = rest.head? := by
  rw [List.getElem?_cons_succ, List.head?_eq_getElem?]

/-- Every text that begins with a slash has a verdict.

**Proof sketch.** By the character behind the slash. If there is a closer behind a star, then there
is a first one (`Nat.find`). A line is cut at its end. -/
theorem exists_verdict (rest : Text) : ∃ reading, Verdict ('/' :: rest) reading := by
  by_cases star : rest.head? = some '*'
  · have opener : ('/' :: rest)[1]? = some '*' := (second_eq_head? '/' rest).trans star
    by_cases closes : ∃ i, ClosesAt ('/' :: rest) i
    · classical
      have first : ∀ j < Nat.find closes, ¬ ClosesAt ('/' :: rest) j :=
        fun _ early => Nat.find_min closes early
      exact ⟨_, .blockComment opener (Nat.find_spec closes) first⟩
    · exact ⟨_, .unclosed opener (not_exists.1 closes)⟩
  by_cases slash : rest.head? = some '/'
  · obtain ⟨body, rfl⟩ := List.head?_eq_some_iff.1 slash
    obtain ⟨line, left, rfl, inside, stops⟩ :=
      Text.exists_run (fun c => !CharClass.isLineFeed c) body
    have split : '/' :: '/' :: (line ++ left) = ('/' :: '/' :: line) ++ left := rfl
    refine ⟨_, .lineComment rfl split ?_ ?_⟩
    · intro c hc
      simp only [List.mem_cons] at hc
      rcases hc with rfl | rfl | hc
      · rfl
      · rfl
      · exact inside_line_iff.1 inside c hc
    · intro c hc
      simpa using stops c hc
  · rw [← second_eq_head? '/' rest] at star slash
    exact ⟨_, .operator star slash⟩

/-- The verdict on a text is what is recognised at its front.

**Proof sketch.** By cases on the verdict. Up to the first closer the text is cut into the opener,
what is inside, and the closer (`exists_cut`), and there is no closer inside. So the text is what
`read_blockComment` reads, or `read_unclosed`, `read_slash` and `read_other` in the other cases. -/
theorem Verdict.recognise_eq (verdict : Verdict ('/' :: rest) reading) :
    recognise .full '/' rest = reading := by
  rw [recognise_of_opens .slash ⟨rfl, rfl⟩]
  cases verdict with
  | @blockComment i star closes first =>
    rw [second_eq_head?, List.head?_eq_some_iff] at star
    obtain ⟨body, rfl⟩ := star
    obtain ⟨inner, left, rfl, rfl, unclosed⟩ := exists_cut closes first
    have taken : ('/' :: '*' :: (inner ++ '*' :: '/' :: left)).take (inner.length + 2 + 2) =
        '/' :: '*' :: (inner ++ ['*', '/']) := by
      simp [List.take_append, List.take_of_length_le]
    rw [taken]
    exact read_blockComment unclosed left
  | unclosed star unclosed =>
    rw [second_eq_head?, List.head?_eq_some_iff] at star
    obtain ⟨body, rfl⟩ := star
    refine read_unclosed fun inside => ?_
    obtain ⟨k, closes⟩ := closer_infix_iff.1 inside
    exact unclosed (k + 2) (closesAt_opener.2 closes)
  | @lineComment line left slash split oneLine stops =>
    rw [second_eq_head?, List.head?_eq_some_iff] at slash
    obtain ⟨body, rfl⟩ := slash
    have ends : Text.Stops (fun c => !CharClass.isLineFeed c) left := by
      intro c hc
      simp [stops c hc]
    have whole : '/' :: '/' :: body.takeWhile (fun c => !CharClass.isLineFeed c) = line := by
      rw [← Text.takeWhile_run (inside_line_iff.2 oneLine) ends, ← split]
      rfl
    exact (read_slash body).trans (congrArg (Reading.verbatim .lineComment) whole)
  | operator star slash =>
    rw [second_eq_head?] at star slash
    exact read_other star slash

end Slash

namespace Session

/-- **Slashes are resolved exactly.** Whatever calls have led to where a slash comes next, there is
exactly one verdict on the text that is left. All calls that recognise comments come to it: a block
comment up to the first closer behind its opener, or the missing closer with all text used up, a
line comment up to the end of its line, or the operator.

**Proof sketch.** A slash is visible, there is a verdict whatever stands behind it
(`exists_verdict`), and whatever has it is recognised. So `Reads.verdict_exact` applies. -/
theorem slash_exact (source : Text) (s : Session) (reached : (ofText source).Reaches s)
    (slash : s.cursor.rest.head? = some '/') :
    (∃! reading, Slash.Verdict s.cursor.rest reading) ∧
      ∀ reading, Slash.Verdict s.cursor.rest reading → s.Answers .full reading := by
  obtain ⟨rest, split⟩ := List.head?_eq_some_iff.1 slash
  have reads : s.Reads source := reached.reads (reads_ofText source)
  rw [split]
  exact reads.verdict_exact split (by decide) (Slash.exists_verdict rest) fun _ => (·.recognise_eq)

/-- Behind a word, the slash of an opener closes nothing, and the opener inside of the comment opens
nothing: the comment takes up five characters, and the equals sign is left. -/
theorem slash_exact_shared_star :
    (ofText ['a', '/', '*', '/', '*', '/', '=']).Reaches
        ⟨⟨['a'], ['/', '*', '/', '*', '/', '='], ⟨0, 1, 1, 1⟩⟩, none⟩ ∧
      Answers ⟨⟨['a'], ['/', '*', '/', '*', '/', '='], ⟨0, 1, 1, 1⟩⟩, none⟩ .full
        (.verbatim .blockComment ['/', '*', '/', '*', '/']) := by
  have call : (ofText ['a', '/', '*', '/', '*', '/', '=']).take .none .full =
      (.token ⟨.identifier, ['a'], ⟨0, 1, 0, 0⟩⟩,
        ⟨⟨['a'], ['/', '*', '/', '*', '/', '='], ⟨0, 1, 1, 1⟩⟩, none⟩) := by decide +kernel
  have reached : (ofText ['a', '/', '*', '/', '*', '/', '=']).Reaches
      ⟨⟨['a'], ['/', '*', '/', '*', '/', '='], ⟨0, 1, 1, 1⟩⟩, none⟩ := .single ⟨_, .take call⟩
  have closes : Slash.ClosesAt ['/', '*', '/', '*', '/', '='] 3 := ⟨by decide, by decide⟩
  refine ⟨reached, (slash_exact _ _ reached rfl).2 _ (.blockComment rfl closes ?_)⟩
  intro j early
  rintro ⟨behind, closer⟩
  obtain rfl : j = 2 := by omega
  revert closer
  decide

end Session

end Lexing
