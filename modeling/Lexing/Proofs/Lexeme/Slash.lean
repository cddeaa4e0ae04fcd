import Lexing.Proofs.Lexeme.Plain

set_option relaxedAutoImplicit false
set_option autoImplicit false

/-!
# Slashes conform to the grammar

What a slash begins conforms to the grammar, faults included, and every comment of the grammar
is found.

## Main results

* `Lexing.Slash.throughCloser?_spec` — the first closer is the one before which none stands.
* `Lexing.Slash.conforms_read` — what is found conforms.
* `Lexing.Slash.read_blockComment`, `Lexing.Slash.read_lineComment`, `Lexing.Slash.read_mark` —
  what is in the grammar is found.
* `Lexing.Slash.read_unclosed` — the fault of the grammar is found.
-/

namespace Lexing

namespace Slash

open Grammar

variable {c : Char} {body rest left : Text}

/-! ## Closers -/

/-- A closer stands in a text if it stands at its front or in what follows. -/
theorem closer_infix_cons :
    ['*', '/'] <:+: c :: rest ↔ (c = '*' ∧ rest.head? = some '/') ∨ ['*', '/'] <:+: rest := by
  rw [List.infix_cons_iff, List.cons_prefix_cons, List.head?_eq_some_iff]
  constructor
  · rintro (⟨hc, tail, rfl⟩ | h)
    · exact .inl ⟨hc.symm, tail, rfl⟩
    · exact .inr h
  · rintro (⟨hc, tail, rfl⟩ | h)
    · exact .inl ⟨hc.symm, tail, rfl⟩
    · exact .inr h

/-- A body without a closer has none at its end together with the star of a closer. -/
theorem not_closer_front (unclosed : ¬ ['*', '/'] <:+: c :: body) :
    ¬ (c == '*' && (body ++ '*' :: '/' :: left).head? == some '/') = true := by
  rw [closer_infix_cons, not_or] at unclosed
  intro h
  simp only [Bool.and_eq_true, beq_iff_eq] at h
  cases body with
  | nil => simp at h
  | cons d others => exact unclosed.1 ⟨h.1, by simpa using h.2⟩

/-- A body without a closer and a closer are found together. -/
theorem throughCloser?_append (unclosed : ¬ ['*', '/'] <:+: body) (left : Text) :
    throughCloser? (body ++ '*' :: '/' :: left) = some (body ++ ['*', '/']) := by
  induction body with
  | nil => simp [throughCloser?]
  | cons c body ih =>
    rw [List.cons_append, throughCloser?, if_neg (not_closer_front unclosed),
      ih (fun h => unclosed (closer_infix_cons.2 (.inr h)))]
    rfl

/-- Where a closer is found, none stands before it; where none is found, none stands at all.

**Proof sketch.** Induction along the search. A closer stands in a text if it stands at its front
or behind its first character (`closer_infix_cons`). The search asks for the one and goes on with
the other. -/
theorem throughCloser?_spec (input : Text) :
    match throughCloser? input with
    | some raw => ∃ body left, ¬ ['*', '/'] <:+: body ∧ raw = body ++ ['*', '/'] ∧
        input = body ++ '*' :: '/' :: left
    | none => ¬ ['*', '/'] <:+: input := by
  fun_induction throughCloser? input with
  | case1 => simp
  | case2 c rest hc =>
    simp only [Bool.and_eq_true, beq_iff_eq, List.head?_eq_some_iff] at hc
    obtain ⟨rfl, left, rfl⟩ := hc
    exact ⟨[], left, by simp, rfl, rfl⟩
  | case3 c rest hc ih =>
    have front : ¬ (c = '*' ∧ rest.head? = some '/') := by simpa using hc
    cases hfound : throughCloser? rest with
    | none =>
      rw [hfound] at ih
      rw [Option.map_none, closer_infix_cons]
      exact not_or.2 ⟨front, ih⟩
    | some raw =>
      rw [hfound] at ih
      obtain ⟨body, left, unclosed, rfl, rfl⟩ := ih
      refine ⟨c :: body, left, ?_, rfl, rfl⟩
      rw [closer_infix_cons]
      refine not_or.2 ⟨?_, unclosed⟩
      rintro ⟨star, head⟩
      refine front ⟨star, ?_⟩
      obtain ⟨tail, rfl⟩ := List.head?_eq_some_iff.1 head
      rfl

/-! ## Slashes -/

/-- A text after the opener of a block comment is read up to the first closer. -/
theorem read_star (body : Text) :
    read ('/' :: '*' :: body) =
      match throughCloser? body with
      | some raw => .verbatim .blockComment ('/' :: '*' :: raw)
      | none => .fault .unterminatedBlockComment [] ('/' :: '*' :: body) := by
  rw [read, Reader.enter_of_admits _ _ _ (by decide)]
  cases hfound : throughCloser? body <;> simp only [hfound]

/-- A line comment is read up to the end of its line. -/
theorem read_slash (body : Text) :
    read ('/' :: '/' :: body) =
      .verbatim .lineComment ('/' :: '/' :: body.takeWhile fun c => !CharClass.isLineFeed c) := by
  rw [read, Reader.enter_of_admits _ _ _ (by decide)]
  rfl

/-- A slash in front of any other text is an operator. -/
theorem read_other (star : rest.head? ≠ some '*') (slash : rest.head? ≠ some '/') :
    read ('/' :: rest) = .verbatim .operator ['/'] := by
  rw [read, Reader.enter_of_admits _ _ _ (by decide)]
  split
  · exact absurd rfl star
  · exact absurd rfl slash
  · rfl

/-- The characters of a line are those that are no line feed. -/
theorem inside_line_iff :
    (∀ d ∈ body, (!CharClass.isLineFeed d) = true) ↔
      ∀ d ∈ body, CharClass.isLineFeed d = false := by
  simp

/-- What a slash begins conforms.

**Proof sketch.** By the character behind the slash. Behind a star `throughCloser?_spec` cuts the
text at its first closer or tells that there is none. Behind another slash the text is cut where
the line ends. Any other character leaves the slash a mark, for it makes up neither opener. -/
theorem conforms_read (rest : Text) : (read ('/' :: rest)).Conforms .full ('/' :: rest) := by
  by_cases star : rest.head? = some '*'
  · obtain ⟨body, rfl⟩ := List.head?_eq_some_iff.1 star
    have found := throughCloser?_spec body
    rw [read_star]
    cases hfound : throughCloser? body with
    | none =>
      rw [hfound] at found
      exact ⟨rfl, [], by simp, .unterminatedBlockComment found⟩
    | some raw =>
      rw [hfound] at found
      obtain ⟨inner, left, unclosed, rfl, rfl⟩ := found
      exact ⟨.blockComment unclosed, left, by simp, fun _ _ => rfl⟩
  by_cases slash : rest.head? = some '/'
  · obtain ⟨body, rfl⟩ := List.head?_eq_some_iff.1 slash
    obtain ⟨line, left, rfl, inside, stops⟩ :=
      Text.exists_run (fun c => !CharClass.isLineFeed c) body
    rw [read_slash, Text.takeWhile_run inside stops]
    refine ⟨.lineComment (inside_line_iff.1 inside), left, rfl, ?_⟩
    intro c hc
    simpa [allows] using stops c hc
  · rw [read_other star slash]
    refine ⟨.mark (by decide), rest, rfl, ?_⟩
    intro c hc
    rw [hc] at star slash
    rw [Plain.allows_mark_iff]
    simpa [composing] using And.intro slash star

/-- A block comment is found, whatever follows it. -/
theorem read_blockComment (unclosed : ¬ ['*', '/'] <:+: body) (left : Text) :
    read ('/' :: '*' :: (body ++ '*' :: '/' :: left)) =
      .verbatim .blockComment ('/' :: '*' :: (body ++ ['*', '/'])) := by
  rw [read_star, throughCloser?_append unclosed]

/-- A block comment without a closer is found to have none. -/
theorem read_unclosed (unclosed : ¬ ['*', '/'] <:+: body) :
    read ('/' :: '*' :: body) = .fault .unterminatedBlockComment [] ('/' :: '*' :: body) := by
  have found := throughCloser?_spec body
  rw [read_star]
  cases hfound : throughCloser? body with
  | none => rfl
  | some raw =>
    rw [hfound] at found
    obtain ⟨inner, left, -, -, rfl⟩ := found
    exact absurd ⟨inner, left, by simp⟩ unclosed

/-- A line comment is found where a line feed or nothing follows it. -/
theorem read_lineComment (oneLine : ∀ d ∈ body, CharClass.isLineFeed d = false)
    (follows : MayPrecede .full .lineComment ('/' :: '/' :: body) left) :
    read ('/' :: '/' :: (body ++ left)) = .verbatim .lineComment ('/' :: '/' :: body) := by
  have stops : Text.Stops (fun c => !CharClass.isLineFeed c) left :=
    follows.stops fun d hd => by simpa [allows] using hd
  rw [read_slash, Text.takeWhile_run (inside_line_iff.2 oneLine) stops]

/-- A slash of its own is found where it opens no comment. -/
theorem read_mark (follows : MayPrecede .full .operator ['/'] left) :
    read ('/' :: left) = .verbatim .operator ['/'] := by
  have alone : ∀ d, left.head? = some d → ¬ (d = '/' ∨ d = '*') := by
    intro d hd
    have special := (Plain.allows_mark_iff.1 (follows d hd)).2 rfl
    exact fun h => special.2 ⟨rfl, h⟩
  exact read_other (fun h => alone '*' h (.inr rfl)) (fun h => alone '/' h (.inl rfl))

end Slash

end Lexing
