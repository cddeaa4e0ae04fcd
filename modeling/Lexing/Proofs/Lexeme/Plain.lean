import Lexing.Proofs.Routing
import Mathlib.Tactic.Tauto

set_option relaxedAutoImplicit false
set_option autoImplicit false

/-!
# Plain lexemes conform to the grammar

Runs of blanks, line feeds, words, foreign characters and operators: what their readers find
conforms to the grammar, and every such lexeme of the grammar is found by its reader.

## Main results

* `Lexing.Plain.conforms_readBlanks`, `Lexing.Plain.conforms_readLineFeed`,
  `Lexing.Plain.conforms_readWord`, `Lexing.Plain.conforms_readForeign`,
  `Lexing.Plain.conforms_readOperator` — what is found conforms.
* `Lexing.Plain.readBlanks_append`, `Lexing.Plain.readWord_append`,
  `Lexing.Plain.readComposite_append`, `Lexing.Plain.readMark_append` — what is in the grammar
  is found.
-/

namespace Lexing

namespace Plain

open Grammar

variable {mode : Mode} {c : Char} {rest left : Text}

/-! ## Runs -/

/-- A run of blanks conforms. -/
theorem conforms_readBlanks (h : CharClass.isBlank c = true) :
    (readBlanks (c :: rest)).Conforms mode (c :: rest) := by
  obtain ⟨run, left, rfl, inside, stops⟩ := Text.exists_run CharClass.isBlank rest
  rw [readBlanks, readRun_cons _ _ _ h h, Text.takeWhile_run inside stops]
  refine ⟨.space (List.cons_ne_nil c run) ?_, left, rfl, ?_⟩
  · simpa [h] using inside
  · intro d hd
    simp [allows, stops d hd]

/-- A run of blanks is found where no blank follows it. -/
theorem readBlanks_append {raw : Text} (nonempty : raw ≠ [])
    (blanks : ∀ d ∈ raw, CharClass.isBlank d = true)
    (follows : MayPrecede mode .space raw left) :
    readBlanks (raw ++ left) = .verbatim .space raw := by
  have stops : Text.Stops CharClass.isBlank left :=
    follows.stops fun d hd => by simpa [allows] using hd
  obtain ⟨c, run, rfl⟩ := List.exists_cons_of_ne_nil nonempty
  have first := blanks c (List.mem_cons_self ..)
  rw [readBlanks, List.cons_append, readRun_cons _ _ _ first first,
    Text.takeWhile_run (fun d hd => blanks d (List.mem_cons_of_mem c hd)) stops]

/-- A word conforms. -/
theorem conforms_readWord (h : opensWord mode c = true) :
    (readWord mode (c :: rest)).Conforms mode (c :: rest) := by
  obtain ⟨run, left, rfl, inside, stops⟩ := Text.exists_run CharClass.isWordPart rest
  rw [readWord, readRun_cons _ _ _ h (isWordPart_of_opensWord h), Text.takeWhile_run inside stops]
  refine ⟨.identifier h inside, left, rfl, ?_⟩
  intro d hd
  simp [allows, stops d hd]

/-- A word is found where no part of a word follows it. -/
theorem readWord_append {parts : Text} (opens : opensWord mode c = true)
    (continues : ∀ d ∈ parts, CharClass.isWordPart d = true)
    (follows : MayPrecede mode .identifier (c :: parts) left) :
    readWord mode (c :: (parts ++ left)) = .verbatim .identifier (c :: parts) := by
  have stops : Text.Stops CharClass.isWordPart left :=
    follows.stops fun d hd => by simpa [allows] using hd
  rw [readWord, readRun_cons _ _ _ opens (isWordPart_of_opensWord opens),
    Text.takeWhile_run continues stops]

/-! ## Single characters -/

/-- A line feed conforms. -/
theorem conforms_readLineFeed (h : CharClass.isLineFeed c = true) :
    (readLineFeed (c :: rest)).Conforms mode (c :: rest) := by
  obtain rfl : c = '\n' := by simpa [CharClass.isLineFeed] using h
  rw [readLineFeed, readSingle_cons _ _ _ h]
  exact ⟨.endOfLine, rest, rfl, fun _ _ => rfl⟩

/-- A foreign character conforms. -/
theorem conforms_readForeign (h : CharClass.isForeign c = true) :
    (readForeign (c :: rest)).Conforms mode (c :: rest) := by
  rw [readForeign, readSingle_cons _ _ _ h]
  exact ⟨.unexpected h, rest, rfl, fun _ _ => rfl⟩

/-! ## Operators -/

/-- The operators of two characters are the composing marks with an equals sign. -/
theorem composites_contains_iff {d : Char} :
    composites.contains (c, d) = true ↔ c ∈ composing ∧ d = '=' := by
  simp [composites, composing, or_and_right]

/-- What may follow a mark: nothing that makes a longer operator, a number or a comment of it. -/
theorem allows_mark_iff {d : Char} :
    allows mode .operator [c] d = true ↔
      ¬ (c ∈ composing ∧ d = '=') ∧
        (mode = .full → ¬ (c = '-' ∧ d.isDigit = true) ∧ ¬ (c = '/' ∧ (d = '/' ∨ d = '*'))) := by
  cases mode <;> simp [allows, allowsAfterOperator, composing] <;> tauto

/-- The reader of operators may be entered on every mark. -/
theorem not_isWhiteSpace_of_isMark (h : isMark mode c = true) :
    (!CharClass.isWhiteSpace c) = true := by
  simp only [isMark, Bool.and_eq_true] at h
  obtain ⟨low, high, -⟩ := Reader.isPunctuation_iff.1 h.1
  rw [CharClass.isWhiteSpace_eq_false_of_graphic low high]
  rfl

/-- A mark at the end of the text is an operator. -/
theorem readOperator_singleton (h : isMark mode c = true) :
    readOperator [c] = .verbatim .operator [c] := by
  rw [readOperator, Reader.enter_of_admits _ _ _ (not_isWhiteSpace_of_isMark h)]

/-- A mark makes up an operator with the next character, or is one of its own. -/
theorem readOperator_cons_cons {d : Char} (h : isMark mode c = true) :
    readOperator (c :: d :: rest) =
      .verbatim .operator (if composites.contains (c, d) then [c, d] else [c]) := by
  rw [readOperator, Reader.enter_of_admits _ _ _ (not_isWhiteSpace_of_isMark h)]

/-- An operator conforms, if its mark opens nothing longer. -/
theorem conforms_readOperator (h : isMark mode c = true)
    (special : mode = .full →
      c ≠ '/' ∧ (c = '-' → ∀ d, rest.head? = some d → d.isDigit = false)) :
    (readOperator (c :: rest)).Conforms mode (c :: rest) := by
  cases rest with
  | nil =>
    rw [readOperator_singleton h]
    exact ⟨.mark h, [], rfl, mayPrecede_nil⟩
  | cons d others =>
    rw [readOperator_cons_cons h]
    by_cases hc : composites.contains (c, d) = true
    · rw [if_pos hc]
      obtain ⟨composes, rfl⟩ := composites_contains_iff.1 hc
      refine ⟨.composite composes, others, rfl, ?_⟩
      intro e _
      simp [allows, allowsAfterOperator]
    · rw [if_neg hc]
      refine ⟨.mark h, d :: others, rfl, ?_⟩
      rw [mayPrecede_cons, allows_mark_iff, ← composites_contains_iff]
      refine ⟨hc, fun full => ⟨?_, ?_⟩⟩
      · rintro ⟨minus, digit⟩
        rw [(special full).2 minus d rfl] at digit
        cases digit
      · rintro ⟨slash, -⟩
        exact (special full).1 slash

/-- A mark that composes is a mark in every mode. -/
theorem isMark_of_mem_composing (mode : Mode) (composes : c ∈ composing) :
    isMark mode c = true := by
  simp only [composing, List.mem_cons, List.not_mem_nil, or_false] at composes
  rcases composes with rfl | rfl | rfl | rfl
  all_goals cases mode <;> decide

/-- An operator of two characters is found, whatever follows it. -/
theorem readComposite_append (composes : c ∈ composing) :
    readOperator (c :: '=' :: left) = .verbatim .operator [c, '='] := by
  rw [readOperator_cons_cons (isMark_of_mem_composing .full composes),
    if_pos (composites_contains_iff.2 ⟨composes, rfl⟩)]

/-- An operator of one character is found where what follows it makes nothing longer of it. -/
theorem readMark_append (marks : isMark mode c = true)
    (follows : MayPrecede mode .operator [c] left) :
    readOperator (c :: left) = .verbatim .operator [c] := by
  cases left with
  | nil => exact readOperator_singleton marks
  | cons d others =>
    have alone := (allows_mark_iff.1 (mayPrecede_cons.1 follows)).1
    rw [readOperator_cons_cons marks, if_neg (mt composites_contains_iff.1 alone)]

end Plain

end Lexing
