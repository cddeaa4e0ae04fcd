import Lexing.Proofs.Routing

set_option relaxedAutoImplicit false
set_option autoImplicit false

/-!
# Quotations conform to the grammar

What the reader of strings finds conforms to the grammar, faults included, and every string of
the grammar is found.

## Main results

* `Lexing.Quotation.unescape?_eq_some_iff` — the escapes that are read are those of the grammar.
* `Lexing.Quotation.conforms_read` — what is found conforms.
* `Lexing.Quotation.read_append` — what is in the grammar is found.
* `Lexing.Quotation.read_badEscape`, `Lexing.Quotation.read_unclosed` — the faults of the grammar
  are found.
-/

namespace Lexing

namespace Quotation

open Grammar

/-- The escapes that are read are those of the grammar, with the same meaning. -/
theorem unescape?_eq_some_iff {e d : Char} : unescape? e = some d ↔ (e, d) ∈ escapes := by
  unfold unescape?
  split
  case h_11 => simp_all [escapes]
  all_goals simp [escapes, eq_comm]

/-- A character that no escape of the grammar has is read as no escape. -/
theorem not_mem_escapes_of_none {e : Char} (h : unescape? e = none) (d : Char) :
    (e, d) ∉ escapes := by
  rw [← unescape?_eq_some_iff, h]
  simp

/-- How the text after an opening quote goes on, in the words of the grammar. -/
def Body.Describes (input : Text) : Body → Prop
  | .closed raw meaning => Pieces raw meaning ∧ ∃ left, input = raw ++ '"' :: left
  | .badEscape raw e =>
    (∃ meaning, Pieces raw meaning) ∧ (∀ d, (e, d) ∉ escapes) ∧
      ∃ left, input = raw ++ '\\' :: e :: left
  | .unclosed => ∃ raw meaning, Pieces raw meaning ∧ (input = raw ∨ input = raw ++ ['\\'])

/-- One more piece in front is one more piece in the description. -/
theorem Body.Describes.addFront {input raw : Text} {decoded : Char} {body : Body}
    (piece : ∀ raws meanings, Pieces raws meanings → Pieces (raw ++ raws) (decoded :: meanings))
    (h : body.Describes input) : (body.addFront raw decoded).Describes (raw ++ input) := by
  cases body with
  | closed raws meanings =>
    obtain ⟨pieces, left, rfl⟩ := h
    exact ⟨piece raws meanings pieces, left, by simp⟩
  | badEscape raws e =>
    obtain ⟨⟨meanings, pieces⟩, unknown, left, rfl⟩ := h
    exact ⟨⟨_, piece raws meanings pieces⟩, unknown, left, by simp⟩
  | unclosed =>
    obtain ⟨raws, meanings, pieces, ends⟩ := h
    refine ⟨raw ++ raws, _, piece raws meanings pieces, ?_⟩
    rcases ends with rfl | rfl
    · exact .inl rfl
    · exact .inr (by simp)

/-- What is read after an opening quote is what stands there.

**Proof sketch.** Induction along the reading. Each case of it is a constructor of the pieces, or
one of the three ways to end: a quote, an escape that is not known, and the end of the text. -/
theorem describes_readBody (input : Text) : (readBody input).Describes input := by
  fun_induction readBody input with
  | case1 => exact ⟨[], [], .nil, .inl rfl⟩
  | case2 c rest quote =>
    obtain rfl : c = '"' := by simpa using quote
    exact ⟨.nil, rest, rfl⟩
  | case3 c _ backslash =>
    obtain rfl : c = '\\' := by simpa using backslash
    exact ⟨[], [], .nil, .inr rfl⟩
  | case4 c _ backslash e others hnone =>
    obtain rfl : c = '\\' := by simpa using backslash
    exact ⟨⟨[], .nil⟩, not_mem_escapes_of_none hnone, others, rfl⟩
  | case5 c _ backslash e others decoded hsome ih =>
    obtain rfl : c = '\\' := by simpa using backslash
    exact ih.addFront fun _ _ later => .escape (unescape?_eq_some_iff.1 hsome) later
  | case6 c rest quote backslash ih =>
    exact ih.addFront fun _ _ later =>
      .plain (by simpa using quote) (by simpa using backslash) later

/-- Several pieces in front of a body. -/
def Body.addPieces (raw decoded : Text) : Body → Body
  | .closed raws decodeds => .closed (raw ++ raws) (decoded ++ decodeds)
  | .badEscape raws escaped => .badEscape (raw ++ raws) escaped
  | .unclosed => .unclosed

/-- Pieces add up one by one. -/
theorem Body.addFront_addPieces (front raw decoded : Text) (d : Char) (body : Body) :
    (body.addPieces raw decoded).addFront front d =
      body.addPieces (front ++ raw) (d :: decoded) := by
  cases body <;> simp [addPieces, addFront]

/-- Pieces are read as such, whatever follows them.

**Proof sketch.** Induction on the pieces. The reader takes a piece by the case that its
constructor excludes from the others. -/
theorem readBody_pieces {raw meaning : Text} (pieces : Pieces raw meaning) (tail : Text) :
    readBody (raw ++ tail) = (readBody tail).addPieces raw meaning := by
  induction pieces with
  | nil => cases found : readBody tail <;> simp [Body.addPieces, found]
  | plain noQuote noBackslash _ ih =>
    rw [List.cons_append, readBody.eq_def]
    simp [noQuote, noBackslash, ih, Body.addFront_addPieces]
  | escape known _ ih =>
    rw [List.cons_append, List.cons_append, readBody.eq_def]
    simp [unescape?_eq_some_iff.2 known, ih, Body.addFront_addPieces]

/-- Pieces up to a quote are read as such. -/
theorem readBody_append {raw meaning : Text} (pieces : Pieces raw meaning) (left : Text) :
    readBody (raw ++ '"' :: left) = .closed raw meaning := by
  rw [readBody_pieces pieces, readBody.eq_def]
  simp [Body.addPieces]

/-- Behind its first quote a string is what its body comes to. -/
theorem read_cons (rest : Text) :
    read ('"' :: rest) =
      match readBody rest with
      | .closed raw decoded =>
        .lexeme .stringLiteral ('"' :: raw ++ ['"']) ('"' :: decoded ++ ['"'])
      | .badEscape raw e => .fault (.unexpectedEscape e) ('"' :: raw) ['\\']
      | .unclosed => .fault .unterminatedString [] ('"' :: rest) := by
  refine (Reader.enter_of_admits .string rest _ (by decide)).trans ?_
  cases readBody rest <;> rfl

/-- A string conforms. -/
theorem conforms_read (rest : Text) : (read ('"' :: rest)).Conforms .full ('"' :: rest) := by
  have describes := describes_readBody rest
  rw [read_cons]
  cases hbody : readBody rest with
  | closed raw meaning =>
    rw [hbody] at describes
    obtain ⟨pieces, left, rfl⟩ := describes
    exact ⟨.stringLiteral pieces, left, by simp, fun _ _ => rfl⟩
  | badEscape raw e =>
    rw [hbody] at describes
    obtain ⟨⟨meaning, pieces⟩, unknown, left, rfl⟩ := describes
    exact ⟨rfl, e :: left, by simp, .unexpectedEscape pieces unknown⟩
  | unclosed =>
    rw [hbody] at describes
    obtain ⟨raw, meaning, pieces, rfl | rfl⟩ := describes
    · exact ⟨rfl, [], by simp, .unterminatedString pieces⟩
    · exact ⟨rfl, [], by simp, .unterminatedEscape pieces⟩

/-- A string is found, whatever follows it. -/
theorem read_append {raw meaning : Text} (pieces : Pieces raw meaning) (left : Text) :
    read ('"' :: (raw ++ '"' :: left)) =
      .lexeme .stringLiteral ('"' :: raw ++ ['"']) ('"' :: meaning ++ ['"']) := by
  rw [read_cons, readBody_append pieces]

/-- A character without a meaning is no escape. -/
theorem unescape?_eq_none {e : Char} (unknown : ∀ d, (e, d) ∉ escapes) : unescape? e = none :=
  Option.eq_none_iff_forall_ne_some.2 fun d found => unknown d (unescape?_eq_some_iff.1 found)

/-- A bad escape is found behind the pieces before it. -/
theorem read_badEscape {raw meaning : Text} {e : Char} (pieces : Pieces raw meaning)
    (unknown : ∀ d, (e, d) ∉ escapes) (left : Text) :
    read ('"' :: (raw ++ '\\' :: e :: left)) =
      .fault (.unexpectedEscape e) ('"' :: raw) ['\\'] := by
  have body : readBody ('\\' :: e :: left) = .badEscape [] e := by
    rw [readBody.eq_def]
    simp [unescape?_eq_none unknown]
  rw [read_cons, readBody_pieces pieces, body]
  simp [Body.addPieces]

/-- A missing quote is found behind pieces and behind a last backslash. -/
theorem read_unclosed {raw meaning tail : Text} (pieces : Pieces raw meaning)
    (ends : tail = [] ∨ tail = ['\\']) :
    read ('"' :: (raw ++ tail)) = .fault .unterminatedString [] ('"' :: (raw ++ tail)) := by
  have body : readBody tail = .unclosed := by
    rcases ends with rfl | rfl
    · rw [readBody]
    · rw [readBody.eq_def]
      simp
  rw [read_cons, readBody_pieces pieces, body]
  rfl

end Quotation

end Lexing
