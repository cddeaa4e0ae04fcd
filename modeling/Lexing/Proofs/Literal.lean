import Lexing.Proofs.Tiling

set_option relaxedAutoImplicit false
set_option autoImplicit false

/-!
# Texts in literal mode

In literal mode every text is read without a fault, and what it is read as can be told from its
characters alone. Five classes hold every character, each in one of them, and each class has its
kind of token. Words and layout are taken run by run, line feeds and foreign characters one by one,
and marks one by one but for the four pairs that end in an equals sign.

## Main definitions

* `Lexing.Grammar.literalClass` — the characters that tokens of a kind are made of.
* `Lexing.Grammar.IsRunKind`, `Lexing.Grammar.IsUnitKind` — the kinds that are taken run by run, and
  those that are taken one by one.
* `Lexing.Decomposes` — the tokens of a text in literal mode, told by its characters.

## Main results

* `Lexing.Grammar.literalClass_iff_route` — every character is in one class.
* `Lexing.Session.exists_tokens_of_literal` — literal mode has no failures.
* `Lexing.Tiling.isMaximalRun`, `Lexing.Tiling.exists_of_isMaximalRun` — tokens of words and of
  blanks are the maximal runs.
* `Lexing.Session.literal_decomposes` — what a text is read as in literal mode.
-/

namespace Lexing

open Grammar

variable {suppression : Suppression} {mode : Mode} {source before raw left after text : Text}
  {x : Char} {kind : Token.Kind} {t : Token} {tokens : List Token}

/-! ## Five classes -/

namespace Grammar

/-- The characters that tokens of a kind are made of in literal mode. The kinds that are told by
numbers, quotes and comments have none there. -/
def literalClass : Token.Kind → Char → Bool
  | .space => CharClass.isBlank
  | .endOfLine => CharClass.isLineFeed
  | .identifier => CharClass.isWordPart
  | .operator => isPunctuation
  | .unexpected => CharClass.isForeign
  | .integer | .float | .hexadecimal | .stringLiteral | .blockComment | .lineComment =>
    fun _ => false

/-- The kinds of literal mode. -/
def literalKinds : List Token.Kind := [.space, .endOfLine, .identifier, .operator, .unexpected]

/-- In literal mode every punctuation character can be an operator of its own. -/
theorem isMark_literal (c : Char) : isMark .literal c = isPunctuation c := by
  simp [isMark]

/-- The kind of token that a reader finds in literal mode. -/
def readerKind : Reader → Token.Kind
  | .blank => .space
  | .lineFeed => .endOfLine
  | .word _ => .identifier
  | .foreign => .unexpected
  | .operator | .number | .negativeNumber | .string | .slash => .operator

/-- A character is in the class of the kind that its reader finds. -/
theorem literalClass_route (c : Char) :
    literalClass (readerKind (Reader.route .literal c none)) c = true := by
  have opens := Reader.opens_route .literal c none
  generalize Reader.route .literal c none = reader at opens ⊢
  cases reader with
  | blank => exact opens
  | lineFeed => exact opens
  | foreign => exact opens
  | word wordMode => exact opens.2
  | operator => exact (isMark_literal c).symm.trans opens.1
  | number => cases opens.1
  | negativeNumber => cases opens.1
  | string => cases opens.1
  | slash => cases opens.1

/-- **Every character is in one class**: the class of the kind that its reader finds, and in no
other, for every class is the condition of a reader.

**Proof sketch.** For each kind with a class, the class is the condition under which its reader is
chosen, and the choice is unique (`route_of_opens`). The other kinds have no characters. Conversely
the reader that is chosen finds its own kind (`literalClass_route`). -/
theorem literalClass_iff_route {c : Char} :
    literalClass kind c = true ↔ kind = readerKind (Reader.route .literal c none) := by
  constructor
  · intro here
    cases kind with
    | space =>
      have opens : Reader.Opens .literal c none .blank := here
      rw [Reader.route_of_opens opens]
      rfl
    | endOfLine =>
      have opens : Reader.Opens .literal c none .lineFeed := here
      rw [Reader.route_of_opens opens]
      rfl
    | identifier =>
      have opens : Reader.Opens .literal c none (.word .literal) := ⟨rfl, here⟩
      rw [Reader.route_of_opens opens]
      rfl
    | unexpected =>
      have opens : Reader.Opens .literal c none .foreign := here
      rw [Reader.route_of_opens opens]
      rfl
    | operator =>
      have opens : Reader.Opens .literal c none .operator :=
        ⟨(isMark_literal c).trans here, fun full => by cases full⟩
      rw [Reader.route_of_opens opens]
      rfl
    | _ => cases here
  · rintro rfl
    exact literalClass_route c

/-- The class of a character tells which others it is not in. -/
theorem literalClass_iff {other : Token.Kind} (here : literalClass kind x = true) :
    literalClass other x = true ↔ other = kind := by
  rw [literalClass_iff_route, ← literalClass_iff_route.1 here]

/-- A composing mark and the equals sign are marks. -/
theorem isPunctuation_of_mem_composite (composes : x ∈ composing) :
    ∀ c ∈ [x, '='], isPunctuation c = true := by
  have mark : isPunctuation x = true :=
    (isMark_literal x).symm.trans (Plain.isMark_of_mem_composing .literal composes)
  intro c h
  rcases List.mem_cons.1 h with rfl | equals
  · exact mark
  · obtain rfl : c = '=' := List.mem_singleton.1 equals
    rfl

/-- In literal mode a lexeme has only characters of the class of its kind, and says itself. -/
theorem Lexeme.literal (lexeme : Lexeme .literal kind raw text) :
    (∀ c ∈ raw, literalClass kind c = true) ∧ text = raw ∧ kind ∈ literalKinds := by
  cases lexeme with
  | space nonempty blanks => exact ⟨blanks, rfl, by decide⟩
  | endOfLine => exact ⟨List.forall_mem_singleton.2 rfl, rfl, by decide⟩
  | identifier opens continues =>
    refine ⟨?_, rfl, by decide⟩
    intro d h
    rcases List.mem_cons.1 h with rfl | h
    · exact opens
    · exact continues d h
  | composite composes => exact ⟨isPunctuation_of_mem_composite composes, rfl, by decide⟩
  | @mark _ c marks =>
    rw [isMark_literal] at marks
    exact ⟨List.forall_mem_singleton.2 marks, rfl, by decide⟩
  | unexpected foreign => exact ⟨List.forall_mem_singleton.2 foreign, rfl, by decide⟩

/-- The kinds that are taken run by run. -/
def IsRunKind (kind : Token.Kind) : Prop := kind = .space ∨ kind = .identifier

/-- The kinds that are taken one by one. -/
def IsUnitKind (kind : Token.Kind) : Prop := kind = .endOfLine ∨ kind = .unexpected

/-- A run goes on as far as its class does. -/
theorem IsRunKind.stops (runs : IsRunKind kind) (follows : MayPrecede mode kind raw left) :
    Text.Stops (literalClass kind) left := by
  rcases runs with rfl | rfl
  · exact follows.stops fun c h => by simpa [allows, literalClass] using h
  · exact follows.stops fun c h => by simpa [allows, literalClass] using h

/-- A token of a kind that is taken one by one has one character. -/
theorem IsUnitKind.exists_singleton (unit : IsUnitKind kind)
    (lexeme : Lexeme mode kind raw text) : ∃ c, raw = [c] := by
  rcases unit with rfl | rfl
  · cases lexeme
    exact ⟨'\n', rfl⟩
  · cases lexeme
    exact ⟨_, rfl⟩

/-- An operator of literal mode is a composing mark with an equals sign, or one mark. A composing
mark by itself stands in front of no equals sign. -/
theorem Lexeme.operator_cases (lexeme : Lexeme .literal .operator raw text)
    (follows : MayPrecede .literal .operator raw left) :
    (∃ c ∈ composing, raw = [c, '=']) ∨
      ∃ c, raw = [c] ∧ isPunctuation c = true ∧ (c ∈ composing → left.head? ≠ some '=') := by
  cases lexeme with
  | @composite _ c composes => exact .inl ⟨c, composes, rfl⟩
  | @mark _ c marks =>
    refine .inr ⟨c, rfl, (isMark_literal c).symm.trans marks, ?_⟩
    intro composes equals
    exact (Plain.allows_mark_iff.1 (follows '=' equals)).1 ⟨composes, rfl⟩

end Grammar

/-! ## Suppression by kinds -/

/-- Whether tokens of a kind are left out. -/
def Suppression.leavesOut (suppression : Suppression) : Token.Kind → Bool
  | .space => suppression.suppressesBlanks
  | .endOfLine => suppression.suppressesLineFeeds
  | _ => false

/-- Whether a character is suppressed can be told from its class. -/
theorem Suppression.suppresses_eq (suppression : Suppression)
    (here : literalClass kind x = true) :
    suppression.suppresses x = suppression.leavesOut kind := by
  have blank : literalClass .space x = true ↔ .space = kind := literalClass_iff here
  have feed : literalClass .endOfLine x = true ↔ .endOfLine = kind := literalClass_iff here
  simp only [literalClass] at blank feed
  rw [Bool.eq_iff_iff, suppresses, Bool.or_eq_true, Bool.and_eq_true, Bool.and_eq_true, blank, feed]
  cases kind <;> simp [leavesOut]

/-! ## No failures -/

/-- **Literal mode has no failures.** Every call but the last comes to a token.

**Proof sketch.** Induction along the run. The faults of the grammar belong to full mode, so that a
call that goes on has come to a token. -/
theorem Session.exists_tokens_of_literal (s : Session) (suppression : Suppression) :
    ∃ tokens : List Token, s.outcomes suppression .literal = tokens.map .token := by
  refine drain_induction (motive := fun _ run _ => ∃ tokens : List Token,
    run.map Prod.fst = tokens.map .token) ?_ ?_ s
  · intro s next call
    exact ⟨[], rfl⟩
  · rintro s o next run last call goes - ⟨tokens, found⟩
    obtain ⟨d, -, pulls⟩ := pulls_of_take call
    cases pulls with
    | finished => cases goes
    | token => exact ⟨_ :: tokens, congrArg _ found⟩
    | fault full => cases full

/-- A text is accepted in literal mode, and its tokens tile it. -/
theorem Session.exists_tiling_of_literal (source : Text) (suppression : Suppression) :
    ∃ tokens : List Token, (ofText source).outcomes suppression .literal = tokens.map .token ∧
      tokenize source suppression .literal = .ok tokens ∧
      Tiling suppression .literal source tokens := by
  obtain ⟨tokens, outcomes⟩ := (ofText source).exists_tokens_of_literal suppression
  have accepted : Outcome.gather ((ofText source).outcomes suppression .literal) = .ok tokens := by
    simpa [outcomes, Outcome.gather, Except.map] using Outcome.gather_append tokens []
  exact ⟨tokens, outcomes, (tokenize_eq_gather ..).trans accepted, tiling_of_accepted accepted⟩

/-! ## Stretches of each kind -/

namespace Tiling

/-- A character that is not suppressed is held by a token of the kind of its class. -/
theorem exists_of_class (tiling : Tiling suppression .literal source tokens)
    (cut : source = before ++ x :: after) (here : literalClass kind x = true)
    (kept : suppression.leavesOut kind = false) :
    ∃ t ∈ tokens, t.kind = kind ∧ ∃ start front back left, before = start ++ front ∧
      after = back ++ left ∧ t.Fills .literal source start (front ++ x :: back) left := by
  rcases tiling.holds before x after cut with suppressed | ⟨t, mem, holds⟩
  · rw [suppression.suppresses_eq here, kept] at suppressed
    cases suppressed
  · obtain ⟨start, front, back, left, place, rest, fills⟩ := holds
    have same : literalClass t.kind x = true := fills.lexeme.literal.1 x (by simp)
    exact ⟨t, mem, (literalClass_iff here).1 same, start, front, back, left, place, rest, fills⟩

/-- The kinds of the tokens are not left out. -/
theorem leavesOut_eq_false (tiling : Tiling suppression .literal source tokens) (mem : t ∈ tokens) :
    suppression.leavesOut t.kind = false := by
  obtain ⟨before, raw, left, fills, kept⟩ := tiling.fills t mem
  obtain ⟨x, others, rfl⟩ := List.exists_cons_of_ne_nil fills.lexeme.ne_nil
  have first : literalClass t.kind x = true := fills.lexeme.literal.1 x (List.mem_cons_self ..)
  rw [← suppression.suppresses_eq first]
  exact Text.stops_cons.1 kept

/-- Right before a token of a run kind stands no other character of its class: the token that holds
that character would go on over the front of this one. -/
theorem eq_false_of_before {c : Char} (tiling : Tiling suppression .literal source tokens)
    (mem : t ∈ tokens) (runs : IsRunKind t.kind)
    (fills : t.Fills .literal source (before ++ [c]) raw left) : literalClass t.kind c = false := by
  by_contra member
  rw [Bool.not_eq_false] at member
  obtain ⟨x, others, rfl⟩ := List.exists_cons_of_ne_nil fills.lexeme.ne_nil
  have cut : source = before ++ c :: (x :: others ++ left) := by rw [fills.split]; simp
  obtain ⟨u, other, kind, start, front, back, rest, rfl, behind, holds⟩ :=
    tiling.exists_of_class cut member (tiling.leavesOut_eq_false mem)
  cases back with
  | nil =>
    have stops := (kind ▸ runs : IsRunKind u.kind).stops holds.follows
    have next : rest = x :: (others ++ left) := by simpa using behind.symm
    rw [next, Text.stops_cons, kind, fills.lexeme.literal.1 x (List.mem_cons_self ..)] at stops
    cases stops
  | cons y back =>
    -- both tokens hold `x`, so they are the same, but one of them starts earlier
    obtain ⟨rfl, later⟩ := List.cons.inj behind
    have place : t.Holds .literal source (start ++ front ++ [c]) x (others ++ left) :=
      ⟨start ++ front ++ [c], [], others, left, by simp, rfl, fills⟩
    have same : u.Holds .literal source (start ++ front ++ [c]) x (others ++ left) :=
      ⟨start, front ++ [c], back, rest, by simp, later, by simpa using holds⟩
    obtain rfl := tiling.eq_of_holds mem other place same
    have lengths := congrArg List.length (fills.unique holds).1
    simp at lengths

/-- **A token of a run kind is a maximal run.** Another character of its class stands neither right
before it nor right behind it.

**Proof sketch.** Inside, the lexeme consists of its class (`Lexeme.literal`). Behind it, what may
follow stops the run (`IsRunKind.stops`). Before it, a character of the class would be held by
another token, which would then have gone on (`eq_false_of_before`). -/
theorem isMaximalRun (tiling : Tiling suppression .literal source tokens) (mem : t ∈ tokens)
    (runs : IsRunKind t.kind) (fills : t.Fills .literal source before raw left) :
    Text.IsMaximalRun (literalClass t.kind) before raw left := by
  refine ⟨fills.lexeme.ne_nil, fills.lexeme.literal.1, ?_, runs.stops fills.follows⟩
  intro c last
  obtain ⟨first, rfl⟩ := List.getLast?_eq_some_iff.1 last
  exact tiling.eq_false_of_before mem runs fills

/-- **A maximal run is a token**, if its kind is not left out: the token that holds its first
character is a maximal run, too.

**Proof sketch.** The first character of the run is held by a token of its class
(`exists_of_class`). This token is a maximal run as well (`isMaximalRun`), and two maximal runs
that share a character are the same (`IsMaximalRun.unique`). -/
theorem exists_of_isMaximalRun (tiling : Tiling suppression .literal source tokens)
    (runs : IsRunKind kind) (kept : suppression.leavesOut kind = false)
    (split : source = before ++ (raw ++ left))
    (maximal : Text.IsMaximalRun (literalClass kind) before raw left) :
    ∃ t ∈ tokens, t.kind = kind ∧ t.Fills .literal source before raw left := by
  obtain ⟨x, others, rfl⟩ := List.exists_cons_of_ne_nil maximal.nonempty
  obtain ⟨t, mem, rfl, start, front, back, rest, place, behind, fills⟩ :=
    tiling.exists_of_class split (maximal.inside x (List.mem_cons_self ..)) kept
  have found := tiling.isMaximalRun mem runs fills
  have first : Text.IsMaximalRun (literalClass t.kind) before ([] ++ x :: others) left := maximal
  obtain ⟨rfl, rfl, rfl, rfl⟩ := first.unique found (by simpa using place) behind
  exact ⟨t, mem, rfl, fills⟩

/-- The tokens of a run kind are the maximal runs of its class. -/
theorem run_iff (tiling : Tiling suppression .literal source tokens) (runs : IsRunKind kind) :
    (∃ t ∈ tokens, t.kind = kind ∧ t.Fills .literal source before raw left) ↔
      suppression.leavesOut kind = false ∧ source = before ++ (raw ++ left) ∧
        Text.IsMaximalRun (literalClass kind) before raw left := by
  constructor
  · rintro ⟨t, mem, rfl, fills⟩
    exact ⟨tiling.leavesOut_eq_false mem, fills.split, tiling.isMaximalRun mem runs fills⟩
  · rintro ⟨kept, split, maximal⟩
    exact tiling.exists_of_isMaximalRun runs kept split maximal

/-- The tokens of a unit kind are the characters of its class. -/
theorem unit_iff (tiling : Tiling suppression .literal source tokens) (unit : IsUnitKind kind) :
    (∃ t ∈ tokens, t.kind = kind ∧ t.Fills .literal source before raw left) ↔
      suppression.leavesOut kind = false ∧ source = before ++ (raw ++ left) ∧
        ∃ c, raw = [c] ∧ literalClass kind c = true := by
  constructor
  · rintro ⟨t, mem, rfl, fills⟩
    obtain ⟨c, rfl⟩ := unit.exists_singleton fills.lexeme
    exact ⟨tiling.leavesOut_eq_false mem, fills.split, c, rfl,
      fills.lexeme.literal.1 c (List.mem_cons_self ..)⟩
  · rintro ⟨kept, split, c, rfl, here⟩
    obtain ⟨t, mem, rfl, start, front, back, rest, rfl, behind, fills⟩ :=
      tiling.exists_of_class split here kept
    obtain ⟨d, single⟩ := unit.exists_singleton fills.lexeme
    obtain rfl : left = back ++ rest := behind
    exact ⟨t, mem, rfl, fills.single single⟩

/-- Every mark lies in one token, which is an operator. -/
theorem existsUnique_operator (tiling : Tiling suppression .literal source tokens)
    (cut : source = before ++ x :: after) (mark : isPunctuation x = true) :
    ∃! t, t ∈ tokens ∧ t.kind = .operator ∧ t.Holds .literal source before x after := by
  have here : literalClass .operator x = true := mark
  obtain ⟨t, mem, kind, holds⟩ := tiling.exists_of_class cut here rfl
  refine ⟨t, ⟨mem, kind, holds⟩, ?_⟩
  rintro u ⟨other, -, otherHolds⟩
  exact tiling.eq_of_holds other mem otherHolds holds

end Tiling

/-! ## The decomposition -/

/-- The tokens of a text in literal mode, told by its characters. They are of five kinds, each fills
a stretch of the text, which it says, and they lie one behind the other. Words are the maximal runs
of word characters, foreign characters are tokens of their own, and so are line feeds, and blanks
are taken in maximal runs, but for what is suppressed. Each mark lies in one operator, and an
operator is a composing mark with an equals sign or a mark by itself, which is then no composing
mark in front of an equals sign. -/
structure Decomposes (suppression : Suppression) (source : Text) (tokens : List Token) : Prop where
  stretches : ∀ t ∈ tokens, t.kind ∈ literalKinds ∧
    ∃ before left, t.Fills .literal source before t.text left ∧
      (Session.ofText source).lexeme? t.span = some t.text
  ordered : Span.Ordered (tokens.map Token.span)
  words : ∀ before raw left,
    (∃ t ∈ tokens, t.kind = .identifier ∧ t.Fills .literal source before raw left) ↔
      source = before ++ (raw ++ left) ∧ Text.IsMaximalRun CharClass.isWordPart before raw left
  foreign : ∀ before raw left,
    (∃ t ∈ tokens, t.kind = .unexpected ∧ t.Fills .literal source before raw left) ↔
      source = before ++ (raw ++ left) ∧ ∃ c, raw = [c] ∧ CharClass.isForeign c = true
  blanks : ∀ before raw left,
    (∃ t ∈ tokens, t.kind = .space ∧ t.Fills .literal source before raw left) ↔
      suppression.suppressesBlanks = false ∧ source = before ++ (raw ++ left) ∧
        Text.IsMaximalRun CharClass.isBlank before raw left
  lineFeeds : ∀ before raw left,
    (∃ t ∈ tokens, t.kind = .endOfLine ∧ t.Fills .literal source before raw left) ↔
      suppression.suppressesLineFeeds = false ∧ source = before ++ (raw ++ left) ∧ raw = ['\n']
  marks : ∀ before x after, source = before ++ x :: after → isPunctuation x = true →
    ∃! t, t ∈ tokens ∧ t.kind = .operator ∧ t.Holds .literal source before x after
  operators : ∀ t ∈ tokens, t.kind = .operator → ∀ before raw left,
    t.Fills .literal source before raw left →
      (∃ c ∈ composing, raw = [c, '=']) ∨
        ∃ c, raw = [c] ∧ isPunctuation c = true ∧ (c ∈ composing → left.head? ≠ some '=')

/-- **Tilings in literal mode are decompositions.**

**Proof sketch.** Kinds taken by runs are maximal runs and conversely (`run_iff`), kinds taken one
by one are single characters and conversely (`unit_iff`). A mark is held by exactly one operator
(`existsUnique_operator`), and which operators are pairs the grammar says (`operator_cases`). -/
theorem Tiling.decomposes (tiling : Tiling suppression .literal source tokens) :
    Decomposes suppression source tokens where
  stretches t mem := by
    obtain ⟨before, raw, left, fills, -⟩ := tiling.fills t mem
    obtain ⟨-, said, kind⟩ := fills.lexeme.literal
    rw [said]
    exact ⟨kind, before, left, fills, fills.lexeme?⟩
  ordered := tiling.ordered
  words before raw left := by
    rw [tiling.run_iff (.inr rfl)]
    exact and_iff_right rfl
  foreign before raw left := by
    rw [tiling.unit_iff (.inr rfl)]
    exact and_iff_right rfl
  blanks before raw left := tiling.run_iff (.inl rfl)
  lineFeeds before raw left := by
    rw [tiling.unit_iff (.inl rfl)]
    simp [literalClass, CharClass.isLineFeed, Suppression.leavesOut]
  marks before x after := tiling.existsUnique_operator
  operators t mem kind before raw left fills := by
    have lexeme := fills.lexeme
    have follows := fills.follows
    rw [kind] at lexeme follows
    exact lexeme.operator_cases follows

/-- **Literal mode decomposes every text.** Whatever the text is and whatever is suppressed, no call
fails, and the tokens are those that the characters tell.

**Proof sketch.** No call fails in literal mode, so the text is accepted and its tokens tile it
(`exists_tiling_of_literal`). A tiling in literal mode is a decomposition (`Tiling.decomposes`). -/
theorem Session.literal_decomposes (source : Text) (suppression : Suppression) :
    ∃ tokens : List Token, (ofText source).outcomes suppression .literal = tokens.map .token ∧
      tokenize source suppression .literal = .ok tokens ∧
      Decomposes suppression source tokens := by
  obtain ⟨tokens, outcomes, accepted, tiling⟩ := exists_tiling_of_literal source suppression
  exact ⟨tokens, outcomes, accepted, tiling.decomposes⟩

/-- Equals signs are paired from the left: the third one is no part of a pair. -/
example : ((Session.ofText ['=', '=', '=', '<', '=']).outcomes .none .literal).map
    (fun o => o.token?.map Token.text) = [some ['=', '='], some ['='], some ['<', '=']] := by
  decide +kernel

end Lexing
