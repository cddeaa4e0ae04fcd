import Lexing.Command.Run
import Lexing.Proofs.Text.Quoted
import Mathlib.Data.List.Forall2

set_option relaxedAutoImplicit false
set_option autoImplicit false

/-!
# Token lines are lines

However many lines the text of a token has, the token is shown on one of its own. So the line feeds
of a listing are as many as its tokens. A line tells all that it shows: its columns end at their
separators, and the text in the last one is quoted, so nothing in a token can be taken for the
separator of a column, for the end of a line, or for what another token shows.

## Main definitions

* `Lexing.TokenLine.ShowAlike` — two tokens have in common what a line shows.

## Main results

* `Lexing.TokenLine.lineFeed_not_mem_render`, `Lexing.TokenLine.count_tab_render` — a token is on
  one line of three columns.
* `Lexing.TokenLine.count_renderAll` — a listing has one line feed for each token.
* `Lexing.TokenLine.render_eq_iff` — what two tokens on equal lines have in common.
* `Lexing.TokenLine.renderAll_eq_iff` — the same for whole listings.
* `Lexing.Command.listings_lose_nothing` — what is printed tells all that it shows.
-/

namespace Lexing

namespace TokenLine

variable {t u : Token} {ts us : List Token}

/-! ## Columns -/

/-- The columns of a line: line and column from one, kind, and quoted text. -/
theorem render_eq (t : Token) :
    render t = Text.decimal (t.span.line + 1) ++ ':' :: (Text.decimal (t.span.column + 1) ++
      '\t' :: (t.kind.name.toList ++ '\t' :: Quoted.ofText t.text)) := by
  simp [render]

/-- The name of a kind is one word. -/
theorem not_mem_name (kind : Token.Kind) : '\n' ∉ kind.name.toList ∧ '\t' ∉ kind.name.toList := by
  cases kind <;> decide

/-- No control character is in quoted text. -/
theorem not_mem_ofText {c : Char} (control : CharClass.isControl c = true) (text : Text) :
    c ∉ Quoted.ofText text := by
  intro inside
  rw [Quoted.not_isControl_of_mem_ofText inside] at control
  cases control

/-- A token is shown on one line. -/
theorem lineFeed_not_mem_render (t : Token) : '\n' ∉ render t := by
  have number (n : Nat) : '\n' ∉ Text.decimal n := Text.not_mem_decimal rfl n
  have quoted : '\n' ∉ Quoted.ofText t.text := not_mem_ofText rfl t.text
  simp [render_eq, number, quoted, not_mem_name]

/-- The columns of a line are three. -/
theorem count_tab_render (t : Token) : (render t).count '\t' = 2 := by
  have number (n : Nat) : (Text.decimal n).count '\t' = 0 :=
    List.count_eq_zero.2 (Text.not_mem_decimal rfl n)
  have name : t.kind.name.toList.count '\t' = 0 := List.count_eq_zero.2 (not_mem_name t.kind).2
  have quoted : (Quoted.ofText t.text).count '\t' = 0 :=
    List.count_eq_zero.2 (not_mem_ofText rfl t.text)
  simp [render_eq, number, name, quoted]

/-- **A listing has one line for each token.**

**Proof sketch.** Induction on the tokens. A line holds no line feed of its own
(`lineFeed_not_mem_render`), and one is put behind it. -/
theorem count_renderAll (tokens : List Token) :
    (renderAll tokens).count '\n' = tokens.length := by
  induction tokens with
  | nil => rfl
  | cons t tokens ih =>
    have line : (render t).count '\n' = 0 := List.count_eq_zero.2 (lineFeed_not_mem_render t)
    rw [renderAll] at ih ⊢
    rw [List.flatMap_cons, List.count_append, List.count_append, line, ih, List.length_cons,
      List.count_singleton_self]
    omega

/-! ## What is shown -/

/-- Two tokens have in common what a line shows: the line and the column of their first
characters, their kinds and their texts. -/
structure ShowAlike (t u : Token) : Prop where
  line : t.span.line = u.span.line
  column : t.span.column = u.span.column
  kind : t.kind = u.kind
  text : t.text = u.text

/-- **A line tells all that it shows.**

**Proof sketch.** No column but the last one holds what separates it from the next, so that equal
lines have equal columns (`append_cons_inj`). Decimal numbers, names of kinds and quoted texts each
tell what they stand for. -/
theorem render_eq_iff : render t = render u ↔ ShowAlike t u := by
  constructor
  · intro same
    rw [render_eq, render_eq] at same
    obtain ⟨lines, same⟩ :=
      Text.append_cons_inj (Text.not_mem_decimal rfl _) (Text.not_mem_decimal rfl _) same
    obtain ⟨columns, same⟩ :=
      Text.append_cons_inj (Text.not_mem_decimal rfl _) (Text.not_mem_decimal rfl _) same
    obtain ⟨names, texts⟩ := Text.append_cons_inj (not_mem_name _).2 (not_mem_name _).2 same
    refine ⟨?_, ?_, Token.Kind.name_inj (String.toList_inj.1 names),
      Quoted.selfDelimiting_ofText.injective texts⟩
    · exact Nat.succ.inj (Text.toDigits_inj (by decide) (by decide) lines)
    · exact Nat.succ.inj (Text.toDigits_inj (by decide) (by decide) columns)
  · intro alike
    simp only [render, alike.line, alike.column, alike.kind, alike.text]

/-- **A listing tells all that it shows**, line by line: the first line ends at the first line feed,
and behind it there is the listing of the other tokens. -/
theorem renderAll_eq_iff : renderAll ts = renderAll us ↔ List.Forall₂ ShowAlike ts us := by
  have parts (t : Token) (ts : List Token) :
      renderAll (t :: ts) = render t ++ '\n' :: renderAll ts := by
    simp [renderAll]
  constructor
  · intro same
    induction ts generalizing us with
    | nil =>
      cases us with
      | nil => exact .nil
      | cons u us => simp [renderAll] at same
    | cons t ts ih =>
      cases us with
      | nil => simp [renderAll] at same
      | cons u us =>
        rw [parts, parts] at same
        obtain ⟨first, others⟩ :=
          Text.append_cons_inj (lineFeed_not_mem_render t) (lineFeed_not_mem_render u) same
        exact .cons (render_eq_iff.1 first) (ih others)
  · intro alike
    induction alike with
    | nil => rfl
    | cons first _ ih => rw [parts, parts, render_eq_iff.2 first, ih]

end TokenLine

namespace Command

/-- **Listings lose nothing.** Every token is listed on one line of three columns. Two lists of
tokens are printed alike if and only if they are as long and agree item by item on the line, the
column, the kind and the text, whatever the texts are.

**Proof sketch.** A line holds no line feed and two tabs, since quoting writes both as escapes. The
listing is cut back into its lines by `renderAll_eq_iff`. -/
theorem listings_lose_nothing :
    (∀ t : Token, '\n' ∉ TokenLine.render t ∧ (TokenLine.render t).count '\t' = 2) ∧
      ∀ ts us : List Token, printTokens false ts = printTokens false us ↔
        List.Forall₂ TokenLine.ShowAlike ts us := by
  refine ⟨?_, ?_⟩
  · intro t
    exact ⟨TokenLine.lineFeed_not_mem_render t, TokenLine.count_tab_render t⟩
  · intro ts us
    exact TokenLine.renderAll_eq_iff

end Command

end Lexing
