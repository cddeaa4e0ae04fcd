import Lexing.Command.Run
import Lexing.Proofs.Output.Json
import Lexing.Proofs.Text.Decimal
import Lexing.Proofs.Text.Escaping
import Mathlib.Data.List.Basic

set_option relaxedAutoImplicit false
set_option autoImplicit false

/-!
# JSON texts are told apart

A token is known by its JSON text, and a list of tokens by that of its array, whatever the texts of
the tokens are. No text of a value is the front of the text of another value, as long as none of
them goes on with a digit: a string ends at its closing quote, a number in front of what is no
digit, and brackets where their elements end. So elements, fields and brackets can be taken off one
by one from the left, in either layout.

## Main definitions

* `Lexing.Json.Apart` — two texts of values are told apart whatever stands behind them.
* `Lexing.Json.behindFirst` — what stands behind the first of some elements.

## Main results

* `Lexing.Json.isLegible_escaping` — the convention on strings tells characters apart.
* `Lexing.Json.selfDelimiting_string`, `Lexing.Json.apart_number` — strings and numbers are told
  apart.
* `Lexing.Json.separated_append_inj` — elements that are told apart are told apart together.
* `Lexing.Json.object_append_inj` — so are the fields of objects.
* `Lexing.Json.selfDelimiting_token` — tokens with the same JSON text are the same.
* `Lexing.Json.array_append_inj` — so are lists of elements with the same array.
* `Lexing.Command.arrays_lose_nothing` — what is printed tells the tokens.
-/

namespace Lexing

namespace Json

variable {v w x y name other : Text} {layout : Layout} {depth : Nat}

/-! ## Strings -/

/-- The convention tells characters apart. -/
theorem isLegible_escaping : escaping.IsLegible where
  noQuote plain := plain.1 rfl
  noBackslash plain := plain.2.1 rfl
  letters := by decide
  noMark := by decide
  numerals := by
    intro c d x y first second same
    have four : ∀ n < 0x20, (fourHexDigits n).length = 4 := by decide
    have digits : ∀ m < 0x20, ∀ n < 0x20, fourHexDigits m = fourHexDigits n → m = n := by
      decide +kernel
    obtain ⟨numbers, behind⟩ := List.append_inj same ((four _ first).trans (four _ second).symm)
    exact ⟨Char.toNat_inj.1 (digits _ first _ second numbers), behind⟩

/-- A string ends by itself, at its closing quote. -/
theorem selfDelimiting_string : Text.SelfDelimiting string :=
  Escaping.selfDelimiting_quote isLegible_escaping writes_escape

/-! ## Values -/

/-- Two texts of values are told apart: with anything behind them that does not go on with a digit
they are equal only if they are the same, and what stands behind them is the same. -/
def Apart (v w : Text) : Prop :=
  ∀ ⦃x y : Text⦄, Text.Stops Char.isDigit x → Text.Stops Char.isDigit y →
    v ++ x = w ++ y → v = w ∧ x = y

/-- What ends by itself is told apart. -/
theorem apart_of_selfDelimiting {α : Type} {write : α → Text}
    (ends : Text.SelfDelimiting write) (a b : α) : Apart (write a) (write b) := by
  intro x y _ _ same
  obtain ⟨rfl, behind⟩ := ends same
  exact ⟨rfl, behind⟩

/-- Numbers are told apart. -/
theorem apart_number (m n : Nat) : Apart (number m) (number n) := by
  intro x y stops others same
  obtain ⟨rfl, behind⟩ := Text.decimal_append_inj stops others same
  exact ⟨rfl, behind⟩

/-- Numbers of the same form are the same. -/
theorem number_inj {m n : Nat} (same : number m = number n) : m = n :=
  Text.toDigits_inj (by decide) (by decide) same

/-! ## Elements -/

/-- What stands behind the first of some elements: the text behind all of them if there are no
others, and else a comma, the others, and this text. -/
def behindFirst (layout : Layout) (depth : Nat) (x : Text) : List Text → Text
  | [] => x
  | next :: others => ',' :: (separated layout depth (next :: others) ++ x)

/-- The first of some elements, with what stands behind it. -/
theorem separated_cons_append (layout : Layout) (depth : Nat) (e : Text) (others : List Text)
    (x : Text) :
    separated layout depth (e :: others) ++ x =
      lineBreak layout (depth + 1) ++ (e ++ behindFirst layout depth x others) := by
  cases others with
  | nil => simp [separated, behindFirst]
  | cons next others => simp [separated_cons_cons, behindFirst]

/-- An element does not go on with a digit. -/
theorem stops_behindFirst (stops : Text.Stops Char.isDigit x) (others : List Text) :
    Text.Stops Char.isDigit (behindFirst layout depth x others) := by
  cases others with
  | nil => exact stops
  | cons next others => exact Text.stops_cons.2 rfl

/-- **Elements that are told apart one by one are told apart together**, with anything behind them
that goes on neither with a digit nor with a comma.

**Proof sketch.** Induction on the elements. The first ones are told apart whatever follows them,
for this is a comma or what stands behind all elements, and neither goes on with a digit. Behind
the last element there is no comma, so both lists end together. -/
theorem separated_append_inj {es fs : List Text} (apart : ∀ p ∈ es.zip fs, Apart p.1 p.2)
    (first : es ≠ []) (second : fs ≠ []) (stops : Text.Stops Char.isDigit x)
    (others : Text.Stops Char.isDigit y) (ends : x.head? ≠ some ',') (closes : y.head? ≠ some ',')
    (same : separated layout depth es ++ x = separated layout depth fs ++ y) :
    es = fs ∧ x = y := by
  induction es generalizing fs with
  | nil => exact absurd rfl first
  | cons e es ih =>
    obtain ⟨f, fs, rfl⟩ := List.exists_cons_of_ne_nil second
    obtain ⟨head, tail⟩ := List.forall_mem_cons.1 apart
    rw [separated_cons_append, separated_cons_append, List.append_cancel_left_eq] at same
    obtain ⟨heads, behind⟩ := head (stops_behindFirst stops es) (stops_behindFirst others fs) same
    obtain rfl : e = f := heads
    -- behind the first elements there is a comma where others follow, and only there
    cases es with
    | nil =>
      cases fs with
      | nil => exact ⟨rfl, behind⟩
      | cons g fs =>
        rw [show x = ',' :: _ from behind] at ends
        exact absurd rfl ends
    | cons d es =>
      cases fs with
      | nil =>
        rw [show y = ',' :: _ from behind.symm] at closes
        exact absurd rfl closes
      | cons g fs =>
        obtain ⟨equal, rest⟩ := ih tail (by simp) (by simp) (List.cons.inj behind).2
        exact ⟨congrArg (e :: ·) equal, rest⟩

/-! ## Brackets -/

/-- Where brackets close, there is neither a digit nor a comma. -/
theorem stops_closing (layout : Layout) (depth : Nat) (bracket : Bracket) (x : Text) :
    Text.Stops Char.isDigit (lineBreak layout depth ++ bracket.closing :: x) ∧
      (lineBreak layout depth ++ bracket.closing :: x).head? ≠ some ',' := by
  cases layout with
  | compact => cases bracket <;> exact ⟨Text.stops_cons.2 rfl, by simp [lineBreak, Bracket.closing]⟩
  | indented => exact ⟨Text.stops_cons.2 rfl, by simp [lineBreak]⟩

/-- Elements between brackets are told apart, if they are told apart one by one and there are
any.

**Proof sketch.** Behind the elements there is a line break or the closing bracket, which goes on
neither with a digit nor with a comma (`stops_closing`), and so `separated_append_inj` applies. -/
theorem bracketed_append_inj {es fs : List Text} (apart : ∀ p ∈ es.zip fs, Apart p.1 p.2)
    (first : es ≠ []) (second : fs ≠ []) (bracket : Bracket)
    (same : bracketed layout depth bracket.opening bracket.closing es ++ x =
      bracketed layout depth bracket.opening bracket.closing fs ++ y) :
    es = fs ∧ x = y := by
  have inner : separated layout depth es ++ (lineBreak layout depth ++ bracket.closing :: x) =
      separated layout depth fs ++ (lineBreak layout depth ++ bracket.closing :: y) := by
    rw [bracketed_of_ne_nil layout depth _ _ first, bracketed_of_ne_nil layout depth _ _ second]
      at same
    simpa using same
  obtain ⟨stops, ends⟩ := stops_closing layout depth bracket x
  obtain ⟨others, closes⟩ := stops_closing layout depth bracket y
  obtain ⟨equal, behind⟩ := separated_append_inj apart first second stops others ends closes inner
  exact ⟨equal, (List.cons.inj (List.append_cancel_left behind)).2⟩

/-! ## Objects -/

/-- What stands between the name of a field and its value. -/
def colon : Layout → Text
  | .compact => [':']
  | .indented => [':', ' ']

theorem field_eq (layout : Layout) (name value : Text) :
    field layout name value = string name ++ (colon layout ++ value) := by
  cases layout <;> simp [field, colon]

/-- Fields are told apart if their values are. -/
theorem apart_field (apart : Apart v w) : Apart (field layout name v) (field layout other w) := by
  intro x y stops others same
  simp only [field_eq, List.append_assoc] at same
  obtain ⟨rfl, behind⟩ := selfDelimiting_string same
  obtain ⟨rfl, rest⟩ := apart stops others (List.append_cancel_left behind)
  exact ⟨rfl, rest⟩

/-- Fields of the same form have the same name and value. -/
theorem field_inj (same : field layout name v = field layout other w) : name = other ∧ v = w := by
  rw [field_eq, field_eq] at same
  obtain ⟨names, behind⟩ := selfDelimiting_string same
  exact ⟨names, List.append_cancel_left behind⟩

/-- **Objects are told apart** if the values of their fields are, one by one.

**Proof sketch.** A field is its name, which is told by itself, and its value, so that fields are
told apart where their values are (`apart_field`). Between brackets elements are told apart
(`bracketed_append_inj`), and the form of a field tells name and value (`field_inj`). -/
theorem object_append_inj {fields others : List (Text × Text)}
    (apart : ∀ p ∈ fields.zip others, Apart p.1.2 p.2.2) (first : fields ≠ [])
    (second : others ≠ [])
    (same : object layout depth fields ++ x = object layout depth others ++ y) :
    fields = others ∧ x = y := by
  have injective : Function.Injective fun part : Text × Text => field layout part.1 part.2 := by
    intro one another forms
    obtain ⟨names, values⟩ := field_inj forms
    exact Prod.ext names values
  have elements : ∀ p ∈ (fields.map fun part => field layout part.1 part.2).zip
      (others.map fun part => field layout part.1 part.2), Apart p.1 p.2 := by
    intro p given
    rw [List.zip_map, List.mem_map] at given
    obtain ⟨q, inside, rfl⟩ := given
    exact apart_field (apart q inside)
  obtain ⟨forms, behind⟩ := bracketed_append_inj elements (by simpa using first)
    (by simpa using second) .curly same
  exact ⟨List.map_injective_iff.2 injective forms, behind⟩

/-! ## Tokens -/

/-- A span ends by itself, at its closing brace. -/
theorem selfDelimiting_span (layout : Layout) (depth : Nat) :
    Text.SelfDelimiting (span layout depth) := by
  intro s t x y same
  obtain ⟨fields, behind⟩ := object_append_inj (by simp [apart_number]) (by simp) (by simp) same
  simp only [List.cons.injEq, Prod.mk.injEq, true_and, and_true] at fields
  obtain ⟨starts, stops, lines, columns⟩ := fields
  refine ⟨?_, behind⟩
  cases s
  cases t
  rw [Span.mk.injEq]
  exact ⟨number_inj starts, number_inj stops, number_inj lines, number_inj columns⟩

/-- **A token ends by itself.** Tokens with the same JSON text are the same, whatever stands behind
it.

**Proof sketch.** A token is an object of three fields with the same names in all tokens. Strings
and spans are told apart, hence the objects are (`object_append_inj`). The name of a kind tells the
kind (`Token.Kind.name_inj`). -/
theorem selfDelimiting_token (layout : Layout) (depth : Nat) :
    Text.SelfDelimiting (token layout depth) := by
  intro t u x y same
  have strings := apart_of_selfDelimiting selfDelimiting_string
  have spans := apart_of_selfDelimiting (selfDelimiting_span layout (depth + 1))
  obtain ⟨fields, behind⟩ := object_append_inj (by simp [strings, spans]) (by simp) (by simp) same
  simp only [List.cons.injEq, Prod.mk.injEq, true_and, and_true] at fields
  obtain ⟨kinds, texts, extents⟩ := fields
  have kind : t.kind = u.kind :=
    Token.Kind.name_inj (String.toList_inj.1 (selfDelimiting_string.injective kinds))
  have text : t.text = u.text := selfDelimiting_string.injective texts
  have span : t.span = u.span := (selfDelimiting_span layout (depth + 1)).injective extents
  refine ⟨?_, behind⟩
  cases t
  cases u
  rw [Token.mk.injEq]
  exact ⟨kind, text, span⟩

/-! ## Arrays -/

/-- An array of elements that begin with a brace is not the empty one. -/
theorem array_nil_append_ne {e : Text} {others : List Text} (opens : e.head? = some '\x7b') :
    array layout depth [] ++ x ≠ array layout depth (e :: others) ++ y := by
  obtain ⟨inner, rfl⟩ := List.head?_eq_some_iff.1 opens
  obtain ⟨more, front⟩ := exists_separated_cons layout depth ('\x7b' :: inner) others
  rw [array, array, bracketed_of_ne_nil layout depth _ _ (List.cons_ne_nil _ _), front]
  cases layout <;> simp [bracketed, lineBreak]

/-- **Arrays are told apart** if their elements are, one by one, and begin with a brace.

**Proof sketch.** The empty array closes right behind its opening bracket, where the others have a
line break or the brace of their first element (`array_nil_append_ne`). All others are told apart
by `bracketed_append_inj`. -/
theorem array_append_inj {es fs : List Text} (apart : ∀ p ∈ es.zip fs, Apart p.1 p.2)
    (first : ∀ e ∈ es, e.head? = some '\x7b') (second : ∀ f ∈ fs, f.head? = some '\x7b')
    (same : array layout depth es ++ x = array layout depth fs ++ y) : es = fs ∧ x = y := by
  cases es with
  | nil =>
    cases fs with
    | nil => exact ⟨rfl, List.append_cancel_left same⟩
    | cons f fs => exact absurd same (array_nil_append_ne (second f List.mem_cons_self))
  | cons e es =>
    cases fs with
    | nil => exact absurd same.symm (array_nil_append_ne (first e List.mem_cons_self))
    | cons f fs => exact bracketed_append_inj apart (by simp) (by simp) .square same

/-- An array of tokens ends by itself. -/
theorem selfDelimiting_tokens (layout : Layout) : Text.SelfDelimiting (tokens layout) := by
  intro ts us x y same
  have opens (ts : List Token) : ∀ e ∈ ts.map (token layout 1), e.head? = some '\x7b' := by
    intro e inside
    obtain ⟨t, -, rfl⟩ := List.mem_map.1 inside
    exact head?_token layout 1 t
  have apart : ∀ p ∈ (ts.map (token layout 1)).zip (us.map (token layout 1)), Apart p.1 p.2 := by
    intro p given
    rw [List.zip_map, List.mem_map] at given
    obtain ⟨q, -, rfl⟩ := given
    exact apart_of_selfDelimiting (selfDelimiting_token layout 1) q.1 q.2
  obtain ⟨elements, behind⟩ := array_append_inj apart (opens ts) (opens us) same
  exact ⟨List.map_injective_iff.2 (selfDelimiting_token layout 1).injective elements, behind⟩

end Json

namespace Command

/-- **Arrays lose nothing.** A token is known by its JSON text, in either layout: tokens with the
same text agree in kind, text and span. A list of tokens is known by the array that is printed for
it: the length, the order and every token.

**Proof sketch.** A token ends by itself (`selfDelimiting_token`), and so does the array of a list
of tokens (`selfDelimiting_tokens`), whose elements are told apart one by one. What ends by itself
is known by its text. -/
theorem arrays_lose_nothing :
    (∀ layout depth, Function.Injective (Json.token layout depth)) ∧
      Function.Injective (printTokens true) := by
  refine ⟨?_, ?_⟩
  · intro layout depth
    exact (Json.selfDelimiting_token layout depth).injective
  · intro ts us same
    exact (Json.selfDelimiting_tokens .indented same).1

end Command

end Lexing
