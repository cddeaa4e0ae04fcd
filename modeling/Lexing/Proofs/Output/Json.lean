import Lexing.Output.Json
import Lexing.Proofs.Text.CodePoint
import Lexing.Proofs.Text.Escaping
import Mathlib.Tactic.SplitIfs

set_option relaxedAutoImplicit false
set_option autoImplicit false

/-!
# The length of a JSON array

How many elements the text of a JSON array has is told by the text alone. A survey goes over it from
left to right. It keeps in mind which brackets are open and whether it is in a string, and it counts
the commas right inside of the outermost brackets. The text of a list of tokens is the text of an
array with one element for each token, whatever quotes, brackets and commas the tokens hold.

## Main definitions

* `Lexing.Json.escaping` — the convention on strings.
* `Lexing.Json.Survey` — what is known at a place of the text of an array.
* `Lexing.Json.arrayLength?` — the length of the array that a text writes out.
* `Lexing.Json.IsWhole` — a survey goes over a text as over a whole value.

## Main results

* `Lexing.Json.writes_escape` — characters in strings are escaped by the convention.
* `Lexing.Json.isWhole_string` — no text of a string leads out of it.
* `Lexing.Json.isWhole_bracketed` — brackets around whole elements are whole.
* `Lexing.Json.arrayLength?_tokens` — the array of a list of tokens is as long as the list.
-/

namespace Lexing

namespace Json

/-! ## Surveys -/

/-- Where a place of JSON text lies with respect to strings. -/
inductive Quoting where
  | outside
  | inside
  /-- In a string, behind a backslash. The next character ends no string. -/
  | escaped
deriving DecidableEq, Repr

/-- The two kinds of brackets. -/
inductive Bracket where
  | square
  | curly
deriving DecidableEq, Repr

/-- The bracket that opens. -/
def Bracket.opening : Bracket → Char
  | square => '['
  | curly => '\x7b'

/-- The bracket that closes. -/
def Bracket.closing : Bracket → Char
  | square => ']'
  | curly => '\x7d'

/-- What is known at a place of JSON text: whether it lies in a string, the brackets around it, the
innermost first, and how many commas have come up right inside of the outermost brackets. -/
structure Survey where
  quoting : Quoting
  around : List Bracket
  commas : Nat
deriving DecidableEq, Repr

/-- The characters that may stand around JSON values. -/
def isSpace (c : Char) : Bool :=
  CharClass.isBlank c || CharClass.isLineFeed c

/-- What is known behind one more character. There is no such thing if the character closes a
bracket that is not the innermost one, or stands behind all brackets and is no space. -/
def Survey.step (s : Survey) (c : Char) : Option Survey :=
  match s.quoting, s.around with
  | .escaped, _ => some { s with quoting := .inside }
  | .inside, _ =>
    if c == '"' then some { s with quoting := .outside }
    else if c == '\\' then some { s with quoting := .escaped }
    else some s
  | .outside, [] => if isSpace c then some s else none
  | .outside, innermost :: outer =>
    if c == '"' then some { s with quoting := .inside }
    else if c == '[' then some { s with around := .square :: innermost :: outer }
    else if c == '\x7b' then some { s with around := .curly :: innermost :: outer }
    else if c == ']' || c == '\x7d' then
      if c == innermost.closing then some { s with around := outer } else none
    else if c == ',' && outer.isEmpty then some { s with commas := s.commas + 1 }
    else some s

/-- What is known behind a text. -/
def Survey.over (s : Survey) (text : Text) : Option Survey :=
  text.foldlM step s

/-- The length of the array that a text writes out, if it is the text of an array. The commas stand
between the elements, so they are one less, but for an array with nothing in it. -/
def arrayLength? : Text → Option Nat
  | '[' :: inner =>
    match Survey.over ⟨.outside, [.square], 0⟩ inner with
    | some ⟨.outside, [], commas⟩ =>
      some (if (inner.dropWhile isSpace).head? = some ']' then 0 else commas + 1)
    | _ => none
  | _ => none

variable {a b text : Text} {commas : Nat} {outer : List Bracket}

namespace Survey

variable {s : Survey}

@[simp] theorem over_nil : s.over [] = some s := rfl

@[simp] theorem over_cons (c : Char) : s.over (c :: text) = (s.step c).bind (·.over text) := rfl

/-- A survey goes over two texts one after the other. -/
theorem over_append : s.over (a ++ b) = (s.over a).bind (·.over b) :=
  List.foldlM_append

end Survey

/-! ## Whole values -/

/-- Inside of any brackets, and in no string, a survey goes over a text as over a whole value: the
same brackets are around it in the end, and no comma has come up right inside of them. -/
def IsWhole (text : Text) : Prop :=
  ∀ (innermost : Bracket) (outer : List Bracket) (commas : Nat),
    Survey.over ⟨.outside, innermost :: outer, commas⟩ text =
      some ⟨.outside, innermost :: outer, commas⟩

/-- The characters that a survey heeds outside of strings: quotes, brackets and commas. -/
def marks : List Char :=
  ['"', '[', ']', '\x7b', '\x7d', ',']

/-- A character that a survey passes over outside of strings. -/
def isPlain (c : Char) : Bool :=
  !marks.contains c

/-- Two whole texts one after the other are whole. -/
theorem IsWhole.append (first : IsWhole a) (second : IsWhole b) : IsWhole (a ++ b) := by
  intro innermost outer commas
  rw [Survey.over_append, first, Option.bind_some, second]

/-- A plain character is whole. -/
theorem step_of_isPlain {c : Char} (plain : isPlain c = true) (innermost : Bracket) :
    Survey.step ⟨.outside, innermost :: outer, commas⟩ c =
      some ⟨.outside, innermost :: outer, commas⟩ := by
  simp only [isPlain, marks, List.contains_cons, List.contains_nil, Bool.not_eq_true',
    Bool.or_eq_false_iff, beq_eq_false_iff_ne] at plain
  simp [Survey.step, plain]

/-- Text of plain characters is whole. -/
theorem isWhole_of_isPlain (plain : ∀ c ∈ text, isPlain c = true) : IsWhole text := by
  intro innermost outer commas
  induction text with
  | nil => rfl
  | cons c text ih =>
    obtain ⟨first, others⟩ := List.forall_mem_cons.1 plain
    rw [Survey.over_cons, step_of_isPlain first, Option.bind_some]
    exact ih others

/-- A hexadecimal digit ends no string, begins no escape and is plain. -/
theorem ne_of_isHexDigit {c : Char} (digit : CharClass.isHexDigit c = true) :
    c ≠ '"' ∧ c ≠ '\\' ∧ isPlain c = true := by
  have noDigit : ∀ d ∈ '\\' :: marks, CharClass.isHexDigit d = false := by
    simp [marks, CharClass.isHexDigit]
  have other : c ∉ '\\' :: marks := by
    intro inside
    rw [noDigit c inside] at digit
    cases digit
  rw [List.mem_cons, not_or] at other
  refine ⟨?_, other.1, ?_⟩
  · rintro rfl
    exact other.2 (by simp [marks])
  · simpa [isPlain] using other.2

/-! ## Strings -/

/-- In a string, a survey goes over a character that ends no string and begins no escape. -/
theorem over_inside (inner : ∀ c ∈ text, c ≠ '"' ∧ c ≠ '\\') (around : List Bracket) :
    Survey.over ⟨.inside, around, commas⟩ text = some ⟨.inside, around, commas⟩ := by
  induction text with
  | nil => rfl
  | cons c text ih =>
    obtain ⟨first, others⟩ := List.forall_mem_cons.1 inner
    simp [Survey.step, first, ih others]

/-- A number of four hexadecimal digits is made of them, zeros in front included. -/
theorem isHexDigit_of_mem_fourHexDigits {n : Nat} :
    ∀ d ∈ fourHexDigits n, CharClass.isHexDigit d = true := by
  intro d given
  rcases List.mem_append.1 given with zero | digit
  · rw [List.eq_of_mem_replicate zero]
    rfl
  · exact CharClass.isHexDigit_of_mem_toDigits (by decide) (by decide) n d digit

/-- The convention on strings: quotes, backslashes and five controls have a letter, the controls
below the space may be written by number, and all other characters are written as they are. -/
def escaping : Escaping where
  plain c := c ≠ '"' ∧ c ≠ '\\' ∧ 0x20 ≤ c.toNat
  letters := [('"', '"'), ('\\', '\\'), ('\x08', 'b'), ('\t', 't'), ('\n', 'n'), ('\x0c', 'f'),
    ('\r', 'r')]
  numbered c := c.toNat < 0x20
  numeral c := fourHexDigits c.toNat

/-- Characters are escaped by the convention. -/
theorem writes_escape (c : Char) : escaping.Writes c (escape c) := by
  unfold escape
  split_ifs with special backspace tab feed formFeed carriage control
  · have either : c = '"' ∨ c = '\\' := by simpa using special
    rcases either with rfl | rfl
    · exact .letter (by decide)
    · exact .letter (by decide)
  · obtain rfl : c = '\x08' := by simpa using backspace
    exact .letter (by decide)
  · obtain rfl : c = '\t' := by simpa using tab
    exact .letter (by decide)
  · obtain rfl : c = '\n' := by simpa using feed
    exact .letter (by decide)
  · obtain rfl : c = '\x0c' := by simpa using formFeed
    exact .letter (by decide)
  · obtain rfl : c = '\r' := by simpa using carriage
    exact .letter (by decide)
  · exact .numeral control
  · simp only [Bool.or_eq_true, beq_iff_eq, not_or] at special
    exact .plain ⟨special.1, special.2, Nat.le_of_not_lt control⟩

/-- An escaped character does not lead out of the string. -/
theorem over_writes {c : Char} (writes : escaping.Writes c text) (around : List Bracket) :
    Survey.over ⟨.inside, around, commas⟩ text = some ⟨.inside, around, commas⟩ := by
  cases writes with
  | plain plain => exact over_inside (by simp [plain.1, plain.2.1]) around
  | letter given => simp [Survey.step]
  | numeral numbered =>
    have digits : ∀ d ∈ fourHexDigits c.toNat, d ≠ '"' ∧ d ≠ '\\' := by
      intro d given
      obtain ⟨noQuote, noBackslash, -⟩ := ne_of_isHexDigit (isHexDigit_of_mem_fourHexDigits d given)
      exact ⟨noQuote, noBackslash⟩
    simp [Survey.step, escaping, over_inside digits]

/-- **No string leads out of itself.** The form of a string is whole, whatever the string is.

**Proof sketch.** Behind the opening quote the survey is inside a string, and each written
character leaves it there (`over_writes`). The closing quote leads it back to where it was. -/
theorem isWhole_string (text : Text) : IsWhole (string text) := by
  intro innermost outer commas
  have inner : Survey.over ⟨.inside, innermost :: outer, commas⟩ (text.flatMap escape) =
      some ⟨.inside, innermost :: outer, commas⟩ := by
    induction text with
    | nil => rfl
    | cons c text ih =>
      rw [List.flatMap_cons, Survey.over_append, over_writes (writes_escape c), Option.bind_some,
        ih]
  rw [string, List.cons_append, Survey.over_cons, Survey.step]
  simp [Survey.over_append, inner, Survey.step]

/-! ## Numbers and layout -/

/-- A number is whole. -/
theorem isWhole_number (n : Nat) : IsWhole (number n) :=
  isWhole_of_isPlain fun c inside => (ne_of_isHexDigit
    (CharClass.isHexDigit_of_mem_toDigits (by decide) (by decide) n c inside)).2.2

/-- What stands before an element consists of spaces. -/
theorem isSpace_of_mem_lineBreak {layout : Layout} {depth : Nat} :
    ∀ c ∈ lineBreak layout depth, isSpace c = true := by
  intro c inside
  cases layout with
  | compact => cases inside
  | indented =>
    rcases List.mem_cons.1 inside with rfl | blank
    · rfl
    · rw [List.eq_of_mem_replicate blank]
      rfl

/-- Spaces are plain. -/
theorem isPlain_of_isSpace {c : Char} (space : isSpace c = true) : isPlain c = true := by
  simp only [isSpace, CharClass.isBlank, CharClass.isLineFeed, Bool.or_eq_true, beq_iff_eq]
    at space
  rcases space with ((rfl | rfl) | rfl) | rfl <;> rfl

/-- What stands before an element is whole. -/
theorem isWhole_lineBreak (layout : Layout) (depth : Nat) : IsWhole (lineBreak layout depth) :=
  isWhole_of_isPlain fun c inside => isPlain_of_isSpace (isSpace_of_mem_lineBreak c inside)

/-! ## Brackets -/

/-- An opening bracket is the innermost one from there on. -/
theorem step_opening (bracket innermost : Bracket) :
    Survey.step ⟨.outside, innermost :: outer, commas⟩ bracket.opening =
      some ⟨.outside, bracket :: innermost :: outer, commas⟩ := by
  cases bracket <;> rfl

/-- The closing bracket of the innermost one leads out of it. -/
theorem step_closing (bracket : Bracket) :
    Survey.step ⟨.outside, bracket :: outer, commas⟩ bracket.closing =
      some ⟨.outside, outer, commas⟩ := by
  cases bracket <;> rfl

/-- A comma counts right inside of the outermost brackets. -/
theorem step_comma (innermost : Bracket) :
    Survey.step ⟨.outside, innermost :: outer, commas⟩ ',' =
      some ⟨.outside, innermost :: outer, if outer = [] then commas + 1 else commas⟩ := by
  cases outer <;> rfl

/-- The elements that stand between two brackets at a depth, with commas between them. -/
def separated (layout : Layout) (depth : Nat) (elements : List Text) : Text :=
  [','].intercalate (elements.map fun e => lineBreak layout (depth + 1) ++ e)

/-- Brackets around elements: they open, the elements stand between them, and they close. -/
theorem bracketed_of_ne_nil (layout : Layout) (depth : Nat) (opening closing : Char)
    {elements : List Text} (nonempty : elements ≠ []) :
    bracketed layout depth opening closing elements =
      opening :: (separated layout depth elements ++ (lineBreak layout depth ++ [closing])) := by
  have filled : elements.isEmpty = false := by simpa using nonempty
  simp [bracketed, separated, filled]

/-- The elements begin with the first of them. -/
theorem exists_separated_cons (layout : Layout) (depth : Nat) (e : Text) (others : List Text) :
    ∃ more, separated layout depth (e :: others) = lineBreak layout (depth + 1) ++ (e ++ more) := by
  cases others with
  | nil => exact ⟨[], by simp [separated]⟩
  | cons next others => exact ⟨',' :: separated layout depth (next :: others), by simp [separated]⟩

/-- Behind the first of several elements there is a comma, and then there are the others. -/
theorem separated_cons_cons (layout : Layout) (depth : Nat) (e next : Text)
    (others : List Text) :
    separated layout depth (e :: next :: others) =
      lineBreak layout (depth + 1) ++ e ++ ',' :: separated layout depth (next :: others) := by
  simp [separated]

/-- Between whole elements the commas come up, and they count right inside of the outermost
brackets. -/
theorem over_separated {elements : List Text} (whole : ∀ e ∈ elements, IsWhole e)
    (layout : Layout) (depth : Nat) (innermost : Bracket) (outer : List Bracket) (commas : Nat) :
    Survey.over ⟨.outside, innermost :: outer, commas⟩ (separated layout depth elements) =
      some ⟨.outside, innermost :: outer,
        if outer = [] then commas + (elements.length - 1) else commas⟩ := by
  induction elements generalizing commas with
  | nil => simp [separated]
  | cons e others ih =>
    obtain ⟨first, later⟩ := List.forall_mem_cons.1 whole
    have line : IsWhole (lineBreak layout (depth + 1) ++ e) :=
      (isWhole_lineBreak layout (depth + 1)).append first
    cases others with
    | nil => simp [separated, line innermost outer commas]
    | cons next others =>
      rw [separated_cons_cons, Survey.over_append, line, Option.bind_some, Survey.over_cons,
        step_comma, Option.bind_some, ih later]
      by_cases outermost : outer = []
      · simp [outermost]
        omega
      · simp [outermost]

/-- **Brackets are whole** with whole elements between them: their commas do not count outside.

**Proof sketch.** The opening bracket is put on the stack. Between the brackets no comma is
counted, since all of them stand inside (`over_separated`), and the closing bracket takes its own
opening bracket from the stack again. -/
theorem isWhole_bracketed {elements : List Text} (whole : ∀ e ∈ elements, IsWhole e)
    (layout : Layout) (depth : Nat) (bracket : Bracket) :
    IsWhole (bracketed layout depth bracket.opening bracket.closing elements) := by
  intro innermost outer commas
  by_cases empty : elements = []
  · simp [empty, bracketed, step_opening, step_closing]
  · have between := over_separated whole layout depth bracket (innermost :: outer) commas
    rw [if_neg (List.cons_ne_nil _ _)] at between
    rw [bracketed_of_ne_nil layout depth _ _ empty, Survey.over_cons, step_opening,
      Option.bind_some, Survey.over_append, between, Option.bind_some, Survey.over_append,
      isWhole_lineBreak, Option.bind_some, Survey.over_cons, step_closing]
    rfl

/-! ## Tokens -/

/-- A field with a whole value is whole. -/
theorem isWhole_field (layout : Layout) (name : Text) {value : Text} (whole : IsWhole value) :
    IsWhole (field layout name value) := by
  unfold field
  refine IsWhole.append ((isWhole_string name).append ?_) whole
  cases layout with
  | compact => exact isWhole_of_isPlain (by simp [isPlain, marks])
  | indented => exact isWhole_of_isPlain (by simp [isPlain, marks])

/-- An object of whole values is whole. -/
theorem isWhole_object (layout : Layout) (depth : Nat) {fields : List (Text × Text)}
    (whole : ∀ part ∈ fields, IsWhole part.2) : IsWhole (object layout depth fields) := by
  refine isWhole_bracketed ?_ layout depth .curly
  intro e inside
  obtain ⟨part, given, rfl⟩ := List.mem_map.1 inside
  exact isWhole_field layout part.1 (whole part given)

/-- A span is whole. -/
theorem isWhole_span (layout : Layout) (depth : Nat) (s : Span) :
    IsWhole (span layout depth s) := by
  refine isWhole_object layout depth ?_
  simp [isWhole_number]

/-- A token is whole. -/
theorem isWhole_token (layout : Layout) (depth : Nat) (t : Token) :
    IsWhole (token layout depth t) := by
  refine isWhole_object layout depth ?_
  simp [isWhole_string, isWhole_span]

/-- A token begins with a bracket. -/
theorem head?_token (layout : Layout) (depth : Nat) (t : Token) :
    (token layout depth t).head? = some '\x7b' := by
  simp [token, object, bracketed]

/-- Where the outermost brackets close behind something, there is one element more than there are
commas. -/
theorem arrayLength?_of_over (passes : Survey.over ⟨.outside, [.square], 0⟩ text =
    some ⟨.outside, [], commas⟩) (filled : (text.dropWhile isSpace).head? ≠ some ']') :
    arrayLength? ('[' :: text) = some (commas + 1) := by
  rw [arrayLength?, passes]
  simp [filled]

/-- The text of an array of whole elements that begin with a bracket is as long as they are many,
also with a line feed behind it. -/
theorem arrayLength?_array (layout : Layout) {elements : List Text}
    (whole : ∀ e ∈ elements, IsWhole e) (opens : ∀ e ∈ elements, e.head? = some '\x7b') :
    arrayLength? (array layout 0 elements ++ ['\n']) = some elements.length := by
  cases elements with
  | nil => rfl
  | cons e others =>
    obtain ⟨tail, rfl⟩ := List.head?_eq_some_iff.1 (opens e (List.mem_cons_self ..))
    rw [array, bracketed_of_ne_nil layout 0 _ _ (List.cons_ne_nil _ _), List.cons_append]
    refine arrayLength?_of_over ?_ ?_
    · rw [List.append_assoc, Survey.over_append, over_separated whole, Option.bind_some,
        List.append_assoc, Survey.over_append, isWhole_lineBreak]
      simp [Survey.step, Bracket.closing, isSpace, CharClass.isLineFeed]
    · -- the first element is no closing bracket
      obtain ⟨more, front⟩ := exists_separated_cons layout 0 ('\x7b' :: tail) others
      rw [front, List.append_assoc, List.append_assoc,
        List.dropWhile_append_of_pos isSpace_of_mem_lineBreak]
      simp [isSpace, CharClass.isBlank, CharClass.isLineFeed]

/-- **The array of tokens is as long as their list**, whatever their texts are.

**Proof sketch.** `arrayLength?_array` counts the elements of any array whose elements are whole
and begin with a brace, and `isWhole_token` and `head?_token` say that those of tokens do. -/
theorem arrayLength?_tokens (layout : Layout) (ts : List Token) :
    arrayLength? (tokens layout ts ++ ['\n']) = some ts.length := by
  rw [tokens, arrayLength?_array, List.length_map]
  · intro e inside
    obtain ⟨t, -, rfl⟩ := List.mem_map.1 inside
    exact isWhole_token layout 1 t
  · intro e inside
    obtain ⟨t, -, rfl⟩ := List.mem_map.1 inside
    exact head?_token layout 1 t

/-- A bracket, a quote and a comma in a token add no element. -/
example : arrayLength? (tokens .compact [⟨.stringLiteral, ['"', ']', '"'], ⟨0, 3, 0, 0⟩⟩,
    ⟨.operator, [','], ⟨3, 4, 0, 3⟩⟩] ++ ['\n']) = some 2 := by decide +kernel

end Json

end Lexing
