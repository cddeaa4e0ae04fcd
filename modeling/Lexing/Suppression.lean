import Lexing.Text.CharClass

set_option relaxedAutoImplicit false
set_option autoImplicit false

/-!
# Suppression of trivia

A suppression says which characters between tokens are passed over without a token of their
own. It is a set of flags, kept as the bits of a byte. Two flags have a meaning; the other bits
are carried along by the set operations and ignored when text is read.

## Main definitions

* `Lexing.Suppression` — a set of flags.
* `Lexing.Suppression.suppresses` — the characters that a suppression passes over.
* `Lexing.Suppression.names` — the names of the flags that a set is made of.
* `Lexing.Suppression.describe` — a set written out by names and left-over bits.

## Main results

* `Lexing.Suppression.suppresses_truncate` — bits without a meaning change nothing.
-/

namespace Lexing

/-- A set of flags, kept as the bits of a byte. -/
structure Suppression where
  bits : UInt8
deriving DecidableEq, Repr

namespace Suppression

/-- Nothing is suppressed. -/
def none : Suppression := ⟨0⟩

/-- Spaces, tabs and carriage returns are suppressed. -/
def blanks : Suppression := ⟨1⟩

/-- Line feeds are suppressed. -/
def lineFeeds : Suppression := ⟨2⟩

/-- Both flags together. -/
def all : Suppression := ⟨3⟩

/-! ## Set operations -/

/-- Whether every flag of `b` is in `a`. -/
def contains (a b : Suppression) : Bool := a.bits &&& b.bits == b.bits

/-- Whether the two sets share a flag. -/
def intersects (a b : Suppression) : Bool := a.bits &&& b.bits != 0

/-- Whether no bit is set. -/
def isEmpty (a : Suppression) : Bool := a.bits == 0

/-- Whether both flags with a meaning are set. -/
def isAll (a : Suppression) : Bool := a.contains all

/-- The flags of either set. -/
def union (a b : Suppression) : Suppression := ⟨a.bits ||| b.bits⟩

/-- The flags that the two sets share. -/
def inter (a b : Suppression) : Suppression := ⟨a.bits &&& b.bits⟩

/-- The flags of `a` that are not in `b`. -/
def diff (a b : Suppression) : Suppression := ⟨a.bits &&& b.bits.complement⟩

/-- The flags in exactly one of the two sets. -/
def symmDiff (a b : Suppression) : Suppression := ⟨a.bits ^^^ b.bits⟩

/-- The set with only the flags that have a meaning. -/
def truncate (a : Suppression) : Suppression := a.inter all

/-- The flags with a meaning that are not in the set. -/
def compl (a : Suppression) : Suppression := truncate ⟨a.bits.complement⟩

/-- The set with the given bits, if each of them has a meaning. -/
def ofBits? (bits : UInt8) : Option Suppression :=
  if all.contains ⟨bits⟩ then some ⟨bits⟩ else Option.none

/-! ## Suppressed characters -/

/-- Whether blanks are passed over. -/
def suppressesBlanks (a : Suppression) : Bool := a.contains blanks

/-- Whether line feeds are passed over. -/
def suppressesLineFeeds (a : Suppression) : Bool := a.contains lineFeeds

/-- Whether a character between tokens is passed over. -/
def suppresses (a : Suppression) (c : Char) : Bool :=
  (a.suppressesBlanks && CharClass.isBlank c) || (a.suppressesLineFeeds && CharClass.isLineFeed c)

/-! ## Names -/

/-- The flags by name, in the order in which a set is taken apart. -/
def flags : List (String × Suppression) :=
  [("SKIP_SPACE", blanks), ("SKIP_NEWLINE", lineFeeds), ("SKIP_ALL", all)]

/-- The flag of a name. -/
def ofName? (name : String) : Option Suppression :=
  flags.lookup name

/-- The names of the flags in `whole` that still add to what is left of it, and the bits that
no name covers. -/
def takeApart (whole : Suppression) :
    List (String × Suppression) → Suppression → List String × Suppression
  | [], left => ([], left)
  | (name, flag) :: others, left =>
    if whole.contains flag && left.intersects flag then
      let (names, rest) := takeApart whole others (left.diff flag)
      (name :: names, rest)
    else takeApart whole others left

/-- The names of the flags that the set is made of; a flag that adds nothing is left out. -/
def names (a : Suppression) : List String :=
  (a.takeApart flags a).1

/-- The bits that belong to no named flag. -/
def unnamed (a : Suppression) : Suppression :=
  (a.takeApart flags a).2

/-- A byte as a hexadecimal number with the mark `0x`. -/
def hexByte (bits : UInt8) : String :=
  "0x" ++ String.ofList (Nat.toDigits 16 bits.toNat)

/-- The set written out: the names of its flags, then the bits without a name, separated by
bars. The empty set is written as the number zero. -/
def describe (a : Suppression) : String :=
  let parts := a.names ++ if a.unnamed.isEmpty then [] else [hexByte a.unnamed.bits]
  if parts.isEmpty then hexByte 0 else " | ".intercalate parts

/-! ## Basic facts -/

@[simp] theorem suppressesBlanks_none : none.suppressesBlanks = false := rfl

@[simp] theorem suppressesLineFeeds_none : none.suppressesLineFeeds = false := rfl

/-- Without flags every character is kept. -/
@[simp] theorem suppresses_none (c : Char) : none.suppresses c = false := by
  simp [suppresses]

/-- Bits without a meaning do not change what is suppressed. -/
theorem suppresses_truncate (a : Suppression) : a.truncate.suppresses = a.suppresses := by
  have blanks_eq : a.truncate.suppressesBlanks = a.suppressesBlanks := by
    simp only [suppressesBlanks, contains, truncate, inter, blanks, all, UInt8.and_assoc]
    rfl
  have feeds_eq : a.truncate.suppressesLineFeeds = a.suppressesLineFeeds := by
    simp only [suppressesLineFeeds, contains, truncate, inter, lineFeeds, all, UInt8.and_assoc]
    rfl
  funext c
  rw [suppresses, suppresses, blanks_eq, feeds_eq]

end Suppression

end Lexing
