import Lexing.Text.Bytes

set_option relaxedAutoImplicit false
set_option autoImplicit false

/-!
# Slices by byte offsets

Which pairs of byte offsets cut a stretch out of a text, and which stretch it is. An offset inside
a character cuts nothing out, and neither do offsets that are out of order or behind the end.

## Main definitions

* `Lexing.Text.IsBoundary` — a byte offset between two characters, or at an end of the text.

## Main results

* `Lexing.Text.slice?_eq_some_iff` — which stretch is cut out.
* `Lexing.Text.slice?_isSome_iff` — which offsets cut out a stretch.
-/

namespace Lexing

namespace Text

variable {text part left : Text} {n start stop : Nat}

/-- A byte offset between two characters of a text, or at one of its ends. -/
def IsBoundary (text : Text) (n : Nat) : Prop :=
  ∃ before left, text = before ++ left ∧ byteLength before = n

/-- No boundary lies behind the end of the text. -/
theorem IsBoundary.le (boundary : IsBoundary text n) : n ≤ byteLength text := by
  obtain ⟨before, left, rfl, rfl⟩ := boundary
  rw [byteLength_append]
  omega

/-- Only the empty text has no bytes. -/
theorem eq_nil_of_byteLength (empty : byteLength text = 0) : text = [] := by
  have short := length_le_byteLength text
  apply List.eq_nil_of_length_eq_zero
  omega

/-- Two leading parts of a text with as many bytes are the same. -/
theorem eq_of_byteLength_eq {before other rest : Text} (same : before ++ left = other ++ rest)
    (bytes : byteLength before = byteLength other) : before = other ∧ left = rest := by
  have behind : dropBytes? (before ++ left) (byteLength before) = some left :=
    dropBytes?_byteLength before left
  rw [same, bytes, dropBytes?_byteLength] at behind
  obtain rfl : rest = left := Option.some.inj behind
  exact ⟨List.append_cancel_right same, rfl⟩

/-- What is left behind the first bytes is what stands behind a leading part of that length. -/
theorem dropBytes?_eq_some_iff :
    dropBytes? text n = some left ↔ ∃ before, text = before ++ left ∧ byteLength before = n := by
  constructor
  · intro dropped
    fun_induction dropBytes? text n with
    | case1 text => exact ⟨[], Option.some.inj dropped, rfl⟩
    | case2 n => cases dropped
    | case3 c rest n fits ih =>
      obtain ⟨before, rfl, length⟩ := ih dropped
      refine ⟨c :: before, rfl, ?_⟩
      rw [byteLength_cons]
      omega
    | case4 c rest n wide => cases dropped
  · rintro ⟨before, rfl, rfl⟩
    exact dropBytes?_byteLength before left

/-- The first bytes of a text are a leading part of that length. -/
theorem takeBytes?_eq_some_iff :
    takeBytes? text n = some part ↔ ∃ left, text = part ++ left ∧ byteLength part = n := by
  constructor
  · intro taken
    fun_induction takeBytes? text n generalizing part with
    | case1 text =>
      obtain rfl : [] = part := Option.some.inj taken
      exact ⟨text, rfl, rfl⟩
    | case2 n => cases taken
    | case3 c rest n fits ih =>
      obtain ⟨others, found, rfl⟩ := Option.map_eq_some_iff.1 taken
      obtain ⟨left, rfl, length⟩ := ih found
      refine ⟨left, rfl, ?_⟩
      rw [byteLength_cons]
      omega
    | case4 c rest n wide => cases taken
  · rintro ⟨left, rfl, rfl⟩
    exact takeBytes?_byteLength part left

/-- **What is cut out.** A slice is the stretch of the text between its two offsets.

**Proof sketch.** A slice drops up to its first offset and takes up to its second one, and each of
these steps is told by its own iff (`dropBytes?_eq_some_iff`, `takeBytes?_eq_some_iff`). -/
theorem slice?_eq_some_iff :
    slice? text start stop = some part ↔
      ∃ before left, text = before ++ part ++ left ∧ byteLength before = start ∧
        byteLength (before ++ part) = stop := by
  constructor
  · intro cut
    unfold slice? at cut
    split at cut
    · next ordered =>
      obtain ⟨rest, dropped, taken⟩ := Option.bind_eq_some_iff.1 cut
      obtain ⟨before, rfl, first⟩ := dropBytes?_eq_some_iff.1 dropped
      obtain ⟨left, rfl, length⟩ := takeBytes?_eq_some_iff.1 taken
      refine ⟨before, left, (List.append_assoc before part left).symm, first, ?_⟩
      rw [byteLength_append]
      omega
    · cases cut
  · rintro ⟨before, left, rfl, rfl, rfl⟩
    exact slice?_byteLength before part left

/-- **Where something is cut out.** A slice exists if and only if its offsets are in order and each
of them is a boundary. -/
theorem slice?_isSome_iff :
    (slice? text start stop).isSome = true ↔
      start ≤ stop ∧ IsBoundary text start ∧ IsBoundary text stop := by
  rw [Option.isSome_iff_exists]
  constructor
  · rintro ⟨part, cut⟩
    obtain ⟨before, left, rfl, rfl, rfl⟩ := slice?_eq_some_iff.1 cut
    refine ⟨?_, ⟨before, part ++ left, by simp, rfl⟩, ⟨before ++ part, left, rfl, rfl⟩⟩
    rw [byteLength_append]
    omega
  · rintro ⟨ordered, ⟨before, left, split, first⟩, ⟨through, rest, whole, last⟩⟩
    -- of two leading parts of one text the shorter one begins the longer one
    have comparable : before <+: through ∨ through <+: before :=
      List.prefix_or_prefix_of_prefix ⟨left, split.symm⟩ ⟨rest, whole.symm⟩
    obtain ⟨part, rfl⟩ : before <+: through := by
      rcases comparable with shorter | ⟨more, rfl⟩
      · exact shorter
      · rw [byteLength_append] at first
        obtain rfl : more = [] := eq_nil_of_byteLength (by omega)
        simp
    exact ⟨part, slice?_eq_some_iff.2 ⟨before, rest, whole, first, last⟩⟩

end Text

end Lexing
