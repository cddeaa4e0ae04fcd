import Lexing.Text.CharClass

set_option relaxedAutoImplicit false
set_option autoImplicit false

/-!
# Runs

A run of a class is a stretch of members of the class. A leading run of a text is maximal if the
text after it does not go on with another member. Every text has exactly one maximal leading
run, and `List.takeWhile` finds it.

## Main definitions

* `Lexing.Text.Stops` — a text does not go on with a member of a class.
* `Lexing.Text.IsMaximalRun` — a stretch of a text is a run that goes on to neither side.

## Main results

* `Lexing.Text.exists_run` — every text has a maximal leading run.
* `Lexing.Text.takeWhile_run`, `Lexing.Text.dropWhile_run` — a maximal leading run is what is
  taken, and what stands after it is left.
* `Lexing.Text.append_cons_inj` — a text is cut in one way at the first character of a kind.
* `Lexing.Text.cut_append` — a place in two texts side by side lies in one of them.
* `Lexing.Text.IsMaximalRun.unique` — a character lies in at most one maximal run.
-/

namespace Lexing

namespace Text

/-- A text does not go on with a member of a class: it is empty, or its first character is no
member. -/
def Stops (member : Char → Bool) (left : Text) : Prop :=
  ∀ c, left.head? = some c → member c = false

variable {member : Char → Bool}

@[simp] theorem stops_nil : Stops member [] := by
  intro c h
  cases h

@[simp] theorem stops_cons {c : Char} {left : Text} :
    Stops member (c :: left) ↔ member c = false := by
  simp [Stops]

/-- Where a text that is not empty stops, it also stops with more text behind it. -/
theorem Stops.append {left : Text} (stops : Stops member left) (nonempty : left ≠ [])
    (more : Text) : Stops member (left ++ more) := by
  obtain ⟨c, rest, rfl⟩ := List.exists_cons_of_ne_nil nonempty
  exact stops_cons.2 (stops_cons.1 stops)

/-- Where a text stops, a leading part of it also stops alone. -/
theorem Stops.of_append {front left : Text} (stops : Stops member (front ++ left)) :
    Stops member front := by
  cases front with
  | nil => exact stops_nil
  | cons c rest => exact stops_cons.2 (stops_cons.1 stops)

/-- Every text has a maximal leading run. -/
theorem exists_run (member : Char → Bool) (input : Text) :
    ∃ run left, input = run ++ left ∧ (∀ c ∈ run, member c = true) ∧ Stops member left := by
  induction input with
  | nil => exact ⟨[], [], rfl, by simp, stops_nil⟩
  | cons c rest ih =>
    cases hc : member c with
    | false => exact ⟨[], c :: rest, rfl, by simp, stops_cons.2 hc⟩
    | true =>
      obtain ⟨run, left, rfl, inside, stops⟩ := ih
      refine ⟨c :: run, left, rfl, ?_, stops⟩
      intro d hd
      rcases List.mem_cons.1 hd with rfl | hd
      · exact hc
      · exact inside d hd

/-- A maximal leading run is what is taken. -/
theorem takeWhile_run {run left : Text} (inside : ∀ c ∈ run, member c = true)
    (stops : Stops member left) : (run ++ left).takeWhile member = run := by
  rw [List.takeWhile_append_of_pos inside]
  cases left with
  | nil => simp
  | cons c left => rw [List.takeWhile_cons_of_neg (by simp [stops_cons.1 stops]), List.append_nil]

/-- What stands after a maximal leading run is left. -/
theorem dropWhile_run {run left : Text} (inside : ∀ c ∈ run, member c = true)
    (stops : Stops member left) : (run ++ left).dropWhile member = left := by
  rw [List.dropWhile_append_of_pos inside]
  cases left with
  | nil => rfl
  | cons c left => rw [List.dropWhile_cons_of_neg (by simp [stops_cons.1 stops])]

/-- A text is cut in one way at the first character of a kind. -/
theorem append_cons_inj {mark : Char} {front other left rest : Text} (first : mark ∉ front)
    (second : mark ∉ other) (same : front ++ mark :: left = other ++ mark :: rest) :
    front = other ∧ left = rest := by
  have taken {run after : Text} (clear : mark ∉ run) :
      (run ++ mark :: after).takeWhile (· != mark) = run := by
    refine takeWhile_run ?_ (stops_cons.2 (by simp))
    intro c inside
    simpa using ne_of_mem_of_not_mem inside clear
  have fronts : front = other := by rw [← taken first, same, taken second]
  subst fronts
  exact ⟨rfl, (List.cons.inj (List.append_cancel_left same)).2⟩

/-! ## Runs in the middle of a text -/

variable {a b before run left front back after otherBefore otherFront otherBack otherLeft : Text}
  {x : Char}

/-- A place in two texts side by side lies in the first of them or in the second. -/
theorem cut_append (cut : a ++ b = before ++ x :: after) :
    (∃ more, a = before ++ x :: more ∧ after = more ++ b) ∨
      ∃ passed, before = a ++ passed ∧ b = passed ++ x :: after := by
  rcases List.append_eq_append_iff.1 cut with ⟨passed, inside, rest⟩ | ⟨more, inside, rest⟩
  · exact .inr ⟨passed, inside, rest⟩
  · cases more with
    | nil => exact .inr ⟨[], by simpa using inside.symm, by simpa using rest.symm⟩
    | cons y more =>
      obtain ⟨rfl, rfl⟩ := List.cons.inj rest
      exact .inl ⟨more, inside, rfl⟩

/-- A stretch of a text is a maximal run of a class: it is not empty, it holds members only, and
no member stands right before it or right behind it. -/
structure IsMaximalRun (member : Char → Bool) (before run left : Text) : Prop where
  nonempty : run ≠ []
  inside : ∀ c ∈ run, member c = true
  starts : ∀ c, before.getLast? = some c → member c = false
  stops : Stops member left

/-- What a maximal run holds in front of a place is what the members go back to from there. -/
theorem IsMaximalRun.takeWhile_reverse
    (maximal : IsMaximalRun member before (front ++ x :: back) left) :
    (before ++ front).reverse.takeWhile member = front.reverse := by
  rw [List.reverse_append]
  refine takeWhile_run ?_ ?_
  · intro c h
    exact maximal.inside c (List.mem_append_left _ (List.mem_reverse.1 h))
  · intro c h
    exact maximal.starts c (List.head?_reverse ▸ h)

/-- What a maximal run holds behind a place is what the members go on to from there. -/
theorem IsMaximalRun.takeWhile_behind
    (maximal : IsMaximalRun member before (front ++ x :: back) left) :
    (back ++ left).takeWhile member = back := by
  refine takeWhile_run ?_ maximal.stops
  intro c h
  exact maximal.inside c (List.mem_append_right _ (List.mem_cons_of_mem x h))

/-- **Maximal runs do not overlap.** Of the stretches of a text that hold the character at a
place, at most one is a maximal run.

**Proof sketch.** What a maximal run holds in front of the place is the longest stretch of members
that ends there, and what it holds behind is the longest one that begins there. Both are told by
the text around the place (`takeWhile_reverse`, `takeWhile_behind`). -/
theorem IsMaximalRun.unique (one : IsMaximalRun member before (front ++ x :: back) left)
    (other : IsMaximalRun member otherBefore (otherFront ++ x :: otherBack) otherLeft)
    (samePlace : before ++ front = otherBefore ++ otherFront)
    (sameRest : back ++ left = otherBack ++ otherLeft) :
    before = otherBefore ∧ front = otherFront ∧ back = otherBack ∧ left = otherLeft := by
  have fronts : front = otherFront := by
    rw [← List.reverse_inj, ← one.takeWhile_reverse, ← other.takeWhile_reverse, samePlace]
  have backs : back = otherBack := by
    rw [← one.takeWhile_behind, ← other.takeWhile_behind, sameRest]
  subst fronts backs
  exact ⟨List.append_cancel_right samePlace, rfl, rfl, List.append_cancel_left sameRest⟩

end Text

end Lexing
