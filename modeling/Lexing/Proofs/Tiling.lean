import Lexing.Proofs.Coverage
import Lexing.Proofs.Found
import Lexing.Proofs.Gathering

set_option relaxedAutoImplicit false
set_option autoImplicit false

/-!
# Tilings

The tokens of an accepted text tile it. Each of them fills a stretch of the text that is a lexeme in
front of what follows it, and every character that is not suppressed lies in the stretch of exactly
one of them. Which tokens a text has can then be told from its characters, without going back to the
calls that found them.

## Main definitions

* `Lexing.Token.Holds` — a character of a text lies in the stretch of a token.
* `Lexing.Tiling` — the tokens fill all of a text but what is suppressed.

## Main results

* `Lexing.Tiling.eq_of_holds` — a character lies in the stretch of one token only.
* `Lexing.tiling_of_accepted` — the tokens of an accepted text tile it.
* `Lexing.Session.drain_of_fills` — lexemes that stand in both modes are read alike in both.
-/

namespace Lexing

open Grammar

variable {suppression : Suppression} {mode otherMode : Mode} {source before raw left after : Text}
  {x : Char} {t u : Token} {tokens : List Token}

/-! ## Characters of tokens -/

namespace Token

/-- The character `x` between `before` and `after` lies in the stretch that a token fills. -/
def Holds (mode : Mode) (source before : Text) (x : Char) (after : Text) (t : Token) : Prop :=
  ∃ start front back left, before = start ++ front ∧ after = back ++ left ∧
    t.Fills mode source start (front ++ x :: back) left

/-- Every character of a stretch lies in it. -/
theorem Fills.holds {front back : Text}
    (fills : t.Fills mode source before (front ++ x :: back) left) :
    t.Holds mode source (before ++ front) x (back ++ left) :=
  ⟨before, front, back, left, rfl, rfl, fills⟩

/-- A character that a token holds lies between the ends of its span. -/
theorem Holds.start_le_lt_stop (holds : t.Holds mode source before x after) :
    t.span.start ≤ Text.byteLength before ∧ Text.byteLength before < t.span.stop := by
  obtain ⟨start, front, back, left, rfl, rfl, fills⟩ := holds
  have positive := x.utf8Size_pos
  rw [fills.start_eq, fills.stop_eq]
  simp only [Text.byteLength_append, Text.byteLength_cons]
  omega

end Token

/-! ## Texts as tokens side by side -/

/-- The tokens tile a text up to what is suppressed. Each fills a stretch that does not begin with a
suppressed character, each character is suppressed or held by a token, and the tokens lie one behind
the other. -/
structure Tiling (suppression : Suppression) (mode : Mode) (source : Text) (tokens : List Token) :
    Prop where
  fills : ∀ t ∈ tokens, ∃ before raw left, t.Fills mode source before raw left ∧
    Text.Stops suppression.suppresses raw
  holds : ∀ before x after, source = before ++ x :: after →
    suppression.suppresses x = true ∨ ∃ t ∈ tokens, t.Holds mode source before x after
  ordered : Span.Ordered (tokens.map Token.span)

namespace Tiling

/-- **One token a character.** Tokens that hold the same character are the same.

**Proof sketch.** Of two different tokens one ends before the other begins, as their spans are in
order. The character lies within the spans of both. -/
theorem eq_of_holds (tiling : Tiling suppression mode source tokens) (mem : t ∈ tokens)
    (other : u ∈ tokens) (holds : t.Holds mode source before x after)
    (otherHolds : u.Holds otherMode source before x after) : t = u := by
  have behind := List.pairwise_map.1 tiling.ordered.2
  have apart : t = u ∨ t.span.stop ≤ u.span.start ∨ u.span.stop ≤ t.span.start :=
    List.Pairwise.forall_of_forall_of_flip
      (R := fun t u => t = u ∨ t.span.stop ≤ u.span.start ∨ u.span.stop ≤ t.span.start)
      (fun _ _ => .inl rfl) (behind.imp fun h => .inr (.inl h))
      (behind.imp fun h => .inr (.inr h)) mem other
  have bounds := holds.start_le_lt_stop
  have otherBounds := otherHolds.start_le_lt_stop
  rcases apart with same | first | last
  · exact same
  · omega
  · omega

end Tiling

/-! ## Accepted runs -/

namespace Session

variable {s next : Session}

/-- A run that is accepted comes to its tokens and to nothing else. -/
theorem outcomes_of_accepted
    (accepted : Outcome.gather (s.outcomes suppression mode) = .ok tokens) :
    s.outcomes suppression mode = tokens.map .token := by
  refine accepted_induction (motive := fun s tokens _ =>
    s.outcomes suppression mode = tokens.map .token) ?_ ?_ accepted
  · intro s next call
    exact outcomes_of_finished call
  · intro s t next tokens last call ih
    rw [outcomes_of_goesOn call rfl, ih]
    rfl

/-- The spans of the tokens of an accepted run are those that its calls come to. -/
theorem tokenSpans_of_accepted
    (accepted : Outcome.gather (s.outcomes suppression mode) = .ok tokens) :
    tokenSpans (s.drain suppression mode).1 = tokens.map Token.span := by
  have outcomes : (s.drain suppression mode).1.map Prod.fst = tokens.map .token :=
    outcomes_of_accepted accepted
  have spans : tokenSpans (s.drain suppression mode).1 =
      ((s.drain suppression mode).1.map Prod.fst).filterMap fun o => o.token?.map Token.span := by
    rw [List.filterMap_map]
    rfl
  rw [spans, outcomes, List.filterMap_map]
  exact congrFun (List.filterMap_eq_map (f := Token.span)) tokens

/-- The tokens of an accepted run fill stretches of its text. -/
theorem fills_of_accepted (placed : s.cursor.Placed)
    (accepted : Outcome.gather (s.outcomes suppression mode) = .ok tokens) :
    ∀ t ∈ tokens, ∃ before raw left, t.Fills mode s.source before raw left ∧
      Text.Stops suppression.suppresses raw := by
  refine accepted_induction (motive := fun s tokens _ => s.cursor.Placed →
    ∀ t ∈ tokens, ∃ before raw left, t.Fills mode s.source before raw left ∧
      Text.Stops suppression.suppresses raw) ?_ ?_ accepted placed
  · intro s next call _ t mem
    cases mem
  · intro s t next tokens last call ih placed u mem
    have later := ih (placed_of_take placed call)
    rw [source_of_take call] at later
    obtain ⟨d, rfl, pulls⟩ := pulls_of_take call
    obtain ⟨trivia, raw, -, -, kept, fills, -⟩ := pulls.exists_fills placed
    rcases List.mem_cons.1 mem with rfl | mem
    · exact ⟨_, raw, d.rest, fills, kept.of_append⟩
    · exact later u mem

/-- Every character that an accepted run reads is suppressed, or a token of the run holds it.

**Proof sketch.** Induction along the accepted run. Each call cuts what is left into what it passes
over, its lexeme and what is left behind it (`exists_fills`), and a character lies in one of these
three (`Text.cut_append`). -/
theorem holds_of_accepted (placed : s.cursor.Placed)
    (accepted : Outcome.gather (s.outcomes suppression mode) = .ok tokens) :
    ∀ passed x after, s.cursor.rest = passed ++ x :: after →
      suppression.suppresses x = true ∨
        ∃ t ∈ tokens, t.Holds mode s.source (s.cursor.before.reverse ++ passed) x after := by
  refine accepted_induction (motive := fun s tokens _ => s.cursor.Placed →
    ∀ passed x after, s.cursor.rest = passed ++ x :: after →
      suppression.suppresses x = true ∨
        ∃ t ∈ tokens, t.Holds mode s.source (s.cursor.before.reverse ++ passed) x after)
    ?_ ?_ accepted placed
  · intro s next call _ passed x after cut
    obtain ⟨d, rfl, pulls⟩ := pulls_of_take call
    cases pulls with
    | finished suppressed => exact .inl (suppressed x (cut ▸ by simp))
  · intro s t next tokens last call ih placed passed x after cut
    have later := ih (placed_of_take placed call)
    rw [source_of_take call] at later
    obtain ⟨d, rfl, pulls⟩ := pulls_of_take call
    obtain ⟨trivia, raw, split, suppressed, -, fills, moved⟩ := pulls.exists_fills placed
    -- the character is passed over, lies in the lexeme, or is left to the later calls
    rcases Text.cut_append (split.symm.trans cut) with ⟨more, rfl, -⟩ | ⟨front, rfl, here⟩
    · exact .inl (suppressed x (by simp))
    · rcases Text.cut_append here with ⟨back, rfl, rfl⟩ | ⟨behind, rfl, there⟩
      · refine .inr ⟨t, List.mem_cons_self .., ?_⟩
        rw [← List.append_assoc]
        exact fills.holds
      · have place : d.before.reverse = s.cursor.before.reverse ++ (trivia ++ raw) := by
          have joined : s.cursor.rest = (trivia ++ raw) ++ d.rest := by
            rw [split, List.append_assoc]
          rw [moved, Cursor.skip_length joined, List.reverse_append, List.reverse_reverse]
        rcases later behind x after there with passedOver | ⟨u, mem, holds⟩
        · exact .inl passedOver
        · refine .inr ⟨u, List.mem_cons_of_mem t mem, ?_⟩
          rw [place] at holds
          simpa only [List.append_assoc] using holds

end Session

/-- **Accepted texts are tiled.** The tokens of an accepted text tile it up to what is
suppressed.

**Proof sketch.** Each token fills the stretch that its call has used up (`fills_of_accepted`), and
each character that is not suppressed is in one of the stretches (`holds_of_accepted`). The order
of the spans is that of the whole run (`covers_drain`). -/
theorem tiling_of_accepted
    (accepted : Outcome.gather ((Session.ofText source).outcomes suppression mode) = .ok tokens) :
    Tiling suppression mode source tokens := by
  have placed : (Session.ofText source).cursor.Placed := Cursor.placed_ofText source
  have covers := Session.covers_drain placed suppression mode
  refine ⟨Session.fills_of_accepted placed accepted, ?_, ?_⟩
  · intro before x after cut
    exact Session.holds_of_accepted placed accepted before x after cut
  · rw [← Session.tokenSpans_of_accepted accepted]
    exact covers.ordered

/-! ## Two modes -/

namespace Session

variable {s next : Session}

/-- A call comes to the same in another mode if what its token fills is a lexeme there, too. -/
theorem take_of_fills (placed : s.cursor.Placed)
    (call : s.take suppression mode = (.token t, next))
    (fills : t.Fills otherMode s.source before raw left) :
    s.take suppression otherMode = (.token t, next) := by
  obtain ⟨d, rfl, pulls⟩ := pulls_of_take call
  obtain ⟨trivia, stretch, split, suppressed, kept, found, moved⟩ := pulls.exists_fills placed
  obtain ⟨rfl, rfl, rfl⟩ := fills.unique found
  have there := Cursor.pull_of_lexeme split suppressed kept fills.lexeme fills.follows
  rw [take, there, moved, placed.after_eq, placed.after_eq, ← List.append_assoc, ← fills.span]

/-- **Two modes read alike** where every token that the one comes to fills a lexeme of the other.

**Proof sketch.** Induction along the accepted run. Where it comes to a token, this fills a lexeme
of the other mode at the same place, and the other mode takes it as well (`take_of_fills`). Where
it ends, all text left is suppressed, in any mode. -/
theorem drain_of_fills (placed : s.cursor.Placed)
    (accepted : Outcome.gather (s.outcomes suppression mode) = .ok tokens)
    (fills : ∀ t ∈ tokens, ∃ before raw left, t.Fills otherMode s.source before raw left) :
    s.drain suppression otherMode = s.drain suppression mode := by
  refine accepted_induction (motive := fun s tokens _ => s.cursor.Placed →
    (∀ t ∈ tokens, ∃ before raw left, t.Fills otherMode s.source before raw left) →
      s.drain suppression otherMode = s.drain suppression mode) ?_ ?_ accepted placed fills
  · intro s next call _ _
    obtain ⟨d, rfl, pulls⟩ := pulls_of_take call
    cases pulls with
    | finished suppressed =>
      have there : s.take suppression otherMode =
          (.finished, ⟨s.cursor.skip s.cursor.rest.length, none⟩) := by
        rw [take, Cursor.pull_of_suppressed suppressed]
      rw [drain_of_finished call, drain_of_finished there]
  · intro s t next tokens last call ih placed fills
    obtain ⟨before, raw, left, here⟩ := fills t (List.mem_cons_self ..)
    have there := take_of_fills placed call here
    have later := ih (placed_of_take placed call) (by
      rw [source_of_take call]
      exact fun u mem => fills u (List.mem_cons_of_mem t mem))
    rw [drain_of_goesOn call rfl, drain_of_goesOn there rfl, later]

end Session

end Lexing
