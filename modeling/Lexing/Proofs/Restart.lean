import Lexing.Proofs.Reachable
import Lexing.Proofs.Relocation

set_option relaxedAutoImplicit false
set_option autoImplicit false

/-!
# Restart

A session remembers nothing but its place. Whatever calls have led there, further calls come to
what the same calls on the rest of the text alone come to, with all places counted from where the
whole text begins. This also holds where an earlier call gave up in the middle of a number or a
string, and where the calls change their suppression and mode as they go.

## Main definitions

* `Lexing.Session.takeAll` — calls with a suppression and a mode each.

## Main results

* `Lexing.Session.takeAll_of_within` — calls within a longer text come to the same.
* `Lexing.Session.Reads.within` — a session reads the rest of its text as a text within the whole.
* `Lexing.Session.restart` — further calls depend on the rest of the text alone.
-/

namespace Lexing

namespace Session

/-- Calls that hand over their tokens, one after another, each with a suppression and a mode of
its own: what each comes to, with the session after it. -/
def takeAll (s : Session) : List (Suppression × Mode) → List (Outcome × Session)
  | [] => []
  | (suppression, mode) :: later =>
    let call := s.take suppression mode
    call :: call.2.takeAll later

variable {s t : Session} {base : Position} {u v : Text}

/-- **Calls within a longer text** come to the same, and so do the places after them.

**Proof sketch.** Induction on the calls, with `take_of_within` for each of them. It gives the
moved outcome, the moved place, and sessions that are one within the other again. -/
theorem takeAll_of_within (h : Cursor.Within base s.cursor t.cursor)
    (calls : List (Suppression × Mode)) :
    (t.takeAll calls).map (fun item => (item.1, item.2.position)) =
      (s.takeAll calls).map fun item =>
        (item.1.within t.source base, base.within item.2.position) := by
  induction calls generalizing s t with
  | nil => rfl
  | cons call later ih =>
    obtain ⟨suppression, mode⟩ := call
    cases made : s.take suppression mode with
    | mk o next =>
      obtain ⟨there, taken, after, same⟩ := take_of_within h made
      have place : there.position = base.within next.position := after.position
      have rest := ih after
      rw [same] at rest
      simp only [takeAll, made, taken, List.map_cons, place, rest]

/-- A session that has come to the end of `u` in a text `u ++ v` reads `v` as a text within the
whole. -/
theorem Reads.within (reads : s.Reads (u ++ v)) (stands : s.position.offset = u.length) :
    Cursor.Within (.behind u) (ofText v).cursor s.cursor := by
  have offset : s.cursor.position.offset = u.length := stands
  have source : s.cursor.source = u ++ v := reads.text
  refine ⟨?_, ?_⟩
  · rw [reads.placed.cut.2, source, offset, List.drop_left]
    rfl
  · rw [reads.placed.position_eq_behind, source, offset, List.take_left]
    exact (Position.within_start _).symm

/-- **Sessions restart anywhere.** Whatever calls have led to the end of `u` in a text `u ++ v`,
with whatever suppressions and modes and through faults, further calls come one by one to what
the same calls come to on `v` alone, and so do the places that they leave, all counted from where
the whole text begins: lines, characters and bytes grow by those of `u`, and columns grow by the
length of its last line where they lie on the first line of `v`.

**Proof sketch.** A session that stands behind `u` has `v` left, so it is within the whole text as
the start of `v` is (`Reads.within`), and `takeAll_of_within` compares the calls. -/
theorem restart (u v : Text) (s : Session) (reached : (ofText (u ++ v)).Reaches s)
    (stands : s.position.offset = u.length) (calls : List (Suppression × Mode)) :
    (s.takeAll calls).map (fun item => (item.1, item.2.position)) =
      ((ofText v).takeAll calls).map fun item =>
        (item.1.within (u ++ v) (.behind u), Position.within (.behind u) item.2.position) := by
  have reads : s.Reads (u ++ v) := reached.reads (reads_ofText _)
  have moved := takeAll_of_within (reads.within stands) calls
  rw [reads.text] at moved
  exact moved

/-- Reading goes on in the middle of a string whose escape was at fault: the word behind the
backslash is in the first line, and the next fault is in the second. -/
theorem restart_in_string :
    (ofText ['"', '\\', 'q', '\n', '0', 'x']).Reaches
        ⟨⟨['\\', '"'], ['q', '\n', '0', 'x'], ⟨0, 2, 2, 2⟩⟩, none⟩ ∧
      (takeAll ⟨⟨['\\', '"'], ['q', '\n', '0', 'x'], ⟨0, 2, 2, 2⟩⟩, none⟩
          [(.all, .literal), (.all, .full)]).map (fun item => (item.1, item.2.position)) =
        ((ofText ['q', '\n', '0', 'x']).takeAll [(.all, .literal), (.all, .full)]).map fun item =>
          (item.1.within ['"', '\\', 'q', '\n', '0', 'x'] ⟨0, 2, 2, 2⟩,
            Position.within ⟨0, 2, 2, 2⟩ item.2.position) := by
  have call : (ofText ['"', '\\', 'q', '\n', '0', 'x']).take .none .full =
      (.failed (.fault (.ofPlace (.unexpectedEscape 'q') ['"', '\\', 'q', '\n', '0', 'x'] 0 1)),
        ⟨⟨['\\', '"'], ['q', '\n', '0', 'x'], ⟨0, 2, 2, 2⟩⟩, none⟩) := by decide +kernel
  have reached : (ofText ['"', '\\', 'q', '\n', '0', 'x']).Reaches
      ⟨⟨['\\', '"'], ['q', '\n', '0', 'x'], ⟨0, 2, 2, 2⟩⟩, none⟩ := .single ⟨_, .take call⟩
  exact ⟨reached, restart ['"', '\\'] ['q', '\n', '0', 'x'] _ reached rfl _⟩

end Session

end Lexing
