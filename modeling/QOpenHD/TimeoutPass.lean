/-
QOpenHD/TimeoutPass.lean

One timeout pass (`CmdSender::handle_timeout`, `XParam::check_timeout_param_set` and
`XParam::check_timeout_param_get_all`).  The three loops are one, that of `RetryQueue`:
it sets the iterator to what `erase` returns, and then the loop advances it.

* **`timeoutPass_iff`** — a pass looks at every running command once, and does with
  it what it should, exactly if none has expired when the loop gets to it.
-/
import QOpenHD.CmdSender
import QOpenHD.XParam

namespace QOpenHD

open Checked RetryQueue

/-- No command is due that has been sent as often as wanted. -/
def NoneExpired {π μ ρ : Type} (clock : ℕ → ℤ) (q : Queue π μ ρ) : Prop :=
  ∀ e ∈ q.running.zipIdx, ¬ e.1.Expired (clock (2 * e.2))

/-- **A timeout pass handles every running command exactly if none has expired.** -/
theorem timeoutPass_iff (clock : ℕ → ℤ) :
    (∀ s : CmdSender,
      HandlesEvery CmdSender.protocol clock s (s.handleTimeout clock) ↔ NoneExpired clock s) ∧
    (∀ s : ParamSets,
      HandlesEvery ParamSets.protocol clock s (s.checkTimeoutParamSet clock) ↔
        NoneExpired clock s) ∧
    ∀ s : GetAlls,
      HandlesEvery GetAlls.protocol clock s (s.checkTimeoutParamGetAll clock) ↔
        NoneExpired clock s :=
  ⟨handlesEvery_pass_iff _ clock, handlesEvery_pass_iff _ clock, handlesEvery_pass_iff _ clock⟩

/-- A command that was sent three times, a second ago. -/
def unanswered (resultCb : ℕ) : Job CommandLong where
  payload := CmdSender.rebootGnd
  cb := resultCb
  nWanted := 3
  retransmitDelay := milliseconds 500
  nTransmissions := 3
  lastTransmission := 0

/-- Of two commands that expire together the second is passed over; where there is only one,
the iterator leaves the list. -/
theorem not_handlesEvery :
    ¬ (∀ (clock : ℕ → ℤ) (s : CmdSender),
      HandlesEvery CmdSender.protocol clock s (s.handleTimeout clock)) ∧
    CmdSender.handleTimeout (fun _ => milliseconds 1000) ⟨[unanswered 0, unanswered 1], [], []⟩ =
      .ok ⟨[unanswered 1], [], [(0, ⟨none, 3⟩)]⟩ ∧
    CmdSender.handleTimeout (fun _ => milliseconds 1000) ⟨[unanswered 0], [], []⟩ =
      .error .outOfBounds := by
  refine ⟨fun h => ?_, rfl, rfl⟩
  obtain ⟨running, sent, expired, hall⟩ :=
    (h (fun _ => milliseconds 1000) ⟨[unanswered 0, unanswered 1], [], []⟩).looked
  cases hall

end QOpenHD
