import QuestionDesk.Clock

/-!
# Timelines

Time moves only when it is told to. On its way it stops at every timer, in order, and what goes on
settles there before time moves on, so nothing happens later than it is due.
-/
namespace QuestionDesk.Simulation

/-- How a state changes as time goes by. -/
structure Timeline (σ : Type) where
  /-- The earliest moment at which a timer is due. -/
  nextDue? : σ → Option Micros
  /-- Lets everything happen that can happen at a moment. -/
  settle : Micros → σ → σ

namespace Timeline

variable {σ : Type}

/-- Moves time to a moment and lets everything happen that is due on the way. -/
def advance (timeline : Timeline σ) (now target : Micros) (state : σ) : σ :=
  match timeline.nextDue? state with
  | some due =>
    if _onTheWay : now < due ∧ due ≤ target then
      advance timeline due target (timeline.settle due state)
    else timeline.settle target state
  | none => timeline.settle target state
  termination_by (target - now).toNat
  decreasing_by grind

/-- Where no timer is due, time moves at once. -/
theorem advance_of_none (timeline : Timeline σ) (now target : Micros) {state : σ}
    (quiet : timeline.nextDue? state = none) :
    timeline.advance now target state = timeline.settle target state := by
  rw [advance, quiet]

end Timeline

end QuestionDesk.Simulation
