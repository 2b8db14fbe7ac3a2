import QuestionDesk.Promotion
import QuestionDesk.Simulation.Timeline

/-!
# Promotions

A promoter at work on scripted runs: each run ends with the next outcome of the script, and with no
question promoted once the script is at its end.
-/
namespace QuestionDesk.Simulation

/-- A promoter and its scripted runs. -/
structure Promotions where
  /-- The promoter. -/
  promoter : Promoter
  /-- The moment. -/
  now : Micros := 0
  /-- How the next runs end. -/
  script : List (Except Failure Int)
  /-- The moments of the runs so far. -/
  runs : List Micros := []

namespace Promotions

/-- A run, and how it ends. -/
def run (promotions : Promotions) : Except Failure Int × Promotions :=
  (promotions.script.head?.getD (.ok 0),
    { promotions with
      script := promotions.script.drop 1
      runs := promotions.runs ++ [promotions.now] })

/-- Lets the promoter run, if it is due at a moment. -/
def settle (moment : Micros) (promotions : Promotions) : Promotions :=
  let moved := { promotions with now := moment }
  if moved.promoter.isDue moment then
    let (outcome, after) := moved.run
    { after with promoter := after.promoter.afterRun moment outcome }
  else moved

/-- The timer of the promoter. -/
def timeline : Timeline Promotions := ⟨(·.promoter.nextDue?), settle⟩

/-- Moves time by a span. -/
def advance (promotions : Promotions) (span : Micros) : Promotions :=
  timeline.advance promotions.now (promotions.now + span) promotions

/-- The runs so far: when each was, the threshold and the hours. -/
def runsValue (promotions : Promotions) : Value :=
  .list (promotions.runs.map fun moment =>
    .list [Micros.value moment, .int promotions.promoter.threshold,
      .int promotions.promoter.windowHours])

/-- What the promoter is doing, as a value. -/
def errandValue (promotions : Promotions) : Value :=
  if promotions.promoter.errand.isNone then .null
  else .text (if promotions.promoter.isRunning then "running" else "done")

end Promotions

end QuestionDesk.Simulation
