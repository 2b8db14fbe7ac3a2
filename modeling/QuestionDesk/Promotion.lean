import QuestionDesk.Clock
import QuestionDesk.Failure

/-!
# Promotion

Questions that are asked often are suggested to everybody. A promoter looks for them again and
again, each time after a pause. A run that fails with a failure of the service is tried again
after the next pause; any other failure ends the promoter's work, and stopping tells it.
-/
namespace QuestionDesk

/-- What a promoter is doing. -/
inductive Errand where
  /-- It pauses until a moment. -/
  | pausing (due : Micros)
  /-- A failure has ended its work. -/
  | ended (failure : Failure)
  deriving DecidableEq, Repr

/-- A promoter. -/
structure Promoter where
  /-- How long it pauses. -/
  interval : Micros := Micros.ofSeconds 300
  /-- How often a question has to be asked. -/
  threshold : Int := 5
  /-- Within how many hours. -/
  windowHours : Int := 24
  /-- What it is doing, if it was started. -/
  errand : Option Errand := none
  deriving DecidableEq, Repr

namespace Promoter

/-- Whether a promoter is at work. -/
def isRunning (promoter : Promoter) : Bool :=
  match promoter.errand with
  | some (.pausing _) => true
  | _ => false

/-- Starts a promoter, unless it is at work. -/
def start (promoter : Promoter) (now : Micros) : Promoter :=
  if promoter.isRunning then promoter
  else { promoter with errand := some (.pausing (now + promoter.interval)) }

/-- Stops a promoter. The failure that has ended its work, if there is one, is told each time. -/
def stop (promoter : Promoter) : Promoter × Option Failure :=
  match promoter.errand with
  | some (.ended failure) =>
    if failure = .cancelled then ({ promoter with errand := none }, none)
    else (promoter, some failure)
  | _ => ({ promoter with errand := none }, none)

/-- The moment at which a promoter runs next. -/
def nextDue? (promoter : Promoter) : Option Micros :=
  match promoter.errand with
  | some (.pausing due) => some due
  | _ => none

/-- Whether a run is due by now. -/
def isDue (promoter : Promoter) (now : Micros) : Bool :=
  match promoter.nextDue? with
  | some due => due ≤ now
  | none => false

/-- What a promoter does after a run that ends now. -/
def afterRun (promoter : Promoter) (now : Micros) (outcome : Except Failure Int) : Promoter :=
  let again : Promoter := { promoter with errand := some (.pausing (now + promoter.interval)) }
  match outcome with
  | .ok _ => again
  | .error failure =>
    if failure.isService then again else { promoter with errand := some (.ended failure) }

end Promoter

end QuestionDesk
