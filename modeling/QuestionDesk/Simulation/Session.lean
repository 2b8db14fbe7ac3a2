import QuestionDesk.Failure
import QuestionDesk.Simulation.Timeline

/-!
# Sessions

A session drives a world through steps. After each step the world settles: everything happens that
can happen without time going by and without a held call being released. Calls that leave the
world are held at gates, in the order of the steps in which they arrived, then of the gates, then
of what is asked, until they are released one by one.
-/
namespace QuestionDesk.Simulation

/-- A call at a gate; `κ` tells callers apart. -/
structure Call (κ : Type) where
  /-- Who calls. -/
  caller : κ
  /-- The gate. -/
  gate : String
  /-- What is asked. -/
  detail : Value
  deriving DecidableEq, Repr

namespace Call

/-- What is asked, as a text. -/
def detailText {κ : Type} (call : Call κ) : String :=
  match call.detail with
  | .text text => text
  | .int number => Decimal.integerText number
  | _ => ""

/-- The gate and what is asked. -/
def row {κ : Type} (call : Call κ) : Value := .list [.text call.gate, call.detail]

end Call

/-- A call and when it arrived. -/
structure Held (κ : Type) where
  /-- The number of the step or release in which the call arrived. -/
  arrived : Nat
  /-- The call. -/
  call : Call κ
  deriving DecidableEq, Repr

namespace Held

variable {κ : Type}

/-- Whether a call comes before another one or is level with it. -/
def before (left right : Held κ) : Bool :=
  left.arrived < right.arrived || (left.arrived = right.arrived &&
    (left.call.gate < right.call.gate || (left.call.gate = right.call.gate &&
      !decide (right.call.detailText < left.call.detailText))))

/-- Calls in their order. -/
def sorted (calls : List (Held κ)) : List (Held κ) := calls.mergeSort before

end Held

/-- How a step has ended by now. -/
inductive Outcome where
  /-- It gave a value. -/
  | returned (value : Value)
  /-- It failed. -/
  | failed (failure : Failure)
  /-- It has not ended. -/
  | blocked
  deriving DecidableEq, Repr

/-- The outcome of something that ends at once. -/
def Outcome.ofExcept : Except Failure Value → Outcome
  | .ok value => .returned value
  | .error failure => .failed failure

/-- How a world behaves. -/
structure Bench (σ κ : Type) where
  /-- The timers of the world. -/
  timeline : Timeline σ
  /-- The calls that wait to be released. -/
  calls : σ → List (Call κ)
  /-- What a call brings about when it is released. -/
  release : Micros → Call κ → σ → σ
  /-- How many calls can be released at most before time goes by. -/
  budget : σ → Nat
  /-- How a step that did not end at once has ended by now. -/
  outcome : σ → Nat → Outcome

/-- A world and what has happened in it. -/
structure Session (σ κ : Type) where
  /-- The world. -/
  world : σ
  /-- The moment. -/
  now : Micros := 0
  /-- The number of steps and releases so far. -/
  moment : Nat := 0
  /-- The calls that are held. -/
  held : List (Held κ) := []
  /-- All calls so far. -/
  log : List (Held κ) := []
  /-- The outcomes of the steps so far, as they were at the end of each step. -/
  outcomes : List Outcome := []

namespace Session

variable {σ κ : Type} [DecidableEq κ]

/-- Looks which calls are held now; new ones have just arrived. -/
def observe (bench : Bench σ κ) (session : Session σ κ) : Session σ κ :=
  let calls := bench.calls session.world
  let kept := session.held.filter fun held => calls.contains held.call
  let fresh := (calls.filter fun call => !kept.any (·.call = call)).map
    (Held.mk session.moment)
  { session with held := kept ++ fresh, log := session.log ++ fresh }

/-- Begins a step or a release. -/
def begin (session : Session σ κ) : Session σ κ := { session with moment := session.moment + 1 }

/-- Lets the world settle. -/
def settle (bench : Bench σ κ) (session : Session σ κ) : Session σ κ :=
  observe bench
    { session with world := bench.timeline.settle session.now session.world }

/-- Moves time by a span. -/
def advance (bench : Bench σ κ) (session : Session σ κ) (span : Micros) : Session σ κ :=
  let target := session.now + span
  let later := bench.timeline.advance session.now target session.world
  observe bench { session with now := target, world := later }

/-- The calls that are held, in order. -/
def waiting (session : Session σ κ) : List (Held κ) := Held.sorted session.held

/-- The oldest call that is held, at a gate or at any. -/
def oldest? (session : Session σ κ) (gate : Option String) : Option (Held κ) :=
  session.waiting.find? fun held => gate.all (· = held.call.gate)

/-- Releases a call. -/
def releaseHeld (bench : Bench σ κ) (session : Session σ κ) (held : Held κ) : Session σ κ :=
  settle bench
    { session with
      held := session.held.erase held
      world := bench.release session.now held.call session.world }

/-- Releases the oldest call, at a gate or at any, and tells which it was. -/
def release (bench : Bench σ κ) (session : Session σ κ) (gate : Option String) :
    Value × Session σ κ :=
  match session.oldest? gate with
  | some held => (held.call.row, session.releaseHeld bench held)
  | none => (.null, session)

/-- Releases the oldest call again and again, at most a number of times, and counts. -/
def runTimes (bench : Bench σ κ) : Nat → Session σ κ → Nat × Session σ κ
  | 0, session => (0, session)
  | times + 1, session =>
    match session.oldest? none with
    | some held =>
      let (count, after) := runTimes bench times (session.begin.releaseHeld bench held)
      (count + 1, after)
    | none => (0, session)

/-- Releases the oldest call until none is held, and counts. -/
def run (bench : Bench σ κ) (session : Session σ κ) : Nat × Session σ κ :=
  runTimes bench (bench.budget session.world) session

/-- How a step has ended by now. -/
def outcomeOf (bench : Bench σ κ) (session : Session σ κ) (step : Nat) : Outcome :=
  match session.outcomes[step]? with
  | some .blocked => bench.outcome session.world step
  | some outcome => outcome
  | none => .blocked

/-- The session after a step has been done. -/
def finish (session : Session σ κ) (outcome : Outcome) : Session σ κ :=
  { session with outcomes := session.outcomes ++ [outcome] }

/-- All calls so far, in order. -/
def history (session : Session σ κ) : Value :=
  .list ((Held.sorted session.log).map (·.call.row))

end Session

end QuestionDesk.Simulation
