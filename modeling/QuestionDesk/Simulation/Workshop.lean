import QuestionDesk.Jobs.Board
import QuestionDesk.Simulation.Session

/-!
# Workshops

A workshop is a board whose handlers follow a script: a handler may be held at a gate, then sleep,
then note something on its job, and at last it returns or fails. Listeners keep a record of what
they are told.
-/
namespace QuestionDesk.Simulation

open Jobs (Job Board Event)

/-- What a handler does. -/
structure Script where
  /-- The gate at which the handler is held. -/
  gate : Option String := none
  /-- How long it sleeps. -/
  sleep : Option Micros := none
  /-- What it notes on its job. -/
  notes : Fields := []
  /-- How it ends. -/
  outcome : Except Failure Value

/-- Where a handler is in its script. -/
inductive Place where
  /-- It is held. -/
  | held (gate : String)
  /-- It sleeps until a moment; handlers that wake at once wake in the order of their numbers. -/
  | asleep (due : Micros) (number : Nat)
  /-- It is about to sleep or to end. -/
  | ready
  deriving DecidableEq, Repr

/-- A listener, which fails or not. -/
structure Witness where
  /-- The name under which it keeps its record. -/
  name : String
  /-- Whether it fails. -/
  fails : Bool
  deriving DecidableEq, Repr

/-- A board with scripted handlers. -/
structure Workshop where
  /-- The script that a payload stands for. -/
  script : Fields → Script
  /-- The board. -/
  board : Board Place Witness
  /-- How many handlers have gone to sleep. -/
  sleepers : Nat := 0
  /-- What listeners were told. -/
  records : List Value := []
  /-- The steps that wait for a type to be done, and the type. -/
  joining : List (Nat × String) := []
  /-- The steps that have waited long enough. -/
  joined : List Nat := []
  /-- The steps that were cancelled. -/
  cancelled : List Nat := []

namespace Workshop

/-- Where the handler of a job starts. -/
def start (workshop : Workshop) (job : Job) : Place :=
  match (workshop.script job.payload).gate with
  | some gate => .held gate
  | none => .ready

/-- The type and the number of the job that a worker handles, and where its handler is. -/
def handling? (workshop : Workshop) (worker : Nat) : Option (Job × Place) :=
  match workshop.board.workers[worker]? with
  | some ⟨jobType, .handling seq place⟩ => (workshop.board.job? jobType seq).map (·, place)
  | _ => none

/-- A handler ends as its script says. -/
def conclude (workshop : Workshop) (now : Micros) (worker : Nat) (script : Script) : Workshop :=
  let noted := workshop.board.goOn worker .ready script.notes
  { workshop with board := noted.finish now worker script.outcome }

/-- A handler that is not held sleeps or ends. -/
def goOn (workshop : Workshop) (now : Micros) (worker : Nat) (script : Script) : Workshop :=
  match script.sleep with
  | some span =>
    { workshop with
      board := workshop.board.goOn worker (.asleep (now + span) workshop.sleepers) []
      sleepers := workshop.sleepers + 1 }
  | none => workshop.conclude now worker script

/-- How a listener ends. -/
def heard (witness : Witness) : Except Failure Unit :=
  if witness.fails then .error (.misuse witness.name) else .ok ()

/-- The record of a listener that is told about a job. -/
def record (witness : Witness) (event : Event) (job : Job) : Value :=
  .list [.text witness.name, .text event.word, .text job.fingerprint, .int job.seq]

/-- What a worker does next, if it can do anything now. -/
def move? (workshop : Workshop) (now : Micros) (worker : Nat) : Option Workshop :=
  match workshop.board.workers[worker]? with
  | some ⟨jobType, .idle⟩ =>
    if (workshop.board.lane jobType).waiting.isEmpty then none
    else some { workshop with board := workshop.board.take now worker workshop.start }
  | some ⟨jobType, .handling seq .ready⟩ =>
    (workshop.board.job? jobType seq).map fun job =>
      workshop.goOn now worker (workshop.script job.payload)
  | some ⟨_, .notifying job event told⟩ =>
    ((workshop.board.audience event)[told]?).map fun witness =>
      { workshop with
        board := workshop.board.notified worker (heard witness)
        records := workshop.records ++ [record witness event job] }
  | _ => none

/-- The handlers that sleep: when each wakes, its number, and its worker. -/
def asleep (workshop : Workshop) : List (Micros × Nat × Nat) :=
  workshop.board.workers.zipIdx.filterMap fun (worker, index) =>
    match worker.activity with
    | .handling _ (.asleep due number) => some (due, number, index)
    | _ => none

/-- Wakes the sleeper that is due first, if one is due by now, and lets its handler end. -/
def wake? (workshop : Workshop) (now : Micros) : Option Workshop :=
  let order (left right : Micros × Nat × Nat) : Bool :=
    left.1 < right.1 || (left.1 = right.1 && left.2.1 ≤ right.2.1)
  match (workshop.asleep.filter (·.1 ≤ now)).mergeSort order with
  | (_, _, worker) :: _ =>
    (workshop.handling? worker).map fun (job, _) =>
      workshop.conclude now worker (workshop.script job.payload)
  | [] => none

/-- Lets workers move a number of times. -/
def moveTimes : Nat → Workshop → Micros → Workshop
  | 0, workshop, _ => workshop
  | times + 1, workshop, now =>
    let workers := List.range workshop.board.workers.length
    match (workers.findSome? (workshop.move? now)).or (workshop.wake? now) with
    | some next => moveTimes times next now
    | none => workshop

/-- How often workers can move at most before something is released or time goes by. -/
def moves (workshop : Workshop) : Nat :=
  (workshop.board.created + 1) * (workshop.board.listeners.length + 4)

/-- Ends the steps that wait for a type that is done. -/
def settleJoins (workshop : Workshop) : Workshop :=
  let done := workshop.joining.filter fun join => workshop.board.isDone join.2
  { workshop with
    joining := workshop.joining.filter fun join => !workshop.board.isDone join.2
    joined := workshop.joined ++ done.map Prod.fst }

/-- Lets everything happen that can happen now. -/
def settle (now : Micros) (workshop : Workshop) : Workshop :=
  (moveTimes workshop.moves workshop now).settleJoins

/-- The handlers that are held. -/
def calls (workshop : Workshop) : List (Call Nat) :=
  (List.range workshop.board.workers.length).filterMap fun worker =>
    match workshop.handling? worker with
    | some (job, .held gate) =>
      some ⟨worker, gate, .text (job.id ++ "#" ++ Decimal.naturalText job.seq)⟩
    | _ => none

/-- Lets a held handler go on. -/
def release (_ : Micros) (call : Call Nat) (workshop : Workshop) : Workshop :=
  { workshop with board := workshop.board.goOn call.caller .ready [] }

/-- How a step that waits for a type has ended by now. -/
def outcome (workshop : Workshop) (step : Nat) : Outcome :=
  if workshop.cancelled.contains step then .failed .cancelled
  else if workshop.joined.contains step then .returned (.text "joined")
  else .blocked

/-- A step begins to wait for a type. -/
def join (workshop : Workshop) (step : Nat) (jobType : String) : Workshop :=
  { workshop with joining := workshop.joining ++ [(step, jobType)] }

/-- A step that waits is cancelled. -/
def cancel (workshop : Workshop) (step : Nat) : Workshop :=
  if workshop.joining.any (·.1 = step) then
    { workshop with
      joining := workshop.joining.filter (·.1 ≠ step)
      cancelled := workshop.cancelled ++ [step] }
  else workshop

/-- How workshops behave. -/
def bench : Bench Workshop Nat :=
  { timeline :=
      ⟨fun workshop => (workshop.asleep.map (·.1)).min?, settle⟩
    calls, release, outcome
    budget := fun workshop => workshop.board.created + 1 }

/-- The jobs on the board by type: fingerprint, number and status. -/
def jobsValue (workshop : Workshop) : Value :=
  .object (workshop.board.lanes.map fun (jobType, lane) =>
    (jobType, .list (lane.jobs.map fun job =>
      .list [.text job.fingerprint, .int job.seq, .text job.status.word])))

/-- How many jobs wait, by type. -/
def queuesValue (workshop : Workshop) : Value :=
  .object (workshop.board.lanes.map fun (jobType, lane) => (jobType, .int lane.waiting.length))

end Workshop

end QuestionDesk.Simulation
