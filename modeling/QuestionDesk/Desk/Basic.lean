import QuestionDesk.Cache.Dedup
import QuestionDesk.Database.Popularity
import QuestionDesk.Database.Questions
import QuestionDesk.Database.Records
import QuestionDesk.Jobs.Board
import QuestionDesk.Pipeline.Run
import QuestionDesk.Pipeline.Turns
import QuestionDesk.Promotion
import QuestionDesk.Push.Relay
import QuestionDesk.Settings

/-!
# The desk

The desk is the whole service: the board with its workers, the turns of their runs, the store, the
database, the relay, the promoter, the visits of those who ask, and the jobs that are run by hand.
-/
namespace QuestionDesk

open Jobs (Job Board)
open Pipeline (Policy Run Runner Turns)

/-- The type of the jobs that answer questions. -/
def questionJobType : String := "question-processing"

/-- Who is told when a job has ended. -/
inductive Listener where
  /-- Stores the answer of a job that completed, and tells its subscriber. -/
  | completion
  /-- Stores the reason of a job that failed, and tells its subscriber. -/
  | failure
  deriving DecidableEq, Repr

/-- What somebody who asked is given: the question and its job. -/
structure Ticket where
  /-- The question. -/
  questionId : String
  /-- The key of the job. -/
  jobId : String
  /-- The number of the job. -/
  seq : Nat
  deriving DecidableEq, Repr

/-- How far a visit has come. -/
inductive VisitPhase where
  /-- It is about to look up the prompt. -/
  | lookingUp
  /-- It is about to store the question. -/
  | creating (questionId : String)
  /-- It is about to store what is known about the job. -/
  | recording (ticket : Ticket)
  /-- It is about to remember which question the prompt became. -/
  | remembering (ticket : Ticket)
  /-- It is about to store that the question was asked. -/
  | counting (ticket : Ticket)
  /-- It has ended. -/
  | ended (outcome : Except Failure Ticket)

/-- Somebody asks a question. -/
structure Visit where
  /-- The question. -/
  prompt : String
  /-- Where it is asked, if that is to be stored. -/
  source : Option String
  /-- How far the visit has come. -/
  phase : VisitPhase := .lookingUp

/-- How far a job that is run by hand has come. -/
inductive HandPhase where
  /-- It is run. -/
  | running (run : Run)
  /-- It has ended. -/
  | ended (outcome : Except Failure Value)

/-- A job that is run by hand, without the board. -/
structure Hand where
  /-- What was noted on the job. -/
  notes : Fields := []
  /-- How far it has come. -/
  phase : HandPhase

/-- A job that is run by hand with more notes written on it. -/
def Hand.note (hand : Hand) (notes : Fields) : Hand :=
  { hand with notes := notes.foldl (fun all field => all.set field.1 field.2) hand.notes }

/-- The whole service. -/
structure Desk where
  /-- What all runs follow. -/
  policy : Policy
  /-- The address of the planner. -/
  plannerUrl : String
  /-- The address of the executor. -/
  executorUrl : String
  /-- For how many seconds entries are kept in the store. -/
  keepSeconds : Int
  /-- The moment. -/
  now : Micros := 0
  /-- The jobs and their workers. -/
  board : Board Run Listener
  /-- The turns of runs with the same query. -/
  turns : Turns := {}
  /-- The store. -/
  store : Cache.Store := {}
  /-- The database. -/
  database : Database := {}
  /-- The relay. -/
  relay : Push.Relay
  /-- The promoter. -/
  promoter : Promoter
  /-- How many questions were ever given a key. -/
  named : Nat := 0
  /-- The visits so far. -/
  visits : List Visit := []
  /-- The jobs that were run by hand so far. -/
  hands : List Hand := []

namespace Desk

/-- The desk as the settings ask for it, before anybody has come. -/
def start (settings : Settings) : Except Failure Desk := do
  let board : Board Run Listener :=
    { retention := some (Micros.ofSeconds settings.cacheTtlSeconds) }
  let staffed ← board.register questionJobType settings.jobConcurrency
  let promoter : Promoter :=
    { interval := Micros.ofSeconds settings.promotionIntervalSeconds
      threshold := settings.promotionThreshold
      windowHours := settings.promotionWindowHours }
  return {
    policy := { safety := { threshold := .float settings.fidelityThreshold } }
    plannerUrl := settings.plannerUrl
    executorUrl := settings.executorUrl
    keepSeconds := settings.cacheTtlSeconds
    board := (staffed.subscribe .completed .completion).subscribe .failed .failure
    relay := { closeDelay := Micros.ofNumber (.float settings.closeDelaySeconds) }
    promoter := promoter.start 0 }

/-! ## Jobs of questions -/

/-- The job that stands for a question. -/
def job? (desk : Desk) (questionId : String) : Option Job :=
  desk.board.find? questionJobType questionId

/-- The payload of the job that answers a question. -/
def payload (questionId prompt : String) : Fields :=
  [("question_id", .text questionId), ("user_prompt", .text prompt)]

/-- The key of a question, by its number. -/
def questionKey (number : Nat) : String := "q" ++ Decimal.naturalText number

/-- Tells the subscriber of a job its state. -/
def announce (desk : Desk) (job : Job) : Desk :=
  match Push.JobState.ofJob job with
  | .ok state => { desk with relay := desk.relay.send desk.now job.id state }
  | .error _ => desk

/-! ## Runs -/

/-- The run of a runner. -/
def run? (desk : Desk) (runner : Runner) : Option Run :=
  match runner with
  | .worker index =>
    match desk.board.workers[index]? with
    | some ⟨_, .handling _ run⟩ => some run
    | _ => none
  | .hand number =>
    match desk.hands[number]? with
    | some ⟨_, .running run⟩ => some run
    | _ => none

/-- The desk with a job that is run by hand changed. -/
def withHand (desk : Desk) (number : Nat) (change : Hand → Hand) : Desk :=
  { desk with hands := desk.hands.modify number change }

/-- A runner goes on with its run, and notes something on its job. -/
def goOn (desk : Desk) (runner : Runner) (run : Run) (notes : Fields) : Desk :=
  match runner with
  | .worker index => { desk with board := desk.board.goOn index run notes }
  | .hand number =>
    desk.withHand number fun hand => { hand.note notes with phase := .running run }

/-- A runner goes to the end of the line of its query. -/
def lineUp (desk : Desk) (runner : Runner) (hash : String) : Desk :=
  { desk with turns := desk.turns.enter hash runner }

/-- A runner leaves the line of its query, if it stands in one. -/
def leaveLine (desk : Desk) (runner : Runner) (run : Run) : Desk :=
  match run.phase.prepared? with
  | some prepared => { desk with turns := desk.turns.leave prepared.hash runner }
  | none => desk

/-- The run of a runner ends with an outcome. -/
def conclude (desk : Desk) (runner : Runner) (run : Run) (outcome : Except Failure Value)
    (notes : Fields) : Desk :=
  let left := desk.leaveLine runner run
  match runner with
  | .worker index =>
    { left with board := (left.board.goOn index run notes).finish left.now index outcome }
  | .hand number =>
    left.withHand number fun hand => { hand.note notes with phase := .ended outcome }

/-- A runner does what its run does next. A run that has its query goes to the end of the line. -/
def follow (desk : Desk) (runner : Runner) (run : Run) : Pipeline.Next → Desk
  | .goOn next notes =>
    let moved := desk.goOn runner next notes
    match run.phase, next.phase with
    | .planning, .queueing prepared => moved.lineUp runner prepared.hash
    | _, _ => moved
  | .ended outcome notes => desk.conclude runner run outcome notes

end Desk

end QuestionDesk
