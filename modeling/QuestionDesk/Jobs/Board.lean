import QuestionDesk.Failure
import QuestionDesk.Jobs.Job
import QuestionDesk.Keyed

/-!
# The board

The board holds the jobs of every type, the line in which those of a type wait, and the workers
that take them. A worker takes the job that has waited longest, handles it, tells the listeners of
the event that ended it one after the other, and only then takes the next one. Jobs that have
ended leave the board once they are old enough; what is waiting or being processed never does.

The progress of a handler and the listeners are of any type, so that the board says nothing about
what the work is.
-/
namespace QuestionDesk.Jobs

/-- How a job ended. -/
inductive Event where
  /-- The handler returned. -/
  | completed
  /-- The handler failed. -/
  | failed
  deriving DecidableEq, Repr

namespace Event

/-- The word of an event. -/
def word : Event → String
  | .completed => "job:completed"
  | .failed => "job:failed"

/-- The event of a word. -/
def ofWord? (word : String) : Option Event := [completed, failed].find? (·.word = word)

end Event

/-- What a worker is doing; `π` is the progress of a handler. -/
inductive Activity (π : Type) where
  /-- It waits for a job. -/
  | idle
  /-- It handles the job of a number. -/
  | handling (seq : Nat) (progress : π)
  /-- It tells the listeners of an event about a job, of which some have been told. -/
  | notifying (job : Job) (event : Event) (told : Nat)
  /-- It is gone for good. -/
  | gone
  deriving DecidableEq, Repr

/-- A worker for the jobs of a type. -/
structure Worker (π : Type) where
  /-- The type. -/
  jobType : String
  /-- What the worker is doing. -/
  activity : Activity π := .idle
  deriving DecidableEq, Repr

/-- The jobs of a type. -/
structure Lane where
  /-- The jobs on the board, oldest first. -/
  jobs : List Job := []
  /-- The numbers of the jobs that no worker has taken, oldest first. -/
  waiting : List Nat := []
  /-- How many jobs have been created and are neither done nor cut off. -/
  unfinished : Nat := 0
  deriving DecidableEq, Repr

namespace Lane

/-- The job of a number. -/
def job? (lane : Lane) (seq : Nat) : Option Job := lane.jobs.find? (·.seq = seq)

/-- The lane with the job of a number changed. -/
def update (lane : Lane) (seq : Nat) (change : Job → Job) : Lane :=
  { lane with jobs := lane.jobs.map fun job => if job.seq = seq then change job else job }

/-- Whether a job stays on the board: it has not ended, or it ended after the moment given. -/
def stays (cutoff : Option Micros) (job : Job) : Bool :=
  match job.finishedOn with
  | none => true
  | some ended =>
    match cutoff with
    | some moment => moment < ended
    | none => false

/-- The lane without the jobs that do not stay. -/
def prune (lane : Lane) (cutoff : Option Micros) : Lane :=
  { lane with jobs := lane.jobs.filter (stays cutoff) }

/-- The newer of two jobs. -/
def newer (known : Option Job) (job : Job) : Option Job :=
  match known with
  | some other => if other.seq < job.seq then some job else some other
  | none => some job

/-- The newest of several jobs. -/
def newest (jobs : List Job) : Option Job := jobs.foldl newer none

/-- The order in which a job is looked for among those of one key. -/
def searchOrder : List Status := [.processing, .pending, .completed, .failed]

/-- The job that stands for a key: the newest of the first status of the search order that any job
of the key has. -/
def find? (lane : Lane) (id : String) : Option Job :=
  searchOrder.findSome? fun status =>
    newest (lane.jobs.filter fun job => job.id = id && job.status = status)

end Lane

/-- The jobs of all types, their workers and listeners. -/
structure Board (π ℓ : Type) where
  /-- How long a job that has ended stays, when it does not stay for ever. -/
  retention : Option Micros := none
  /-- The jobs by type. -/
  lanes : Keyed Lane := []
  /-- The workers. -/
  workers : List (Worker π) := []
  /-- The listeners and the events that they are told about, in order. -/
  listeners : List (Event × ℓ) := []
  /-- How many jobs were ever created. -/
  created : Nat := 0
  deriving DecidableEq, Repr

namespace Board

variable {π ℓ : Type}

/-! ## Parts of the board -/

/-- The jobs of a type. -/
def lane (board : Board π ℓ) (jobType : String) : Lane := (board.lanes.find? jobType).getD {}

/-- The board with the jobs of a type replaced. -/
def withLane (board : Board π ℓ) (jobType : String) (lane : Lane) : Board π ℓ :=
  { board with lanes := board.lanes.put jobType lane }

/-- The board on which a type is known. -/
def ready (board : Board π ℓ) (jobType : String) : Board π ℓ :=
  if board.lanes.has jobType then board else board.withLane jobType {}

/-- The board with the activity of a worker replaced. -/
def withActivity (board : Board π ℓ) (worker : Nat) (activity : Activity π) : Board π ℓ :=
  { board with workers := board.workers.modify worker ({ · with activity := activity }) }

/-- The job of a number within a type. -/
def job? (board : Board π ℓ) (jobType : String) (seq : Nat) : Option Job :=
  (board.lane jobType).job? seq

/-- The board with a job changed. -/
def update (board : Board π ℓ) (jobType : String) (seq : Nat) (change : Job → Job) : Board π ℓ :=
  board.withLane jobType ((board.lane jobType).update seq change)

/-- The listeners of an event in order. -/
def audience (board : Board π ℓ) (event : Event) : List ℓ :=
  (board.listeners.filter (·.1 = event)).map Prod.snd

/-! ## Finding and creating jobs -/

/-- The job that stands for a fingerprint within a type. -/
def find? (board : Board π ℓ) (jobType fingerprint : String) : Option Job :=
  (board.lane jobType).find? (jobKey jobType fingerprint)

/-- The board without the jobs of a type that do not stay. -/
def prune (board : Board π ℓ) (jobType : String) (cutoff : Option Micros) : Board π ℓ :=
  if board.lanes.has jobType then board.withLane jobType ((board.lane jobType).prune cutoff)
  else board

/-- The board without the jobs of a type that have ended long enough ago. -/
def forget (board : Board π ℓ) (now : Micros) (jobType : String) : Board π ℓ :=
  match board.retention with
  | some span => board.prune jobType (some (now - span))
  | none => board

/-- Creates a job, which waits behind all others of its type. -/
def add (board : Board π ℓ) (now : Micros) (jobType fingerprint : String) (payload : Fields) :
    Job × Board π ℓ :=
  let job : Job :=
    { id := jobKey jobType fingerprint, jobType, fingerprint, seq := board.created + 1, payload,
      createdAt := some (Micros.zonedDateTime now) }
  let lane := board.lane jobType
  let more : Lane :=
    { jobs := lane.jobs ++ [job], waiting := lane.waiting ++ [job.seq],
      unfinished := lane.unfinished + 1 }
  (job, { board.withLane jobType more with created := board.created + 1 })

/-- The job that stands for a fingerprint, unless it has failed. -/
def findUsable? (board : Board π ℓ) (jobType fingerprint : String) : Option Job :=
  (board.find? jobType fingerprint).filter (·.status ≠ .failed)

/-- Finds the job of a fingerprint, or creates one when there is none that can still be used.
Skipping the search creates one in any case. -/
def create (board : Board π ℓ) (now : Micros) (jobType fingerprint : String) (payload : Fields)
    (skipsSearch : Bool) : Job × Board π ℓ :=
  let kept := board.forget now jobType
  match (if skipsSearch then none else kept.findUsable? jobType fingerprint) with
  | some job => (job, kept)
  | none => kept.add now jobType fingerprint payload

/-! ## Workers -/

/-- Engages workers for a type. There has to be at least one, and a type is staffed once. -/
def register (board : Board π ℓ) (jobType : String) (concurrency : Int) :
    Except Failure (Board π ℓ) :=
  if concurrency < 1 then .error (.badArgument "concurrency must be at least 1")
  else if board.workers.any (·.jobType = jobType) then
    .error (.misuse ("Processor already registered for job type " ++ jobType))
  else
    let staffed := board.ready jobType
    .ok { staffed with
      workers := staffed.workers ++ List.replicate concurrency.toNat { jobType := jobType } }

/-- Adds a listener for an event. -/
def subscribe (board : Board π ℓ) (event : Event) (listener : ℓ) : Board π ℓ :=
  { board with listeners := board.listeners ++ [(event, listener)] }

/-- A worker takes the job that has waited longest, if it is idle and there is one. -/
def take (board : Board π ℓ) (now : Micros) (worker : Nat) (start : Job → π) : Board π ℓ :=
  match board.workers[worker]? with
  | some ⟨jobType, .idle⟩ =>
    let lane := board.lane jobType
    match lane.waiting with
    | [] => board
    | seq :: rest =>
      match lane.job? seq with
      | none => board
      | some job =>
        let taken := { lane with waiting := rest }.update seq ({ · with processedOn := some now })
        (board.withLane jobType taken).withActivity worker
          (.handling seq (start { job with processedOn := some now }))
  | _ => board

/-- A handler goes on, and may note something on its job. -/
def goOn (board : Board π ℓ) (worker : Nat) (progress : π) (notes : Fields) : Board π ℓ :=
  match board.workers[worker]? with
  | some ⟨jobType, .handling seq _⟩ =>
    (board.update jobType seq (·.noteAll notes)).withActivity worker (.handling seq progress)
  | _ => board

/-- A worker is done with its job, which is no longer unfinished. -/
def leave (board : Board π ℓ) (worker : Nat) (jobType : String) (next : Activity π) : Board π ℓ :=
  let lane := board.lane jobType
  (board.withLane jobType { lane with unfinished := lane.unfinished - 1 }).withActivity worker next

/-- A worker tells the listener that comes after those told, or is done when there is none. -/
def tellNext (board : Board π ℓ) (worker : Nat) (jobType : String) (job : Job) (event : Event)
    (told : Nat) : Board π ℓ :=
  if told < (board.audience event).length then
    board.withActivity worker (.notifying job event told)
  else board.leave worker jobType .idle

/-- A job that ends now with an outcome. The reason of a failure is one that may leave the
process. -/
def ended (job : Job) (now : Micros) : Except Failure Value → Job
  | .ok value => { job with returnValue := value, finishedOn := some now }
  | .error failure =>
    { job with failedReason := some failure.safeMessage, finishedOn := some now }

/-- The event of an outcome. -/
def eventOf : Except Failure Value → Event
  | .ok _ => .completed
  | .error _ => .failed

/-- A worker goes for good. Its job stays as it is, but is no longer unfinished. -/
def kill (board : Board π ℓ) (worker : Nat) : Board π ℓ :=
  match board.workers[worker]? with
  | some ⟨jobType, .handling _ _⟩ | some ⟨jobType, .notifying _ _ _⟩ =>
    board.leave worker jobType .gone
  | some ⟨_, .idle⟩ => board.withActivity worker .gone
  | _ => board

/-- The handler of a worker ends with an outcome; one that was cancelled takes its worker with
it. -/
def finish (board : Board π ℓ) (now : Micros) (worker : Nat) (outcome : Except Failure Value) :
    Board π ℓ :=
  match board.workers[worker]? with
  | some ⟨jobType, .handling seq _⟩ =>
    match outcome with
    | .error .cancelled => board.kill worker
    | outcome =>
      match board.job? jobType seq with
      | none => board
      | some job =>
        let job := ended job now outcome
        (board.update jobType seq fun _ => job).tellNext worker jobType job (eventOf outcome) 0
  | _ => board

/-- The listener that a worker tells next, and the job about which. -/
def telling? (board : Board π ℓ) (worker : Nat) : Option (ℓ × Job) :=
  match board.workers[worker]? with
  | some ⟨_, .notifying job event told⟩ => ((board.audience event)[told]?).map (·, job)
  | _ => none

/-- The listener that a worker tells has been told, whether it failed or not; one that was cancelled
takes the worker with it. -/
def notified (board : Board π ℓ) (worker : Nat) (outcome : Except Failure Unit) : Board π ℓ :=
  match board.workers[worker]? with
  | some ⟨jobType, .notifying job event told⟩ =>
    match outcome with
    | .error .cancelled => board.kill worker
    | _ => board.tellNext worker jobType job event (told + 1)
  | _ => board

/-! ## Maintenance -/

/-- Removes the jobs that have ended by a number of microseconds ago, or all that have ended, and
tells how many there were. -/
def clean (board : Board π ℓ) (now : Micros) (olderThan : Option Micros) : Nat × Board π ℓ :=
  let cutoff := olderThan.map (now - ·)
  let count (board : Board π ℓ) : Nat :=
    board.lanes.foldl (fun total entry => total + entry.2.jobs.length) 0
  let after := { board with lanes := board.lanes.map fun entry => (entry.1, entry.2.prune cutoff) }
  (count board - count after, after)

/-- Sends all workers away. -/
def close (board : Board π ℓ) : Board π ℓ :=
  { (List.range board.workers.length).foldl kill board with workers := [] }

/-- Whether every job of a type that was ever created is done or was cut off. -/
def isDone (board : Board π ℓ) (jobType : String) : Bool := (board.lane jobType).unfinished = 0

end Board

end QuestionDesk.Jobs
