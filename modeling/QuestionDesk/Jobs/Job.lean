import QuestionDesk.Clock

/-!
# Jobs

A job is a piece of work of a type, recognised by a fingerprint. Its status follows from what has
happened to it: it is pending until a worker takes it, then being processed, and in the end
completed, or failed when a reason is given.
-/
namespace QuestionDesk.Jobs

/-- How far a job has come. -/
inductive Status where
  /-- No worker has taken the job. -/
  | pending
  /-- A worker has taken the job. -/
  | processing
  /-- The job ended with a value. -/
  | completed
  /-- The job ended with a reason. -/
  | failed
  deriving DecidableEq, Repr

/-- The word of a status. -/
def Status.word : Status → String
  | .pending => "pending"
  | .processing => "processing"
  | .completed => "completed"
  | .failed => "failed"

/-- A piece of work and what has happened to it. -/
structure Job where
  /-- The key under which the work is known. -/
  id : String
  /-- The type, which decides who handles the job. -/
  jobType : String
  /-- The fingerprint that recognises the work within its type. -/
  fingerprint : String
  /-- The place of the job among all jobs ever created. -/
  seq : Nat
  /-- What the job is about. -/
  payload : Fields
  /-- When the job was created. -/
  createdAt : Option String
  /-- What the handler noted. -/
  notes : Fields := []
  /-- When a worker took the job. -/
  processedOn : Option Micros := none
  /-- When the job ended. -/
  finishedOn : Option Micros := none
  /-- Why the job failed. -/
  failedReason : Option String := none
  /-- What the handler returned. -/
  returnValue : Value := .null
  deriving DecidableEq, Repr

/-- The key of the work with a fingerprint within a type. -/
def jobKey (jobType fingerprint : String) : String := jobType ++ ":" ++ fingerprint

/-- The status that follows from the moments and the reason of a job. -/
def statusOf (processedOn finishedOn : Option Micros) (failedReason : Option String) : Status :=
  match finishedOn with
  | some _ => if failedReason.getD "" = "" then .completed else .failed
  | none => if processedOn.isSome then .processing else .pending

namespace Job

/-- The status of a job. -/
def status (job : Job) : Status := statusOf job.processedOn job.finishedOn job.failedReason

/-- Whether a job has ended. -/
def isTerminal (job : Job) : Bool := job.finishedOn.isSome

/-- A job with one note written. -/
def note (job : Job) (name : String) (value : Value) : Job :=
  { job with notes := job.notes.set name value }

/-- A job with several notes written in order. -/
def noteAll (job : Job) (notes : Fields) : Job :=
  notes.foldl (fun job field => job.note field.1 field.2) job

/-- The moment of something that may not have happened, as a value. -/
def momentValue (moment : Option Micros) : Value := (moment.map Micros.value).getD .null

/-- A text that may be absent, as a value. -/
def textValue (text : Option String) : Value := (text.map Value.text).getD .null

/-- Everything about a job, as a document. -/
def document (job : Job) : Value :=
  .object [("id", .text job.id), ("job_type", .text job.jobType),
    ("fingerprint", .text job.fingerprint), ("seq", .int job.seq),
    ("status", .text job.status.word), ("is_terminal", .bool job.isTerminal),
    ("payload", .object job.payload), ("created_at", textValue job.createdAt),
    ("meta", .object job.notes), ("failed_reason", textValue job.failedReason),
    ("return_value", job.returnValue), ("processed_on", momentValue job.processedOn),
    ("finished_on", momentValue job.finishedOn)]

end Job

end QuestionDesk.Jobs
