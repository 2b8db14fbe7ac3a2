import QuestionDesk.Failure
import QuestionDesk.Jobs.Job

/-!
# Job states

What a subscriber is told about a job: its status, and once it has completed its rows. On the wire
every field has its compound name and absent fields are left out; fields inside the result stay.
-/
namespace QuestionDesk.Push

open Jobs (Job Status)
open Schema (Check)

/-- What is told about a job. -/
structure JobState where
  /-- The key of the job. -/
  jobId : String
  /-- The word of its status. -/
  status : String
  /-- The title of the question. -/
  title : Option String := none
  /-- The question as it was asked, nothing while it is not told. -/
  questionContent : Value := .null
  /-- The rows and what is known about them. -/
  result : Option Fields := none
  /-- Why the job failed. -/
  error : Option String := none
  /-- When the job was created. -/
  createdAt : Option String := none
  deriving DecidableEq, Repr

namespace JobState

/-- The fields of a state under the names given to them, in order. -/
def fieldsAs (state : JobState) (content created job : String) : Fields :=
  [(job, .text state.jobId), ("status", .text state.status),
    ("title", Job.textValue state.title), (content, state.questionContent),
    ("result", (state.result.map Value.object).getD .null),
    ("error", Job.textValue state.error), (created, Job.textValue state.createdAt)]

/-- All fields of a state, as a document. -/
def document (state : JobState) : Value :=
  .object (state.fieldsAs "question_content" "created_at" "job_id")

/-- The fields of a state that are sent. -/
def wireFields (state : JobState) : Fields :=
  (state.fieldsAs "questionContent" "createdAt" "jobId").filter fun field => field.2 != .null

/-- A state as it is sent. -/
def wire (state : JobState) : Value := .object state.wireFields

/-- Whether a state is the last one of its job. -/
def isTerminal (state : JobState) : Bool := state.status = "completed" || state.status = "failed"

/-- A check of a field that may stand under either of two names, the first one counting. -/
def eitherName {α : Type} (fields : Fields) (name other : String)
    (check : String → Check α) : Check α :=
  if fields.has name || !fields.has other then check name else check other

/-- A check of a state, whose fields may stand under their compound or their plain names. -/
def check : Value → Check JobState :=
  Check.record "JobState" fun fields =>
    let optionalText (name : String) : Check (Option String) :=
      Check.optional fields name none (Check.nullable Check.text)
    let jobId := eitherName fields "jobId" "job_id" (Check.required fields · Check.text)
    let status := Check.required fields "status" Check.text
    let content := eitherName fields "questionContent" "question_content" optionalText
    let result := Check.optional fields "result" none (Check.nullable Check.anyObject)
    let created := eitherName fields "createdAt" "created_at" optionalText
    ((((((jobId.join status).join (optionalText "title")).join content).join result).join
      (optionalText "error")).join created).map
      fun ((((((jobId, status), title), content), result), error), created) =>
        ⟨jobId, status, title, Job.textValue content, result, error, created⟩

/-- A field of a value that has fields; of a value that counts as false every field is absent. -/
def fieldOf (value : Value) (name : String) : Except Failure Value :=
  match value with
  | .object fields => .ok (Fields.get fields name)
  | other =>
    if other.isTruthy then .error (.obstacle (.noFields other.kind)) else .ok .null

/-- How many parts a value has. -/
def lengthOf : Value → Except Failure Nat
  | .text text => .ok text.length
  | .list items => .ok items.length
  | .object fields => .ok fields.length
  | other => .error (.noLength other.kind)

/-- The title that the handler noted. -/
def titleOf (job : Job) : Except Failure (Option String) :=
  match job.notes.get "title" with
  | .text title => .ok (some title)
  | .null => .ok none
  | _ => .error (.misshapen "JobState" 1)

/-- The state of a job. The rows are told only when the job has completed and has rows. -/
def ofJob (job : Job) : Except Failure JobState := do
  let title ← titleOf job
  let state : JobState :=
    { jobId := job.id, status := job.status.word, title := title, error := job.failedReason,
      createdAt := job.createdAt }
  let result ← fieldOf job.returnValue "result"
  let rows ← fieldOf result "rows"
  if job.status = .completed ∧ rows ≠ .null then
    let metadata ← fieldOf result "execution_metadata"
    let total ← lengthOf rows
    let bytes ← fieldOf metadata "total_bytes_processed"
    return { state with
      questionContent := job.payload.get "user_prompt"
      result := some [("data", rows), ("metadata", .object [("totalRows", .int total),
        ("bytesProcessed", bytes), ("sqlHash", job.notes.get "sql_hash")])] }
  else return state

end JobState

end QuestionDesk.Push
