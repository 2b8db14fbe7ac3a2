import QuestionDesk.Database.Basic

/-!
# Jobs and answers in the database

What is known about a job is stored when the job is created and changed when it ends. A job that
completes is marked and its answer stored in one transaction.
-/
namespace QuestionDesk.Database

/-- A change to one column of what is known about a job. -/
inductive RecordChange where
  /-- The question that the job answers. -/
  | question (id : Option String)
  /-- The key of the job. -/
  | job (id : Option String)
  /-- The word of its status. -/
  | status (text : Option String)
  /-- Why it failed. -/
  | failedReason (text : Option String)
  /-- When it was stored. -/
  | createdAt (moment : Option Micros)
  deriving DecidableEq, Repr

namespace RecordChange

/-- Whether a change would change anything. -/
def changes (change : RecordChange) (record : JobRecord) : Bool :=
  match change with
  | .question id => id != some record.questionId
  | .job id => id != some record.jobId
  | .status text => text != some record.status
  | .failedReason text => text != record.failedReason
  | .createdAt moment => moment != some record.createdAt

/-- What is known about a job after a change; the question has to be there, and a new key of the job
must not be taken. -/
def apply (tables : Tables) (record : JobRecord) (change : RecordChange) : Except Stop JobRecord :=
  match change with
  | .question id => do
    let id ← required id
    demand (tables.hasQuestion id)
    return { record with questionId := id }
  | .job id => do
    let id ← required id
    demand !(tables.hasRecord id)
    return { record with jobId := id }
  | .status text => return { record with status := ← required text }
  | .failedReason text => return { record with failedReason := text }
  | .createdAt moment => return { record with createdAt := ← required moment }

end RecordChange

namespace Tables

/-- The tables with what is known about the job of a key replaced. -/
def withRecord (tables : Tables) (jobId : String) (record : JobRecord) : Tables :=
  { tables with
    records := tables.records.map fun other => if other.jobId = jobId then record else other }

/-- The tables with the answer to a question replaced. -/
def withAnswer (tables : Tables) (answer : Answer) : Tables :=
  { tables with
    answers := tables.answers.map fun other =>
      if other.questionId = answer.questionId then answer else other }

end Tables

/-- Stores what is known about a job. The question has to be there, and the key of the job must be
new. -/
def createRecord (database : Database) (now : Micros) (questionId jobId : Option String)
    (status : Option String) (failedReason : Option String) :
    Except Failure JobRecord × Database :=
  let work : Except Stop (JobRecord × Tables) := do
    database.send .insert .records
    let questionId ← required questionId
    let jobId ← required jobId
    demand (database.tables.hasQuestion questionId)
    demand !(database.tables.hasRecord jobId)
    database.finish
    let record : JobRecord :=
      { questionId, jobId, status := status.getD pendingStatus, failedReason, createdAt := now }
    return (record, { database.tables with records := database.tables.records ++ [record] })
  database.commit ("create job metadata for " ++ jobId.getD "None") work
    (database.readBack .records)

/-- What changing a record sends, and what it leads to. -/
def recordUpdate (database : Database) (record : JobRecord) (changes : List RecordChange) :
    Except Stop (JobRecord × Tables) := do
  database.sendIf (changes.any (·.changes record)) .update .records
  let changed ←
    (changes.filter (·.changes record)).foldlM (RecordChange.apply database.tables) record
  database.finish
  return (changed, database.tables.withRecord record.jobId changed)

/-- Changes what is known about a job, if anything is. -/
def updateRecord (database : Database) (jobId : String) (changes : List RecordChange) :
    Except Failure (Option JobRecord) × Database :=
  let work : Except Stop (Option JobRecord × Tables) := do
    database.send .select .records
    match database.tables.record? jobId with
    | none => return (none, database.tables)
    | some record =>
      let (changed, after) ← database.recordUpdate record changes
      return (some changed, after)
  database.commit ("update job metadata for " ++ jobId) work (.ok ())

/-- A field of a value that has fields. -/
def fieldOr (value : Value) (name : String) (default : Value) : Except Failure Value :=
  match value with
  | .object fields => .ok ((Fields.get? fields name).getD default)
  | other => .error (.obstacle (.noFields other.kind))

/-- What is stored of the value that a job returned: its rows and its chart. -/
def storedResult (returned : Value) : Except Failure Value := do
  let result ← fieldOr returned "result" .null
  let rows ← fieldOr (if result.isTruthy then result else .object []) "rows" (.list [])
  let chart ← fieldOr returned "chart_config" .null
  return .object [("rows", rows), ("chart_config", chart)]

/-- What storing an answer sends, and what it leads to: an answer that is there already is replaced
if it differs. -/
def answerStorage (database : Database) (tables : Tables) (answer : Answer) :
    Except Stop Tables := do
  database.send .select .answers
  match tables.answer? answer.questionId with
  | none =>
    database.send .insert .answers
    return { tables with answers := tables.answers ++ [answer] }
  | some known =>
    let changes := !known.result.same answer.result
    database.sendIf changes .update .answers
    return if changes then tables.withAnswer answer else tables

/-- What completing a job sends, and what it leads to. -/
def completion (database : Database) (record : JobRecord) (returned : Value) :
    Except Stop (Answer × Tables) := do
  let result ← (storedResult returned).mapError .failed
  let answer : Answer := ⟨record.questionId, result⟩
  database.sendIf (record.status != completedStatus) .update .records
  let marked :=
    database.tables.withRecord record.jobId { record with status := completedStatus }
  let after ← database.answerStorage marked answer
  database.finish
  return (answer, after)

/-- Marks a job as completed and stores the answer to its question, both or none. -/
def completeJob (database : Database) (jobId : String) (returned : Value) :
    Except Failure Answer × Database :=
  let work : Except Stop (Answer × Tables) := do
    database.send .select .records
    match database.tables.record? jobId with
    | none => .error (.failed (.persistence ("No job metadata for job " ++ jobId)))
    | some record => database.completion record returned
  database.commit ("complete job " ++ jobId) work (.ok ())

end QuestionDesk.Database
