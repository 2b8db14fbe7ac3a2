import QuestionDesk.Clock
import QuestionDesk.Failure
import QuestionDesk.Jobs.Job

/-!
# The database

Four tables hold the questions, what is known about their jobs, their answers, and each time one
was asked. A transaction sends statements; when one of them or its end fails, nothing has happened.
What fails for a while is part of the database.
-/
namespace QuestionDesk.Database

open Jobs (Job)

/-! ## Rows -/

/-- A question. -/
structure Question where
  /-- The key. -/
  id : String
  /-- The question as it was asked. -/
  content : String
  /-- Its title. -/
  title : String
  /-- The query that answers it. -/
  sqlText : String
  /-- The fingerprint of the query. -/
  sqlHash : String
  /-- The plan of the query, nothing while there is none. -/
  plan : Value
  /-- Whether a user asked it or it is suggested. -/
  kind : String
  /-- When it was stored. -/
  createdAt : Micros
  deriving DecidableEq, Repr

/-- What is known about a job. -/
structure JobRecord where
  /-- The question that the job answers. -/
  questionId : String
  /-- The key of the job. -/
  jobId : String
  /-- The word of its status. -/
  status : String
  /-- Why it failed. -/
  failedReason : Option String
  /-- When it was stored. -/
  createdAt : Micros
  deriving DecidableEq, Repr

/-- The answer to a question. -/
structure Answer where
  /-- The question. -/
  questionId : String
  /-- The rows and the chart. -/
  result : Value
  deriving DecidableEq, Repr

/-- That a question was asked. -/
structure Request where
  /-- The question. -/
  questionId : String
  /-- Where it was asked. -/
  source : Option String
  /-- When it was asked. -/
  createdAt : Micros
  deriving DecidableEq, Repr

/-- The kind of questions that users ask. -/
def userKind : String := "user"

/-- The kind of questions that are suggested. -/
def suggestedKind : String := "suggested"

/-- The status of a job that has completed. -/
def completedStatus : String := "completed"

/-- The status of a job that has failed. -/
def failedStatus : String := "failed"

/-- The status of a job that no worker has taken. -/
def pendingStatus : String := "pending"

/-- The title of a question while there is no plan for it. -/
def processingTitle : String := "Processing..."

/-! ## Documents -/

/-- The fields of a question that lists show. -/
def Question.summary (question : Question) : Fields :=
  [("id", .text question.id), ("question_content", .text question.content),
    ("title", .text question.title), ("type", .text question.kind),
    ("created_at", .text (Micros.dateTime question.createdAt))]

/-- All fields of a question. -/
def Question.fields (question : Question) : Fields :=
  question.summary ++ [("sql_text", .text question.sqlText), ("sql_hash", .text question.sqlHash),
    ("plan", question.plan)]

/-- What is known about a job, as a document. -/
def JobRecord.document (record : JobRecord) : Value :=
  .object [("question_id", .text record.questionId), ("job_id", .text record.jobId),
    ("status", .text record.status), ("failed_reason", Job.textValue record.failedReason)]

/-- An answer as a document. -/
def Answer.document (answer : Answer) : Value :=
  .object [("question_id", .text answer.questionId), ("result", answer.result)]

/-- That a question was asked, as a document. -/
def Request.document (request : Request) : Value :=
  .object [("question_id", .text request.questionId), ("source", Job.textValue request.source)]

/-! ## Tables -/

/-- The rows of all tables in the order in which they were stored. -/
structure Tables where
  /-- The questions. -/
  questions : List Question := []
  /-- What is known about jobs. -/
  records : List JobRecord := []
  /-- The answers. -/
  answers : List Answer := []
  /-- The requests. -/
  requests : List Request := []
  deriving DecidableEq, Repr

namespace Tables

/-- The question of a key. -/
def question? (tables : Tables) (id : String) : Option Question :=
  tables.questions.find? (·.id = id)

/-- Whether there is a question of a key. -/
def hasQuestion (tables : Tables) (id : String) : Bool := tables.questions.any (·.id = id)

/-- What is known about the job of a key. -/
def record? (tables : Tables) (jobId : String) : Option JobRecord :=
  tables.records.find? (·.jobId = jobId)

/-- Whether anything is known about the job of a key. -/
def hasRecord (tables : Tables) (jobId : String) : Bool := tables.records.any (·.jobId = jobId)

/-- The answer to a question. -/
def answer? (tables : Tables) (questionId : String) : Option Answer :=
  tables.answers.find? (·.questionId = questionId)

/-- Whether a job of a question has completed. -/
def isAnswered (tables : Tables) (questionId : String) : Bool :=
  tables.records.any fun record =>
    record.questionId = questionId && record.status = completedStatus

/-- The number of rows of each table. -/
def counts (tables : Tables) : Value :=
  .object [("questions", .int tables.questions.length), ("job_metadata", .int tables.records.length),
    ("question_results", .int tables.answers.length),
    ("question_requests", .int tables.requests.length)]

end Tables

/-- The newest first; rows stored at one moment stay in their order. -/
def newestFirst {α : Type} (createdAt : α → Micros) (rows : List α) : List α :=
  rows.mergeSort fun left right => createdAt right ≤ createdAt left

/-! ## Statements -/

/-- What a statement does. -/
inductive Verb where
  /-- It stores a row. -/
  | insert
  /-- It changes rows. -/
  | update
  /-- It removes rows. -/
  | delete
  /-- It reads rows. -/
  | select
  deriving DecidableEq, Repr

/-- The tables. -/
inductive Table where
  /-- The questions. -/
  | questions
  /-- What is known about jobs. -/
  | records
  /-- The answers. -/
  | answers
  /-- The requests. -/
  | requests
  deriving DecidableEq, Repr

/-- What fails. -/
inductive Fault where
  /-- Every statement. -/
  | everything
  /-- The statements that do one thing to one table. -/
  | statement (verb : Verb) (table : Table)
  /-- The ends of transactions. -/
  | ending
  /-- The statements that read what a transaction has stored in a table. -/
  | readingBack (table : Table)
  deriving DecidableEq, Repr

/-- Why a transaction stops. -/
inductive Stop where
  /-- A statement failed or broke a constraint. -/
  | refused
  /-- Something else failed. -/
  | failed (failure : Failure)
  deriving DecidableEq, Repr

/-- The failure of a transaction that stops, given what it was to do. -/
def Stop.failure (stop : Stop) (action : String) : Failure :=
  match stop with
  | .refused => .persistence ("Failed to " ++ action)
  | .failed failure => failure

/-- Goes on only where a condition holds. -/
def demand (condition : Bool) : Except Stop Unit := if condition then .ok () else .error .refused

/-- The value that must not be missing. -/
def required {α : Type} (value : Option α) : Except Stop α :=
  match value with
  | some value => .ok value
  | none => .error .refused

end Database

/-- The tables, and what fails. -/
structure Database where
  /-- The tables. -/
  tables : Database.Tables := {}
  /-- What fails. -/
  faults : List Database.Fault := []
  deriving DecidableEq, Repr

namespace Database

/-- Sends a statement. -/
def send (database : Database) (verb : Verb) (table : Table) : Except Stop Unit :=
  demand !(database.faults.contains .everything ||
    database.faults.contains (.statement verb table))

/-- Sends a statement where a condition holds. -/
def sendIf (database : Database) (condition : Bool) (verb : Verb) (table : Table) :
    Except Stop Unit :=
  if condition then database.send verb table else .ok ()

/-- Ends a transaction. -/
def finish (database : Database) : Except Stop Unit := demand !database.faults.contains .ending

/-- Reads what a transaction has stored in a table. -/
def readBack (database : Database) (table : Table) : Except Stop Unit := do
  database.send .select table
  demand !database.faults.contains (.readingBack table)

/-- Commits what a transaction has worked out, unless it stopped, and then reads what was stored.
A failure to read does not undo what was committed. -/
def commit {α : Type} (database : Database) (action : String) (work : Except Stop (α × Tables))
    (reading : Except Stop Unit) : Except Failure α × Database :=
  match work with
  | .error stop => (.error (stop.failure action), database)
  | .ok (value, tables) =>
    let after := { database with tables := tables }
    match reading with
    | .ok () => (.ok value, after)
    | .error stop => (.error (stop.failure action), after)

/-- Answers from what was read. -/
def answering {α : Type} (action : String) (work : Except Stop α) : Except Failure α :=
  work.mapError (·.failure action)

end Database

end QuestionDesk
