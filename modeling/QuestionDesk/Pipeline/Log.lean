import QuestionDesk.Clock
import QuestionDesk.Jobs.Job

/-!
# Run logs

While a question is answered each stage leaves entries in the log of its run. The summary of a run
names the stages that left entries and repeats the entries that report errors.
-/
namespace QuestionDesk.Pipeline

/-- The stages of a run in order. -/
inductive Stage where
  /-- The planner turns the question into a plan. -/
  | plan
  /-- The plan is judged. -/
  | validate
  /-- The plan is turned into a query. -/
  | compile
  /-- An answer to the same query is looked up. -/
  | dedup
  /-- The query is stored with the question. -/
  | persist
  /-- The query is run. -/
  | execute
  /-- A chart is chosen for the rows. -/
  | chart
  /-- The answer is stored for later questions. -/
  | cache
  deriving DecidableEq, Repr

namespace Stage

/-- The stages in order. -/
def all : List Stage :=
  [.plan, .validate, .compile, .dedup, .persist, .execute, .chart, .cache]

/-- The word of a stage. -/
def word : Stage → String
  | .plan => "plan"
  | .validate => "validate"
  | .compile => "compile"
  | .dedup => "dedup"
  | .persist => "persist"
  | .execute => "execute"
  | .chart => "chart"
  | .cache => "cache"

/-- The stage of a word. -/
def ofWord? (word : String) : Option Stage := all.find? (·.word = word)

end Stage

/-- An entry of a log. -/
structure Entry where
  /-- When the entry was left. -/
  moment : Micros
  /-- The stage that left it. -/
  stage : Stage
  /-- What it says. -/
  message : String
  /-- How serious it is. -/
  level : String
  /-- How long the run had taken. -/
  elapsed : Micros
  deriving DecidableEq, Repr

/-- The level of ordinary entries. -/
def infoLevel : String := "info"

/-- The level of entries that tell of a refusal. -/
def warningLevel : String := "warning"

/-- The level of entries that tell of a failure. -/
def errorLevel : String := "error"

/-- An entry as a document. -/
def Entry.document (entry : Entry) : Value :=
  .object [("timestamp", .text (Micros.dateTime entry.moment)), ("step", .text entry.stage.word),
    ("message", .text entry.message), ("level", .text entry.level),
    ("elapsed_seconds", Micros.value entry.elapsed)]

/-- The log of a run. -/
structure Log where
  /-- The key of the job that is run. -/
  jobId : String
  /-- When the run started. -/
  started : Micros
  /-- The entries in order. -/
  entries : List Entry := []
  deriving DecidableEq, Repr

namespace Log

/-- A log with one more entry. -/
def add (log : Log) (now : Micros) (stage : Stage) (message level : String) : Log :=
  { log with entries := log.entries ++ [⟨now, stage, message, level, now - log.started⟩] }

/-- The entries that report errors. -/
def errors (log : Log) : List Entry := log.entries.filter (·.level = errorLevel)

/-- The summary of a run that ends now. -/
def summary (log : Log) (now : Micros) : Value :=
  .object [("job_id", .text log.jobId), ("start_time", .text (Micros.dateTime log.started)),
    ("end_time", .text (Micros.dateTime now)),
    ("duration_seconds", Micros.value (now - log.started)),
    ("steps", .list (log.entries.map fun entry => .text entry.stage.word)),
    ("errors", .list (log.errors.map Entry.document))]

end Log

end QuestionDesk.Pipeline
