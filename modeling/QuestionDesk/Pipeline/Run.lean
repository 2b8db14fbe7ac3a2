import QuestionDesk.Cache.Entry
import QuestionDesk.Fingerprint
import QuestionDesk.Pipeline.Log
import QuestionDesk.Remote.Executor
import QuestionDesk.Remote.Planner

/-!
# Runs

A run answers one question. It asks the planner for a plan, judges it, turns it into a query, waits
for its turn among the runs with that query, and looks up whether the query has been answered. If
so, the question is a duplicate: it is removed, and its prompt is pointed at the question that has
the answer. If not, the query is stored with the question and run, a chart is chosen, and the
answer is remembered.

A run is a state between two calls to the outside. `Run.call?` is the call that it makes next, and
`Run.resume` is what it does with the reply.
-/
namespace QuestionDesk.Pipeline

open Cache (PromptEntry QueryEntry)
open Remote (Execution PlannerAnswer)

/-- What all runs follow. -/
structure Policy where
  /-- How plans are turned into queries. -/
  rules : Sql.Rules := {}
  /-- How plans are judged. -/
  safety : Plan.Safety := {}

/-- A query that answers a question, and how it came about. -/
structure Prepared where
  /-- The title of the question. -/
  title : Value
  /-- The plan. -/
  plan : Fields
  /-- The query. -/
  sql : String
  /-- The fingerprint of the query. -/
  hash : String
  deriving DecidableEq, Repr

/-- How far a run has come. -/
inductive Phase where
  /-- It has not looked at its job. -/
  | opening
  /-- It is about to ask the planner. -/
  | planning
  /-- It waits for its turn. -/
  | queueing (prepared : Prepared)
  /-- It is about to look up the query. -/
  | lookingUp (prepared : Prepared)
  /-- It is about to remove the question, which is a duplicate. -/
  | removing (prepared : Prepared) (known : QueryEntry)
  /-- It is about to point the prompt at the question that has the answer. -/
  | repointing (prepared : Prepared) (known : QueryEntry)
  /-- It is about to store the query with the question. -/
  | saving (prepared : Prepared)
  /-- It is about to run the query. -/
  | executing (prepared : Prepared)
  /-- It is about to have a chart chosen. -/
  | charting (prepared : Prepared) (execution : Execution)
  /-- It is about to remember the answer. -/
  | storing (prepared : Prepared) (execution : Execution) (chart : Fields)
  deriving DecidableEq, Repr

namespace Phase

/-- The stage to which a failure in a phase belongs. -/
def stage : Phase → Stage
  | .opening | .planning => .plan
  | .queueing _ => .compile
  | .lookingUp _ | .removing .. | .repointing .. => .dedup
  | .saving _ => .persist
  | .executing _ => .execute
  | .charting .. => .chart
  | .storing .. => .cache

/-- The query of a phase in which a run waits for its turn or has it. -/
def prepared? : Phase → Option Prepared
  | .opening | .planning => none
  | .queueing prepared | .lookingUp prepared | .removing prepared _ | .repointing prepared _
  | .saving prepared | .executing prepared | .charting prepared _ | .storing prepared _ _ =>
    some prepared

end Phase

/-- A call to the outside. -/
inductive Call where
  /-- Asks the planner for a plan. -/
  | plan (prompt : Value)
  /-- Looks up the answer to a query. -/
  | findQuery (hash : String)
  /-- Removes a question. -/
  | deleteQuestion (questionId : Value)
  /-- Remembers which question a prompt became. -/
  | rememberPrompt (fingerprint : String) (entry : PromptEntry)
  /-- Stores a query with a question. -/
  | updateQuestion (questionId : Value) (prepared : Prepared)
  /-- Runs a query. -/
  | execute (sql : String)
  /-- Has a chart chosen for rows. -/
  | chart (rows : List Fields)
  /-- Remembers the answer to a query: the question and the job that gave it, the result and the
  chart. -/
  | rememberQuery (hash : String) (questionId : Value) (result chart : Fields) (jobId : String)
  deriving DecidableEq, Repr

/-- The reply to a call. -/
inductive Reply where
  /-- The planner answered. -/
  | planned (answer : PlannerAnswer)
  /-- The answer to a query was looked up. -/
  | found (entry : Option QueryEntry)
  /-- The query was run. -/
  | executed (execution : Execution)
  /-- A chart was chosen. -/
  | charted (chart : Fields)
  /-- Something was done that gives no value. -/
  | done
  /-- The call failed. -/
  | failed (failure : Failure)
  deriving DecidableEq, Repr

/-- A run. -/
structure Run where
  /-- The key of the job. -/
  jobId : String
  /-- What the job is about. -/
  payload : Fields
  /-- The question, once the run has looked at its job. -/
  questionId : Value := .null
  /-- The prompt, once the run has looked at its job. -/
  prompt : Value := .null
  /-- The log. -/
  log : Log
  /-- How far the run has come. -/
  phase : Phase := .opening
  deriving DecidableEq, Repr

/-- What a run does when it goes on: it notes something on its job, and is in another phase or has
ended. -/
inductive Next where
  /-- It goes on. -/
  | goOn (run : Run) (notes : Fields)
  /-- It has ended. -/
  | ended (outcome : Except Failure Value) (notes : Fields)

namespace Run

/-- The note under which the title stands. -/
def titleNote : String := "title"

/-- The note under which the fingerprint of the query stands. -/
def hashNote : String := "sql_hash"

/-- The note that marks a job whose question was a duplicate. -/
def duplicateNote : String := "deduplicated"

/-- The note under which the summary of the log stands. -/
def summaryNote : String := "pipeline"

/-- The message for questions that are not answered. -/
def abstentionMessage : String :=
  "Could not generate a safe SQL for this question. Please try refining your prompt."

/-- A run that starts now. -/
def start (now : Micros) (jobId : String) (payload : Fields) : Run :=
  { jobId, payload, log := { jobId, started := now } }

/-- A run with one more entry in its log. -/
def logged (run : Run) (now : Micros) (stage : Stage) (message : String) : Run :=
  { run with log := run.log.add now stage message infoLevel }

/-- A run that ends with an outcome, and its last note. -/
def finish (run : Run) (now : Micros) (outcome : Except Failure Value) (notes : Fields) : Next :=
  .ended outcome (notes ++ [(summaryNote, run.log.summary now)])

/-- A run that ends with a failure, and its last note. -/
def fail (run : Run) (now : Micros) (stage : Stage) (failure : Failure) (notes : Fields) : Next :=
  let log := run.log.add now stage ("Failed: " ++ failure.message) errorLevel
  { run with log := log }.finish now (.error failure) notes

/-- The notes of a run that is cut off. -/
def cutOff (run : Run) (now : Micros) : Fields := [(summaryNote, run.log.summary now)]

/-- A run in another phase. -/
def goTo (run : Run) (phase : Phase) : Next := .goOn { run with phase := phase } []

/-- What stands under a key of a payload. -/
def given (payload : Fields) (key : String) : Except Failure Value :=
  match payload.get? key with
  | some value => .ok value
  | none => .error (.missingKey key)

/-- A run looks at its job. -/
def opened (run : Run) (now : Micros) : Next :=
  let known := do
    let questionId ← given run.payload "question_id"
    let prompt ← given run.payload "user_prompt"
    return (questionId, prompt)
  match known with
  | .ok (questionId, prompt) => { run with questionId, prompt }.goTo .planning
  | .error failure => run.fail now .plan failure []

/-- The first twelve digits of a fingerprint, by which the log names a query. -/
def shortHash (hash : String) : String := String.ofList (hash.toList.take 12)

/-- What the log says about an execution. -/
def rowsText (execution : Execution) : String :=
  "Executor returned " ++ Decimal.naturalText execution.rows.length ++ " rows"

/-- What the log says about a chart. -/
def chartText (chart : Fields) : String := "Chart type " ++ (chart.get "chartType").shown

/-- What the judgement of a plan knows besides the plan. -/
def report (answer : PlannerAnswer) : Fields :=
  [("fidelity", .float answer.fidelity), ("abstain", .bool answer.abstain)]

/-- The query that a plan stands for. -/
def compile (policy : Policy) (plan : Fields) : Except Failure String := do
  let root ← (Plan.read (.object plan)).mapError Failure.ofIssue
  (policy.rules.statementText root).mapError Failure.ofFault

/-- The title of a question: that of the planner, or else the prompt. -/
def titleFor (prompt : Value) (answer : PlannerAnswer) : Value :=
  match answer.title with
  | some title => if title = "" then prompt else .text title
  | none => prompt

/-- A run turns the plan that it got into a query, after judging it. The query has to have a
fingerprint. -/
def planned (policy : Policy) (run : Run) (now : Micros) (answer : PlannerAnswer) : Next :=
  let title := titleFor run.prompt answer
  let notes : Fields := [(titleNote, title)]
  let received := run.logged now .plan ("Plan received, fidelity " ++ answer.fidelity.fixed 2)
  match policy.safety.judge (.object answer.plan) (report answer) with
  | .error obstacle => received.fail now .validate (.obstacle obstacle) notes
  | .ok (some rejection) =>
    let log := received.log.add now .validate ("Plan rejected: " ++ rejection.message) warningLevel
    { received with log := log }.fail now .validate
      (.abstention abstentionMessage (some rejection.message)) notes
  | .ok none =>
    match compile policy answer.plan with
    | .error failure => received.fail now .compile failure notes
    | .ok sql =>
      match queryKey sql with
      | .error failure => received.fail now .compile failure notes
      | .ok hash =>
        let prepared : Prepared := { title, plan := answer.plan, sql, hash }
        let compiled := received.logged now .compile ("Compiled SQL " ++ shortHash hash)
        .goOn { compiled with phase := .queueing prepared } (notes ++ [(hashNote, .text hash)])

/-- The value that a run returns. -/
def answerValue (result chart : Fields) : Value :=
  .object [("result", .object result), ("chart_config", .object chart)]

/-- The fingerprint of what is given as a prompt. Nothing and everything empty count as the empty
text, and no other value than a text has a fingerprint. -/
def keyFor (prompt : Value) : Except Failure String :=
  match prompt with
  | .text prompt => promptKey prompt
  | _ => if prompt.isTruthy then .error (.noBlanks prompt.kind) else promptKey ""

/-- A run points its prompt at the question that has the answer, if the prompt has a fingerprint. -/
def point (run : Run) (now : Micros) (prepared : Prepared) (known : QueryEntry) : Next :=
  match keyFor run.prompt with
  | .ok _ => run.goTo (.repointing prepared known)
  | .error failure => run.fail now .dedup failure []

/-- A run learns whether the query has been answered. -/
def lookedUp (run : Run) (now : Micros) (prepared : Prepared) : Option QueryEntry → Next
  | none => run.goTo (.saving prepared)
  | some known =>
    let told := run.logged now .dedup ("SQL already answered by question " ++ known.questionId)
    if Value.text known.questionId = run.questionId then told.point now prepared known
    else told.goTo (.removing prepared known)

/-- The entry that points a prompt at the question that has the answer. -/
def pointer (known : QueryEntry) : PromptEntry := ⟨known.jobId, known.questionId⟩

/-- The call that a run makes next. A run that has not looked at its job or waits for its turn makes
none. -/
def call? (run : Run) : Option Call :=
  match run.phase with
  | .opening | .queueing _ => none
  | .planning => some (.plan run.prompt)
  | .lookingUp prepared => some (.findQuery prepared.hash)
  | .removing _ _ => some (.deleteQuestion run.questionId)
  | .repointing _ known =>
    (keyFor run.prompt).toOption.map fun key => .rememberPrompt key (pointer known)
  | .saving prepared => some (.updateQuestion run.questionId prepared)
  | .executing prepared => some (.execute prepared.sql)
  | .charting _ execution => some (.chart execution.rows)
  | .storing prepared execution chart =>
    some (.rememberQuery prepared.hash run.questionId execution.fields chart run.jobId)

/-- What a run does with the reply to its call. A failed call ends it; a reply that does not belong
to the call leaves it as it is. -/
def resume (policy : Policy) (run : Run) (now : Micros) (reply : Reply) : Next :=
  match run.phase, reply with
  | phase, .failed failure => run.fail now phase.stage failure []
  | .planning, .planned answer => planned policy run now answer
  | .lookingUp prepared, .found known => run.lookedUp now prepared known
  | .removing prepared known, .done => run.point now prepared known
  | .repointing _ known, .done =>
    run.finish now (.ok (answerValue known.result known.chart)) [(duplicateNote, .bool true)]
  | .saving prepared, .done =>
    (run.logged now .persist ("Saved SQL for question " ++ run.questionId.shown)).goTo
      (.executing prepared)
  | .executing prepared, .executed execution =>
    (run.logged now .execute (rowsText execution)).goTo (.charting prepared execution)
  | .charting prepared execution, .charted chart =>
    (run.logged now .chart (chartText chart)).goTo (.storing prepared execution chart)
  | .storing prepared execution chart, .done =>
    (run.logged now .cache ("Cached result for SQL " ++ shortHash prepared.hash)).finish now
      (.ok (answerValue execution.fields chart)) []
  | _, _ => .goOn run []

/-- A run whose turn has come looks up the query. -/
def admitted (run : Run) : Next :=
  match run.phase with
  | .queueing prepared => run.goTo (.lookingUp prepared)
  | _ => .goOn run []

end Run

end QuestionDesk.Pipeline
