import QuestionDesk.Schema.Check

/-!
# Cache entries

Two families of entries are kept: for the fingerprint of a prompt the question that it became, and
for the fingerprint of a query the answer that it got.
-/
namespace QuestionDesk.Cache

open Schema (Check)

/-- The question that a prompt became. -/
structure PromptEntry where
  /-- The key of the job that answers the question. -/
  jobId : String
  /-- The question. -/
  questionId : String
  deriving DecidableEq, Repr

namespace PromptEntry

/-- A check of an entry. -/
def check : Value → Check PromptEntry :=
  Check.record "PromptCacheEntry" fun fields =>
    let jobId := Check.required fields "job_id" Check.text
    let questionId := Check.required fields "question_id" Check.text
    (jobId.join questionId).map fun (jobId, questionId) => ⟨jobId, questionId⟩

/-- An entry as a document. -/
def document (entry : PromptEntry) : Value :=
  .object [("job_id", .text entry.jobId), ("question_id", .text entry.questionId)]

end PromptEntry

/-- The answer that a query got. -/
structure QueryEntry where
  /-- The question for which the query was run. -/
  questionId : String
  /-- The rows and what is known about the run. -/
  result : Fields
  /-- The chart chosen for the rows. -/
  chart : Fields
  /-- The key of the job that ran the query. -/
  jobId : String
  deriving DecidableEq, Repr

namespace QueryEntry

/-- The name of the shape of an entry. -/
def shape : String := "SqlCacheEntry"

/-- A check of an entry. -/
def check : Value → Check QueryEntry :=
  Check.record shape fun fields =>
    let questionId := Check.required fields "question_id" Check.text
    let result := Check.required fields "result" Check.anyObject
    let chart := Check.optional fields "chart_config" [] Check.anyObject
    let jobId := Check.required fields "job_id" Check.text
    (((questionId.join result).join chart).join jobId).map
      fun (((questionId, result), chart), jobId) => ⟨questionId, result, chart, jobId⟩

/-- An entry as a document. -/
def document (entry : QueryEntry) : Value :=
  .object [("question_id", .text entry.questionId), ("result", .object entry.result),
    ("chart_config", .object entry.chart), ("job_id", .text entry.jobId)]

end QueryEntry

end QuestionDesk.Cache
