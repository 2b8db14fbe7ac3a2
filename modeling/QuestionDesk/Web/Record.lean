import QuestionDesk.Schema.Check

/-!
# Records of the web interface

What a client sends to ask a question, and what it is told about a question.
-/
namespace QuestionDesk.Web

open Schema (Check)

/-- What a client sends to ask a question. -/
structure Asked where
  /-- The question, if one was sent. -/
  userPrompt : Option String
  deriving DecidableEq, Repr

namespace Asked

/-- A check of what a client sent. -/
def check : Value → Check Asked :=
  Check.record "QuestionCreate" fun fields =>
    (Check.optional fields "user_prompt" none (Check.nullable Check.text)).map Asked.mk

/-- What a client sent, as a document. -/
def document (asked : Asked) : Value :=
  .object [("user_prompt", (asked.userPrompt.map .text).getD .null)]

end Asked

/-- What a client is told about a question that was taken on. -/
structure Scheduled where
  /-- The question. -/
  questionId : String
  /-- The key of its job. -/
  jobId : String
  deriving DecidableEq, Repr

namespace Scheduled

/-- A check of a record. -/
def check : Value → Check Scheduled :=
  Check.record "QuestionScheduled" fun fields =>
    ((Check.required fields "question_id" Check.text).join
      (Check.required fields "job_id" Check.text)).map fun (questionId, jobId) => ⟨questionId, jobId⟩

/-- A record as a document. -/
def document (scheduled : Scheduled) : Value :=
  .object [("question_id", .text scheduled.questionId), ("job_id", .text scheduled.jobId)]

end Scheduled

/-- Whether a question is still worked on. -/
inductive Progress where
  /-- Nothing more is going to happen. -/
  | done
  /-- The question is worked on. -/
  | inProgress
  deriving DecidableEq, Repr

/-- The word of a progress. -/
def Progress.word : Progress → String
  | .done => "done"
  | .inProgress => "in_progress"

/-- What a client is told about a question. -/
structure Detail where
  /-- The question. -/
  id : String
  /-- Its title. -/
  title : String
  /-- Whether it is still worked on. -/
  status : Progress
  /-- The rows and the chart, once there are any. -/
  result : Option Fields
  deriving DecidableEq, Repr

namespace Detail

/-- A check of the word of a progress. -/
def checkProgress : Value → Check Progress
  | .text "done" => .valid .done
  | .text "in_progress" => .valid .inProgress
  | _ => Check.flawed (.notOneOf ["done", "in_progress"])

/-- A check of a record. -/
def check : Value → Check Detail :=
  Check.record "QuestionDetailResponse" fun fields =>
    let id := Check.required fields "id" Check.text
    let title := Check.required fields "title" Check.text
    let status := Check.required fields "status" checkProgress
    let result := Check.optional fields "result" none (Check.nullable Check.anyObject)
    (((id.join title).join status).join result).map
      fun (((id, title), status), result) => ⟨id, title, status, result⟩

/-- A record as a document. -/
def document (detail : Detail) : Value :=
  .object [("id", .text detail.id), ("title", .text detail.title),
    ("status", .text detail.status.word), ("result", (detail.result.map .object).getD .null)]

end Detail

end QuestionDesk.Web
