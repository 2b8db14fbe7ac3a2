import QuestionDesk.Desk.Basic
import QuestionDesk.Web.Record

/-!
# Reading at the desk

What is told about questions without changing anything: the list of questions, the detail of one,
and the state of its job.
-/
namespace QuestionDesk.Desk

open Database (Dossier Question)
open Web (Detail Progress)

/-- The statuses of jobs that are still worked on. -/
def progressStatuses : List String := ["pending", "processing"]

/-- The result of a question with an answer. -/
def resultOf (dossier : Dossier) : Except Failure (Option Fields) :=
  match dossier.answer.map Database.Answer.result with
  | none | some .null => .ok none
  | some (.object result) => .ok (some result)
  | some _ => .error (.misshapen "QuestionDetailResponse" 1)

/-- What a client is told about a question. The newest job decides: once it has completed the
result is told, and while it is worked on the question is in progress. -/
def detailOf (dossier : Dossier) : Except Failure Detail := do
  let detail (status : Progress) (result : Option Fields) : Detail :=
    { id := dossier.question.id, title := dossier.question.title, status, result }
  match dossier.records.head? with
  | none => return detail .done none
  | some latest =>
    if latest.status = Database.completedStatus ∧ dossier.answer.isSome then
      return detail .done (← resultOf dossier)
    else if latest.status ∈ progressStatuses then return detail .inProgress none
    else return detail .done none

/-- What a client is told about a question, if it is there. -/
def detail (desk : Desk) (questionId : String) : Except Failure (Option Detail) := do
  match ← desk.database.getQuestion questionId with
  | none => return none
  | some dossier => return some (← detailOf dossier)

/-- The suggested questions and those of users, as a document. -/
def list (desk : Desk) : Except Failure Value := do
  let suggested ← desk.database.suggestedQuestions
  let answered ← desk.database.userQuestions
  let rows (questions : List Question) : Value := .list (questions.map (.object ·.summary))
  return .object [("suggested_questions", rows suggested), ("user_questions", rows answered)]

/-- The state of the job of a question, if there is one. -/
def jobState (desk : Desk) (questionId : String) : Except Failure (Option Push.JobState) :=
  match desk.job? questionId with
  | none => .ok none
  | some job => (Push.JobState.ofJob job).map some

end QuestionDesk.Desk
