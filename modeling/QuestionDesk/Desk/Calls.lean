import QuestionDesk.Desk.Basic

/-!
# Calls

What the calls of runs bring about at the desk. Some send a request to a remote server and are
replied to with what its response says; the others are done by the store or the database at once.
-/
namespace QuestionDesk.Desk

/-- The request that a call sends to a remote server, if it sends one. -/
def request? (desk : Desk) : Pipeline.Call → Option Remote.Request
  | .plan prompt => (Remote.Planner.planRequest? desk.plannerUrl prompt).toOption
  | .execute sql => (Remote.Executor.request? desk.executorUrl (.text sql)).toOption
  | .chart rows => (Remote.Planner.chartRequest? desk.plannerUrl rows).toOption.join
  | _ => none

/-- The reply of something that gives no value. -/
def replyOf {α : Type} : Except Failure α → Pipeline.Reply
  | .ok _ => .done
  | .error failure => .failed failure

/-- The changes to a question whose query is stored. -/
def savedChanges (prepared : Pipeline.Prepared) : List Database.QuestionChange :=
  [.sqlText (some prepared.sql), .sqlHash (some prepared.hash), .plan (.object prepared.plan),
    .title (some prepared.title.shown)]

/-- The store remembers the answer to a query. The question has to be a text. -/
def rememberQuery (desk : Desk) (hash : String) (questionId : Value) (result chart : Fields)
    (jobId : String) : Except Failure Cache.Store :=
  match questionId with
  | .text questionId =>
    desk.store.putQuery desk.now desk.keepSeconds hash ⟨questionId, result, chart, jobId⟩
  | _ => .error (.misshapen Cache.QueryEntry.shape 1)

/-- The reply to a call, and the desk after it. The response is that of the remote server, where the
call sends a request. To the database a key is its text. -/
def perform (desk : Desk) (call : Pipeline.Call) (response : Remote.Response) :
    Pipeline.Reply × Desk :=
  match call with
  | .plan prompt =>
    (match Remote.Planner.readPlan desk.plannerUrl prompt response with
      | .ok answer => .planned answer
      | .error failure => .failed failure, desk)
  | .findQuery hash =>
    (match desk.store.findQuery desk.now hash with
      | .ok entry => .found entry
      | .error failure => .failed failure, desk)
  | .deleteQuestion questionId =>
    let (outcome, after) := desk.database.deleteQuestion questionId.shown
    (replyOf outcome, { desk with database := after })
  | .rememberPrompt fingerprint entry =>
    match desk.store.putPrompt desk.now desk.keepSeconds fingerprint entry with
    | .ok after => (.done, { desk with store := after })
    | .error failure => (.failed failure, desk)
  | .updateQuestion questionId prepared =>
    let (outcome, after) := desk.database.updateQuestion questionId.shown (savedChanges prepared)
    (replyOf outcome, { desk with database := after })
  | .execute sql =>
    (match Remote.Executor.request? desk.executorUrl (.text sql) with
      | .error failure => .failed failure
      | .ok _ =>
        match Remote.Executor.read desk.executorUrl response with
        | .ok execution => .executed execution
        | .error failure => .failed failure, desk)
  | .chart rows =>
    (match Remote.Planner.chart desk.plannerUrl rows response with
      | .ok chart => .charted chart
      | .error failure => .failed failure, desk)
  | .rememberQuery hash questionId result chart jobId =>
    match desk.rememberQuery hash questionId result chart jobId with
    | .ok after => (.done, { desk with store := after })
    | .error failure => (.failed failure, desk)

end QuestionDesk.Desk
