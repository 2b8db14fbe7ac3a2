import QuestionDesk.Remote.Exchange

/-!
# The planner

A remote server that turns a question into a plan and chooses a chart for rows. Asking for a plan
may fail. When a chart is asked for, the table stands in wherever none is chosen, unless the rows or
the answer nest too deep.
-/
namespace QuestionDesk.Remote

open Decimal (Double)
open Schema (Check)

/-- What the planner says about a question. -/
structure PlannerAnswer where
  /-- The plan, not yet examined. -/
  plan : Fields
  /-- The title of the question. -/
  title : Option String
  /-- How sure the planner is. -/
  fidelity : Double
  /-- Whether the planner will not answer. -/
  abstain : Bool
  deriving DecidableEq, Repr

namespace PlannerAnswer

/-- The name of the shape of an answer. -/
def shape : String := "PlannerResponse"

/-- A check of an answer. -/
def check : Value → Check PlannerAnswer :=
  Check.record shape fun fields =>
    let plan := Check.required fields "plan" Check.anyObject
    let title := Check.optional fields "title" none (Check.nullable Check.text)
    let fidelity := Check.optional fields "fidelity" (Double.zero false) Check.number
    let abstain := Check.optional fields "abstain" false Check.truth
    (((plan.join title).join fidelity).join abstain).map
      fun (((plan, title), fidelity), abstain) => ⟨plan, title, fidelity, abstain⟩

/-- An answer as a document. -/
def document (answer : PlannerAnswer) : Value :=
  .object [("plan", .object answer.plan), ("title", (answer.title.map .text).getD .null),
    ("fidelity", .float answer.fidelity), ("abstain", .bool answer.abstain)]

end PlannerAnswer

namespace Planner

/-- The request for a plan. -/
def planRequest (base : String) (prompt : Value) : Request :=
  ⟨below base "/plan", .object [("prompt", prompt)]⟩

/-- The request for a plan, if one can be sent. The prompt has to have a length. -/
def planRequest? (base : String) (prompt : Value) : Except Failure Request :=
  match prompt with
  | .text _ | .list _ | .object _ =>
    match (planRequest base prompt).refusal? with
    | some failure => .error failure
    | none => .ok (planRequest base prompt)
  | _ => .error (.noLength prompt.kind)

/-- The answer in a response to a request for a plan; a question that is a text stands in for its
title. -/
def readPlan (base : String) (prompt : Value) (response : Response) :
    Except Failure PlannerAnswer := do
  let request ← planRequest? base prompt
  let document ← response.document request.url
  let answer ← Failure.ofCheck PlannerAnswer.shape (PlannerAnswer.check document)
  return match prompt with
    | .text title => if answer.title.getD "" = "" then { answer with title := some title } else answer
    | _ => answer

/-- The chart that shows rows as a table. -/
def tableChart : Fields := [("chartType", .text "table"), ("encoding", .object [])]

/-- The most rows that a request for a chart carries. -/
def sampleSize : Nat := 10

/-- The request for a chart. -/
def chartRequest (base : String) (rows : List Fields) : Request :=
  let columns := (rows.head?.getD []).map fun field => Value.text field.1
  ⟨below base "/chart", .object [("rows", .list ((rows.take sampleSize).map .object)),
    ("total_rows", .int rows.length), ("columns", .list columns)]⟩

/-- The request for a chart, if one is sent. There is none for no rows, for rows without columns,
and for rows that cannot be sent. -/
def chartRequest? (base : String) (rows : List Fields) : Except Failure (Option Request) :=
  match rows with
  | [] | [] :: _ => .ok none
  | _ =>
    match (chartRequest base rows).refusal? with
    | none => .ok (some (chartRequest base rows))
    | some failure => if failure.isDepth then .error failure else .ok none

/-- The chart in a response to a request for one. -/
def readChart (base : String) (response : Response) : Except Failure Fields :=
  match response.document (below base "/chart") with
  | .ok (.object chart) => .ok (if Fields.has chart "chartType" then chart else tableChart)
  | .ok _ => .ok tableChart
  | .error failure => if failure.isDepth then .error failure else .ok tableChart

/-- The chart for rows: the one in the response to the request for a chart, if one is sent. -/
def chart (base : String) (rows : List Fields) (response : Response) : Except Failure Fields :=
  match chartRequest? base rows with
  | .error failure => .error failure
  | .ok none => .ok tableChart
  | .ok (some _) => readChart base response

end Planner

end QuestionDesk.Remote
