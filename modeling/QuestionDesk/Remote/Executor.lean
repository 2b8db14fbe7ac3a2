import QuestionDesk.Remote.Exchange

/-!
# The executor

A remote server that runs queries. Whatever goes wrong with a query, one kind of failure tells,
unless the answer nests too deep.
-/
namespace QuestionDesk.Remote

open Schema (Check)

/-- What running a query gave. -/
structure Execution where
  /-- The rows. -/
  rows : List Fields
  /-- What is known about the run. -/
  metadata : Fields
  deriving DecidableEq, Repr

namespace Execution

/-- The name of the shape of an execution. -/
def shape : String := "ExecutionResult"

/-- A check of an execution. -/
def check : Value → Check Execution :=
  Check.record shape fun fields =>
    let rows := Check.optional fields "rows" [] (Check.listOf Check.anyObject)
    let metadata := Check.optional fields "execution_metadata" [] Check.anyObject
    (rows.join metadata).map fun (rows, metadata) => ⟨rows, metadata⟩

/-- The rows as a value. -/
def rowsValue (execution : Execution) : Value := .list (execution.rows.map .object)

/-- The fields of an execution. -/
def fields (execution : Execution) : Fields :=
  [("rows", execution.rowsValue), ("execution_metadata", .object execution.metadata)]

end Execution

namespace Executor

/-- The request to run a query. -/
def request (base query : String) : Request :=
  ⟨below base "/query", .object [("sql", .text query)]⟩

/-- What is told of a failure on the way: a failure of an execution, but for one of depth. -/
def told (failure : Failure) : Failure :=
  if failure.isDepth then failure else .execution ("Query failed: " ++ failure.message)

/-- The request to run a query given as a value; only a text that is not empty can be run. -/
def request? (base : String) (query : Value) : Except Failure Request :=
  match query with
  | .text text =>
    if text = "" then .error (.execution "Query must be a non-empty string")
    else match (request base text).refusal? with
      | some failure => .error (told failure)
      | none => .ok (request base text)
  | _ => .error (.execution "Query must be a non-empty string")

/-- The execution in a response. -/
def read (base : String) (response : Response) : Except Failure Execution :=
  match response with
  | .unreached _ message => .error (.execution ("Query failed: " ++ message))
  | .answer status body =>
    if isSuccess status then
      let found := do
        let document ← response.document (below base "/query")
        Failure.ofCheck Execution.shape (Execution.check document)
      found.mapError told
    else
      .error (.execution
        ("Query failed with status " ++ Decimal.naturalText status ++ ": " ++ body))

end Executor

end QuestionDesk.Remote
