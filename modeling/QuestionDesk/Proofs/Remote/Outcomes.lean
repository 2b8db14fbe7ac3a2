import QuestionDesk.Desk.Action
import QuestionDesk.Proofs.Plan.Grammar
import QuestionDesk.Proofs.Remote.Answers

/-!
# Outcomes of remote calls

What becomes of a query that is given to the executor, and of rows for which a chart is asked,
whatever the remote server does. A query gives what a successful response holds or an execution
failure, and a chart is what a successful response holds or the table. There is one exception to
both: rows and bodies that nest too deep. A run that has its rows gets its chart but for that.
-/
namespace QuestionDesk

open Pipeline (Run Runner)
open Plan (DescribesList MayHold describesList_iff mayHold_iff)

namespace Remote

open Schema.Check

/-! ## Documents -/

/-- A response is a success whose body is a document. -/
def Response.Holds (response : Response) (document : Value) : Prop :=
  ∃ status body, response = .answer status body ∧ (200 ≤ status ∧ status < 300) ∧
    Json.readBody body = .ok document

/-- The document of a response is the one that it holds. -/
theorem document_eq_ok_iff {response : Response} {url : String} {document : Value} :
    response.document url = .ok document ↔ response.Holds document := by
  cases response with
  | unreached outage message => simp [Response.document, Response.Holds]
  | answer status body =>
    simp only [Response.document, Response.Holds, Response.answer.injEq, isSuccess_iff]
    split
    · next success =>
      cases read : Json.readBody body <;> simp [read, Except.mapError, success]
    · next failure => simp [failure]

/-- A response holds one document. -/
theorem Response.Holds.unique {response : Response} {first second : Value}
    (one : response.Holds first) (other : response.Holds second) : first = second := by
  have read := (@document_eq_ok_iff response "" first).mpr one
  rw [document_eq_ok_iff.mpr other] at read
  exact (Except.ok.inj read).symm

/-! ## Executions -/

/-- A document describes an execution: it is an object whose rows, if there are any, are a list of
objects, and whose metadata, if there is any, is an object. It may have other fields. -/
def DescribesExecution (document : Value) (execution : Execution) : Prop :=
  ∃ fields : Fields, document = .object fields ∧
    MayHold fields "rows" [] (DescribesList fun item row => item = .object row) execution.rows ∧
    MayHold fields "execution_metadata" [] (fun value known => value = .object known)
      execution.metadata

/-- The check of an execution accepts what describes one. -/
theorem Execution.check_iff {document : Value} {execution : Execution} :
    (check document).value? = some execution ↔ DescribesExecution document execution := by
  rw [check, record_accepts, DescribesExecution]
  refine exists_congr fun fields => and_congr_right fun _ => ?_
  rw [value?_map, Option.map_eq_some_iff]
  constructor
  · rintro ⟨⟨rows, metadata⟩, both, rfl⟩
    rw [join_accepts, mayHold_iff fun _ _ => describesList_iff fun _ _ => anyObject_accepts,
      mayHold_iff fun _ _ => anyObject_accepts] at both
    exact both
  · rintro ⟨rows, metadata⟩
    refine ⟨(execution.rows, execution.metadata), ?_, rfl⟩
    rw [join_accepts, mayHold_iff fun _ _ => describesList_iff fun _ _ => anyObject_accepts,
      mayHold_iff fun _ _ => anyObject_accepts]
    exact ⟨rows, metadata⟩

namespace Executor

/-- What comes of a query that is given to the executor as a value. -/
def execute (base : String) (query : Value) (response : Response) : Except Failure Execution := do
  let _ ← request? base query
  read base response

/-- A query that can be sent: a text that is not empty and has a UTF-8 form. -/
def Sendable (query : Value) : Prop :=
  ∃ text, query = .text text ∧ text ≠ "" ∧ Text.flaw? text = none

/-- What keeps a text from being sent is that it has no UTF-8 form. -/
theorem refusal?_eq_none_iff {base text : String} :
    (request base text).refusal? = none ↔ Text.flaw? text = none := by
  have name : Text.flaw? "sql" = none := by decide
  have levels : (1 : Nat) ≤ Json.nestingLimit := by decide
  rw [Request.refusal?_eq_none_iff]
  exact ⟨fun ⟨_, _, whole⟩ => whole.2.1, fun whole => ⟨rfl, levels, name, whole, trivial⟩⟩

/-- A request is sent for a query that can be sent, and for nothing else. -/
theorem request?_eq_ok_iff {base : String} {query : Value} :
    (∃ request, request? base query = .ok request) ↔ Sendable query := by
  unfold request? Sendable
  cases query with
  | text text =>
    by_cases empty : text = ""
    · simp [empty]
    · cases refusal : (request base text).refusal? with
      | some failure =>
        have flawed : Text.flaw? text ≠ none := fun whole => by
          rw [refusal?_eq_none_iff.mpr whole] at refusal
          cases refusal
        simp [empty, refusal, flawed]
      | none => simp [empty, refusal, refusal?_eq_none_iff.mp refusal]
  | _ => simp

/-- The execution that is read from a response is the one that its document describes. -/
theorem read_eq_ok_iff {base : String} {response : Response} {execution : Execution} :
    read base response = .ok execution ↔
      ∃ document, response.Holds document ∧ DescribesExecution document execution := by
  simp only [← @document_eq_ok_iff response (below base "/query"), ← Execution.check_iff]
  cases response with
  | unreached outage message => simp [read, Response.document]
  | answer status body =>
    cases success : isSuccess status with
    | false => simp [read, Response.document, success]
    | true =>
      simp only [read, success, if_true]
      cases Response.document (.answer status body) (below base "/query") with
      | error failure => simp [bind, Except.bind, Except.mapError]
      | ok document =>
        cases checked : Execution.check document <;>
          simp [bind, Except.bind, Except.mapError, Failure.ofCheck, checked, value?]

section Execute

variable {base : String} {query : Value} {response : Response}

/-- A query that can be sent is run as its response says. -/
theorem execute_of_sendable (sendable : Sendable query) :
    execute base query response = read base response := by
  obtain ⟨request, asked⟩ := (@request?_eq_ok_iff base query).mpr sendable
  rw [execute, asked]
  rfl

/-- A query that cannot be sent gives a failure of an execution. -/
theorem execute_of_not_sendable (unsendable : ¬Sendable query) :
    ∃ message, execute base query response = .error (.execution message) := by
  cases asked : request? base query with
  | ok request => exact absurd (request?_eq_ok_iff.mp ⟨request, asked⟩) unsendable
  | error failure =>
    obtain ⟨message, rfl⟩ := execution_of_request? asked
    exact ⟨message, by rw [execute, asked]; rfl⟩

/-- A query gives an execution when it can be sent and the response holds a document that describes
the execution. -/
theorem execute_eq_ok_iff {execution : Execution} : execute base query response = .ok execution ↔
    Sendable query ∧ ∃ document, response.Holds document ∧
      DescribesExecution document execution := by
  rw [← @read_eq_ok_iff base]
  by_cases sendable : Sendable query
  · rw [execute_of_sendable sendable, and_iff_right sendable]
  · obtain ⟨message, refused⟩ := @execute_of_not_sendable base query response sendable
    simp [refused, sendable]

/-- A query gives a failure of an execution where it gives no execution, but for a query that can be
sent and a body that nests too deep. -/
theorem execute_eq_error {failure : Failure}
    (refused : execute base query response = .error failure) :
    (∃ message, failure = .execution message) ∨ ∃ kind, failure = .unreadable (.tooDeep kind) ∧
      Sendable query ∧ response.NestsTooDeep kind := by
  by_cases sendable : Sendable query
  · rw [execute_of_sendable sendable] at refused
    rcases read_eq_error refused with plain | ⟨kind, same, deep⟩
    · exact Or.inl plain
    · exact Or.inr ⟨kind, same, sendable, deep⟩
  · obtain ⟨message, told⟩ := @execute_of_not_sendable base query response sendable
    rw [told] at refused
    cases refused
    exact Or.inl ⟨message, rfl⟩

/-- A query that can be sent gives a failure of depth where the body nests too deep. -/
theorem execute_of_nestsTooDeep (sendable : Sendable query) {kind : Kind}
    (deep : response.NestsTooDeep kind) :
    execute base query response = .error (.unreadable (.tooDeep kind)) := by
  rw [execute_of_sendable sendable]
  have document := deep.document_eq (below base "/query")
  obtain ⟨status, body, rfl, success, -⟩ := deep
  simp only [read, if_pos (isSuccess_iff.mpr success), document]
  rfl

end Execute

end Executor

/-! ## Charts -/

namespace Planner

/-- Rows of which the first one has columns. -/
def HasColumns (rows : List Fields) : Prop := ∃ first rest, rows = first :: rest ∧ first ≠ []

/-- The body of the request for a chart: the first rows, at most ten of them, how many rows there
are, and the names of the columns of the first one. -/
def chartBody (rows : List Fields) : Value :=
  .object [("rows", .list ((rows.take (min 10 rows.length)).map .object)),
    ("total_rows", .int rows.length),
    ("columns", .list ((rows.head?.getD []).map fun field => .text field.1))]

/-- Rows for which a chart can be asked: the first one has columns, there is room for their levels,
and all texts in them have a UTF-8 form. -/
def Sendable (rows : List Fields) : Prop :=
  HasColumns rows ∧ Json.levels (chartBody rows) ≤ Json.nestingLimit ∧
    Json.Encodable (chartBody rows)

/-- A response holds the chart: an object that tells the type of a chart. -/
def HoldsChart (response : Response) (chart : Fields) : Prop :=
  response.Holds (.object chart) ∧ (chart.get? "chartType").isSome = true

section Charts

variable {base : String} {rows : List Fields} {response : Response}

/-- Rows in which all numbers are finite are asked about in a value in which they are. -/
theorem allFinite_chartBody (finite : ∀ row ∈ rows, Value.fieldsFinite row = true) :
    (chartBody rows).allFinite = true := by
  have all : ∀ items : List Fields, (∀ row ∈ items, Value.fieldsFinite row = true) →
      Value.itemsFinite (items.map .object) = true := by
    intro items
    induction items with
    | nil => exact fun _ => rfl
    | cons row items ih =>
      intro finite
      rw [List.map_cons, Value.itemsFinite, Value.allFinite, finite row List.mem_cons_self,
        ih fun other member => finite other (List.mem_cons_of_mem _ member)]
      rfl
  have texts : ∀ columns : Fields,
      Value.itemsFinite (columns.map fun field => .text field.1) = true := by
    intro columns
    induction columns with
    | nil => rfl
    | cons column columns ih =>
      rw [List.map_cons, Value.itemsFinite, ih]
      rfl
  simp only [chartBody, Value.allFinite, Value.fieldsFinite, texts,
    all _ fun row member => finite row (List.mem_of_mem_take member), Bool.and_self]

/-- The request for a chart carries the body that tells about the rows. -/
theorem chartRequest_eq : chartRequest base rows = ⟨below base "/chart", chartBody rows⟩ := by
  have sample : rows.take (min 10 rows.length) = rows.take sampleSize := by
    rw [sampleSize, List.take_eq_take_iff]
    omega
  rw [chartBody, sample]
  rfl

/-- No chart is asked for where the first row has no columns. -/
theorem chartRequest?_of_not_hasColumns (bare : ¬HasColumns rows) :
    chartRequest? base rows = .ok none := by
  match rows with
  | [] => rfl
  | [] :: rest => rfl
  | (field :: fields) :: rest =>
    exact absurd ⟨_, rest, rfl, List.cons_ne_nil field fields⟩ bare

/-- Whether a chart is asked for rows with columns depends on what stops the request. -/
theorem chartRequest?_of_hasColumns (columns : HasColumns rows) : chartRequest? base rows =
    match Json.hindrance? Json.nestingLimit (chartBody rows) with
    | none => .ok (some ⟨below base "/chart", chartBody rows⟩)
    | some .tooDeep => .error .tooDeep
    | some _ => .ok none := by
  obtain ⟨first, rest, rfl, filled⟩ := columns
  match first, filled with
  | field :: fields, _ =>
    simp only [chartRequest?, chartRequest_eq, Request.refusal?]
    rcases Json.hindrance? Json.nestingLimit (chartBody ((field :: fields) :: rest)) with
      _ | hindrance
    · rfl
    · cases hindrance <;> rfl

/-- For rows in which all numbers are finite a chart is asked for where it can be. -/
theorem chartRequest?_eq_some_iff (finite : ∀ row ∈ rows, Value.fieldsFinite row = true)
    {request : Request} : chartRequest? base rows = .ok (some request) ↔
      Sendable rows ∧ request = ⟨below base "/chart", chartBody rows⟩ := by
  by_cases columns : HasColumns rows
  · have sendable : Sendable rows ↔
        Json.hindrance? Json.nestingLimit (chartBody rows) = none := by
      rw [Sendable, and_iff_right columns, Json.hindrance?_eq_none_iff,
        and_iff_right (allFinite_chartBody finite)]
    rw [chartRequest?_of_hasColumns columns, sendable]
    rcases Json.hindrance? Json.nestingLimit (chartBody rows) with _ | hindrance
    · simp [eq_comm]
    · cases hindrance <;> simp
  · rw [chartRequest?_of_not_hasColumns columns]
    simp [Sendable, columns]

/-- Asking for a chart for rows in which all numbers are finite fails where the rows nest too deep.
-/
theorem chartRequest?_eq_error_iff (finite : ∀ row ∈ rows, Value.fieldsFinite row = true)
    {failure : Failure} : chartRequest? base rows = .error failure ↔
      HasColumns rows ∧ Json.nestingLimit < Json.levels (chartBody rows) ∧
        failure = .tooDeep := by
  by_cases columns : HasColumns rows
  · rw [chartRequest?_of_hasColumns columns, and_iff_right columns,
      ← Json.hindrance?_eq_tooDeep_iff (allFinite_chartBody finite)]
    rcases Json.hindrance? Json.nestingLimit (chartBody rows) with _ | hindrance
    · simp
    · cases hindrance <;> simp [eq_comm]
  · rw [chartRequest?_of_not_hasColumns columns]
    simp [columns]

/-- The chart of a response that holds one. -/
theorem readChart_of_holds {chart : Fields} (holds : HoldsChart response chart) :
    readChart base response = .ok chart := by
  unfold readChart
  rw [document_eq_ok_iff.mpr holds.1]
  exact congrArg Except.ok (if_pos holds.2)

/-- Reading a chart fails where the body of the response nests too deep. -/
theorem readChart_eq_error_iff {failure : Failure} : readChart base response = .error failure ↔
    ∃ kind, response.NestsTooDeep kind ∧ failure = .unreadable (.tooDeep kind) := by
  constructor
  · intro refused
    unfold readChart at refused
    split at refused
    · cases refused
    · cases refused
    · next lost found =>
      split at refused
      · next deep =>
        cases refused
        obtain ⟨kind, same, nests⟩ := nestsTooDeep_of_document found deep
        exact ⟨kind, nests, same⟩
      · cases refused
  · rintro ⟨kind, deep, rfl⟩
    rw [readChart, deep.document_eq]
    rfl

/-- A chart that is read is the one that the response holds, or the table where it holds none. -/
theorem readChart_eq_ok {chart : Fields} (given : readChart base response = .ok chart) :
    HoldsChart response chart ∨ chart = tableChart ∧ ¬∃ other, HoldsChart response other := by
  have table : ∀ {document : Value}, response.Holds document →
      (∀ fields : Fields, document = .object fields →
        (fields.get? "chartType").isSome = false) →
        ¬∃ other, HoldsChart response other := by
    rintro document holds untyped ⟨other, found, typed⟩
    rw [untyped other (holds.unique found)] at typed
    cases typed
  unfold readChart at given
  split at given
  · next fields found =>
    have holds := document_eq_ok_iff.mp found
    split at given
    · next typed =>
      cases given
      exact Or.inl ⟨holds, typed⟩
    · next untyped =>
      cases given
      refine Or.inr ⟨rfl, table holds fun other same => ?_⟩
      cases same
      exact Bool.eq_false_iff.mpr untyped
  · next document other found =>
    cases given
    exact Or.inr ⟨rfl, table (document_eq_ok_iff.mp found) fun fields same =>
      (other fields same).elim⟩
  · next failure found =>
    split at given
    · cases given
    · cases given
      refine Or.inr ⟨rfl, fun ⟨other, holds, _⟩ => ?_⟩
      rw [document_eq_ok_iff.mpr holds] at found
      cases found

/-- What comes of rows in which all numbers are finite: where a chart can be asked for, what is read
from the response; a failure of depth where they nest too deep; and the table otherwise. -/
theorem chart_cases (finite : ∀ row ∈ rows, Value.fieldsFinite row = true) :
    (Sendable rows ∧ chart base rows response = readChart base response) ∨
    ((HasColumns rows ∧ Json.nestingLimit < Json.levels (chartBody rows)) ∧ ¬Sendable rows ∧
      chart base rows response = .error .tooDeep) ∨
    (¬Sendable rows ∧ ¬(HasColumns rows ∧ Json.nestingLimit < Json.levels (chartBody rows)) ∧
      chart base rows response = .ok tableChart) := by
  unfold chart
  cases asked : chartRequest? base rows with
  | error failure =>
    obtain ⟨columns, deep, rfl⟩ := (chartRequest?_eq_error_iff finite).mp asked
    exact Or.inr (Or.inl ⟨⟨columns, deep⟩, fun sendable => absurd sendable.2.1 (by omega), rfl⟩)
  | ok answer =>
    cases answer with
    | some request => exact Or.inl ⟨((chartRequest?_eq_some_iff finite).mp asked).1, rfl⟩
    | none =>
      refine Or.inr (Or.inr ⟨fun sendable => ?_, fun ⟨columns, deep⟩ => ?_, rfl⟩)
      · rw [(chartRequest?_eq_some_iff finite).mpr ⟨sendable, rfl⟩] at asked
        cases asked
      · rw [(chartRequest?_eq_error_iff finite).mpr ⟨columns, deep, rfl⟩] at asked
        cases asked

/-- The chart for rows fails exactly where the rows nest too deep to be sent, or where they are sent
and the body of the response nests too deep. -/
theorem chart_eq_error_iff (finite : ∀ row ∈ rows, Value.fieldsFinite row = true)
    {failure : Failure} : chart base rows response = .error failure ↔
      (HasColumns rows ∧ Json.nestingLimit < Json.levels (chartBody rows) ∧ failure = .tooDeep) ∨
        Sendable rows ∧ ∃ kind, response.NestsTooDeep kind ∧
          failure = .unreadable (.tooDeep kind) := by
  rcases @chart_cases base rows response finite with ⟨sendable, same⟩ | ⟨deep, unsendable, same⟩ |
    ⟨unsendable, shallow, same⟩
  · have shallow : ¬Json.nestingLimit < Json.levels (chartBody rows) := by
      have fits := sendable.2.1
      omega
    rw [same, readChart_eq_error_iff]
    simp [sendable, shallow]
  · rw [same]
    simp [deep, unsendable, eq_comm]
  · rw [same]
    simp only [reduceCtorEq, false_iff, not_or]
    exact ⟨fun deep => shallow ⟨deep.1, deep.2.1⟩, fun sent => unsendable sent.1⟩

/-- The chart for rows is the one that the response holds where a chart could be asked for, and the
table otherwise. -/
theorem chart_eq_ok (finite : ∀ row ∈ rows, Value.fieldsFinite row = true) {given : Fields}
    (chosen : chart base rows response = .ok given) :
    (Sendable rows ∧ HoldsChart response given) ∨
      given = tableChart ∧ ¬∃ other, Sendable rows ∧ HoldsChart response other := by
  rcases @chart_cases base rows response finite with ⟨sendable, same⟩ | ⟨_, _, same⟩ |
    ⟨unsendable, _, same⟩
  · rw [same] at chosen
    rcases readChart_eq_ok chosen with holds | ⟨table, none⟩
    · exact Or.inl ⟨sendable, holds⟩
    · exact Or.inr ⟨table, fun ⟨other, _, holds⟩ => none ⟨other, holds⟩⟩
  · rw [same] at chosen
    cases chosen
  · rw [same] at chosen
    cases chosen
    exact Or.inr ⟨rfl, fun ⟨_, sendable, _⟩ => unsendable sendable⟩

/-- The chart for rows is the one that the response holds. -/
theorem chart_of_holds (finite : ∀ row ∈ rows, Value.fieldsFinite row = true)
    (sendable : Sendable rows) {given : Fields} (holds : HoldsChart response given) :
    chart base rows response = .ok given := by
  rw [chart, (chartRequest?_eq_some_iff finite).mpr ⟨sendable, rfl⟩]
  exact readChart_of_holds holds

/-- The chart for rows tells its type. -/
theorem chart_typed (finite : ∀ row ∈ rows, Value.fieldsFinite row = true) {given : Fields}
    (chosen : chart base rows response = .ok given) : (given.get? "chartType").isSome = true := by
  rcases chart_eq_ok finite chosen with ⟨-, holds⟩ | ⟨rfl, -⟩
  · exact holds.2
  · rfl

end Charts

end Planner

end Remote

/-! ## Runs that have their rows -/

namespace Desk

/-- The call for a query is replied to with what comes of the query. -/
theorem perform_execute (desk : Desk) (sql : String) (response : Remote.Response) :
    desk.perform (.execute sql) response =
      (match Remote.Executor.execute desk.executorUrl (.text sql) response with
        | .ok execution => .executed execution
        | .error failure => .failed failure, desk) := by
  unfold perform Remote.Executor.execute
  dsimp only
  cases Remote.Executor.request? desk.executorUrl (.text sql) <;> rfl

/-- A run that is about to have a chart chosen gets one and goes on to remember its answer. -/
theorem work_of_chart {desk : Desk} {runner : Runner} {run : Run} {prepared : Pipeline.Prepared}
    {execution : Remote.Execution} {response : Remote.Response} {chart : Fields}
    (running : desk.run? runner = some run) (phase : run.phase = .charting prepared execution)
    (chosen : Remote.Planner.chart desk.plannerUrl execution.rows response = .ok chart) :
    ∃ next, desk.work runner response = desk.follow runner run (.goOn next []) ∧
      next.phase = .storing prepared execution chart := by
  have calls : run.call? = some (.chart execution.rows) := by rw [Run.call?, phase]
  refine ⟨{ run.logged desk.now .chart (Run.chartText chart) with
    phase := .storing prepared execution chart }, ?_, rfl⟩
  simp only [work, running, phase, calls, perform, chosen, Run.resume]
  rfl

/-- A run that is about to have a chart chosen fails where asking for one fails. -/
theorem work_of_no_chart {desk : Desk} {runner : Runner} {run : Run}
    {prepared : Pipeline.Prepared} {execution : Remote.Execution} {response : Remote.Response}
    {failure : Failure} (running : desk.run? runner = some run)
    (phase : run.phase = .charting prepared execution)
    (refused : Remote.Planner.chart desk.plannerUrl execution.rows response = .error failure) :
    desk.work runner response =
      desk.follow runner run (run.fail desk.now .chart failure []) := by
  have calls : run.call? = some (.chart execution.rows) := by rw [Run.call?, phase]
  simp only [work, running, phase, calls, perform, refused, Run.resume]
  rfl

end Desk

/-- Whatever the remote server does: a query that is given to the executor gives the execution that
the response describes when the query can be sent, and a failure of an execution otherwise, but for
a body that nests too deep. The chart for rows is the one that the response holds when a chart can
be asked for, and the table otherwise, and then one request is sent, with the first rows, their
number and the names of their columns; it fails only for rows or a body that nest too deep. A run
that has its rows goes on with its chart, or fails where there is none. -/
theorem remote_calls_settled (base : String) (response : Remote.Response) :
    (∀ query : Value,
      (∀ execution, Remote.Executor.execute base query response = .ok execution ↔
        Remote.Executor.Sendable query ∧
          ∃ document, response.Holds document ∧ Remote.DescribesExecution document execution) ∧
      (∀ failure, Remote.Executor.execute base query response = .error failure →
        (∃ message, failure = .execution message) ∨
          ∃ kind, failure = .unreadable (.tooDeep kind) ∧ Remote.Executor.Sendable query ∧
            response.NestsTooDeep kind) ∧
      ∀ kind, Remote.Executor.Sendable query → response.NestsTooDeep kind →
        Remote.Executor.execute base query response = .error (.unreadable (.tooDeep kind))) ∧
    (∀ rows : List Fields, (∀ row ∈ rows, Value.fieldsFinite row = true) →
      (∀ failure, Remote.Planner.chart base rows response = .error failure ↔
        (Remote.Planner.HasColumns rows ∧
          Json.nestingLimit < Json.levels (Remote.Planner.chartBody rows) ∧
            failure = .tooDeep) ∨
        Remote.Planner.Sendable rows ∧ ∃ kind, response.NestsTooDeep kind ∧
          failure = .unreadable (.tooDeep kind)) ∧
      (∀ given, Remote.Planner.chart base rows response = .ok given →
        (given.get? "chartType").isSome = true ∧
        ((Remote.Planner.Sendable rows ∧ Remote.Planner.HoldsChart response given) ∨
          given = Remote.Planner.tableChart ∧
            ¬∃ other, Remote.Planner.Sendable rows ∧ Remote.Planner.HoldsChart response other)) ∧
      (∀ given, Remote.Planner.Sendable rows → Remote.Planner.HoldsChart response given →
        Remote.Planner.chart base rows response = .ok given) ∧
      ∀ request, Remote.Planner.chartRequest? base rows = .ok (some request) ↔
        Remote.Planner.Sendable rows ∧
          request = ⟨Remote.below base "/chart", Remote.Planner.chartBody rows⟩) ∧
    ∀ (desk : Desk) (runner : Runner) (run : Run) (prepared : Pipeline.Prepared)
      (execution : Remote.Execution), desk.run? runner = some run →
      run.phase = .charting prepared execution →
      (∀ chart, Remote.Planner.chart desk.plannerUrl execution.rows response = .ok chart →
        ∃ next, desk.work runner response = desk.follow runner run (.goOn next []) ∧
          next.phase = .storing prepared execution chart) ∧
      ∀ failure, Remote.Planner.chart desk.plannerUrl execution.rows response = .error failure →
        desk.work runner response =
          desk.follow runner run (run.fail desk.now .chart failure []) := by
  refine ⟨fun query => ⟨fun execution => ?_, fun failure refused => ?_,
      fun kind sendable deep => ?_⟩,
    fun rows finite => ⟨fun failure => ?_, fun given chosen => ⟨?_, ?_⟩,
      fun given sendable holds => ?_, fun request => ?_⟩,
    fun desk runner run prepared execution running phase => ⟨fun chart chosen => ?_,
      fun failure refused => ?_⟩⟩
  · exact Remote.Executor.execute_eq_ok_iff
  · exact Remote.Executor.execute_eq_error refused
  · exact Remote.Executor.execute_of_nestsTooDeep sendable deep
  · exact Remote.Planner.chart_eq_error_iff finite
  · exact Remote.Planner.chart_typed finite chosen
  · exact Remote.Planner.chart_eq_ok finite chosen
  · exact Remote.Planner.chart_of_holds finite sendable holds
  · exact Remote.Planner.chartRequest?_eq_some_iff finite
  · exact Desk.work_of_chart running phase chosen
  · exact Desk.work_of_no_chart running phase refused

/-- A response that holds a row and also the type of a chart. -/
def rowAndChart : Remote.Response :=
  .answer 200 "\x7b\"rows\": [\x7b\"n\": 1\x7d], \"chartType\": \"bar\"\x7d"

/-- What that response holds. -/
def rowAndChartFields : Fields :=
  [("rows", .list [.object [("n", .int 1)]]), ("chartType", .text "bar")]

/-- The execution that it describes. -/
def oneRow : Remote.Execution := ⟨[[("n", .int 1)]], []⟩

/-- A query with its answer under way. -/
def chartingQuery : Pipeline.Prepared :=
  { title := .text "Rows", plan := [], sql := "SELECT 1", hash := "hash" }

/-- A run that has its row and is about to have a chart chosen. -/
def chartingRun : Run :=
  { jobId := "job", payload := [], log := { jobId := "job", started := 0 }
    phase := .charting chartingQuery oneRow }

/-- A desk at which that run is done by hand. -/
def chartingDesk : Desk :=
  { policy := {}, plannerUrl := "planner", executorUrl := "executor", keepSeconds := 60
    board := {}, relay := { closeDelay := 0 }, promoter := {}
    hands := [{ phase := .running chartingRun }] }

/-- A chart can be asked for that row. -/
theorem sendable_oneRow : Remote.Planner.Sendable oneRow.rows := by
  refine ⟨⟨_, _, rfl, by decide⟩, by decide, ?_⟩
  have texts : ∀ name ∈ ["rows", "total_rows", "columns", "n"], Text.flaw? name = none := by
    decide
  simp only [Remote.Planner.chartBody, Json.Encodable, Json.FieldsEncodable]
  simp [oneRow, Json.Encodable, Json.FieldsEncodable, Json.ItemsEncodable, texts]

/-- A response that holds a row and the type of a chart serves both as an execution and as a chart,
also for the run that has its row. -/
theorem remote_calls_settled_answered :
    rowAndChart.Holds (.object rowAndChartFields) ∧
    Remote.Executor.execute "server" (.text "SELECT 1") rowAndChart = .ok oneRow ∧
    (∀ row ∈ oneRow.rows, Value.fieldsFinite row = true) ∧
    Remote.Planner.Sendable oneRow.rows ∧
    Remote.Planner.chart "server" oneRow.rows rowAndChart = .ok rowAndChartFields ∧
    chartingDesk.run? (.hand 0) = some chartingRun ∧
    Remote.Planner.chart "planner" oneRow.rows rowAndChart = .ok rowAndChartFields ∧ ∃ next,
      chartingDesk.work (.hand 0) rowAndChart =
        chartingDesk.follow (.hand 0) chartingRun (.goOn next []) ∧
      next.phase = .storing chartingQuery oneRow rowAndChartFields := by
  have holds : rowAndChart.Holds (.object rowAndChartFields) :=
    ⟨200, _, rfl, by decide, by decide +kernel⟩
  have describes : Remote.DescribesExecution (.object rowAndChartFields) oneRow :=
    ⟨_, rfl, Or.inr ⟨_, rfl, _, rfl, .cons rfl .nil⟩, Or.inl ⟨by decide, rfl⟩⟩
  have finite : ∀ row ∈ oneRow.rows, Value.fieldsFinite row = true := by decide
  obtain ⟨queries, charts, runs⟩ := remote_calls_settled "server" rowAndChart
  obtain ⟨-, -, chosen, -⟩ := charts oneRow.rows finite
  have planner : Remote.Planner.chart "planner" oneRow.rows rowAndChart = .ok rowAndChartFields :=
    Remote.Planner.chart_of_holds finite sendable_oneRow ⟨holds, rfl⟩
  refine ⟨holds, ?_, finite, sendable_oneRow, chosen _ sendable_oneRow ⟨holds, rfl⟩, rfl, planner,
    ?_⟩
  · exact ((queries (.text "SELECT 1")).1 oneRow).mpr
      ⟨⟨_, rfl, by decide, by decide⟩, _, holds, describes⟩
  · exact (runs chartingDesk (.hand 0) chartingRun _ _ rfl rfl).1 _ planner

/-- An answer of very many opening brackets. -/
def bracketsResponse : Remote.Response := .answer 200 (String.ofList (List.replicate 100000 '['))

/-- A server that answers with very many opening brackets makes both calls fail: that for a chart
gives no table, and that for a query fails otherwise than as an execution. A run that has its row
fails for want of a chart. -/
theorem deep_answer_raises :
    (∀ chart, Remote.Planner.chart "server" oneRow.rows bracketsResponse ≠ .ok chart) ∧
    (∃ failure, Remote.Executor.execute "server" (.text "SELECT 1") bracketsResponse =
      .error failure ∧ ∀ message, failure ≠ .execution message) ∧
    ∃ failure, chartingDesk.work (.hand 0) bracketsResponse =
      chartingDesk.follow (.hand 0) chartingRun (chartingRun.fail 0 .chart failure []) := by
  have deep : bracketsResponse.NestsTooDeep .list :=
    ⟨200, _, rfl, by decide, Json.readBody_brackets (by decide)⟩
  have finite : ∀ row ∈ oneRow.rows, Value.fieldsFinite row = true := by decide
  have refused : ∀ base, Remote.Planner.chart base oneRow.rows bracketsResponse =
      .error (.unreadable (.tooDeep .list)) := fun base =>
    (Remote.Planner.chart_eq_error_iff finite).mpr (Or.inr ⟨sendable_oneRow, _, deep, rfl⟩)
  refine ⟨fun chart chosen => ?_, ⟨_, Remote.Executor.execute_of_nestsTooDeep
    ⟨_, rfl, by decide, by decide⟩ deep, nofun⟩, _,
    Desk.work_of_no_chart rfl rfl (refused _)⟩
  rw [refused] at chosen
  cases chosen

end QuestionDesk
