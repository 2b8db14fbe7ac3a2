import QuestionDesk.Proofs.Json.Sending
import QuestionDesk.Proofs.Schema.Check
import QuestionDesk.Remote.Executor
import QuestionDesk.Remote.Planner

/-!
# Answers of remote servers

Whatever remote servers answer was read from a text, so a text can hold it again: the rows that the
executor gives, what it says about them, and the chart that is chosen for them. Whatever keeps the
executor from giving rows is told as a failure of an execution.
-/
namespace QuestionDesk.Remote

open Json (Readable itemsReadable_iff fieldsReadable_iff)
open Schema.Check

/-- The document in a response was read from a text. -/
theorem readable_document {response : Response} {url : String} {value : Value}
    (found : response.document url = .ok value) : Readable value := by
  cases response with
  | unreached outage message => cases found
  | answer status body =>
    simp only [Response.document] at found
    split at found
    · cases read : Json.readBody body with
      | error refusal =>
        rw [read] at found
        cases found
      | ok document =>
        rw [read] at found
        cases found
        exact Json.readable_of_readBody read
    · cases found

/-- The value of a field of a readable object is readable. -/
theorem readable_get? {fields : Fields} (readable : Readable (.object fields)) {name : String}
    {value : Value} (found : fields.get? name = some value) : Readable value :=
  fieldsReadable_iff.mp readable.2 _ (Fields.mem_of_get? found)

/-- Rows that are accepted as a list of objects are the objects of the list. -/
theorem rows_of_accepted {items : List Value} {rows : List Fields}
    (accepted : List.Forall₂ (fun item row => (anyObject item).value? = some row) items rows) :
    items = rows.map Value.object := by
  induction accepted with
  | nil => rfl
  | cons first _ rest => rw [List.map_cons, ← rest, anyObject_accepts.mp first]

/-- What is accepted as an execution can be written and read. -/
theorem Execution.readable_of_check {value : Value} {execution : Execution}
    (readable : Readable value) (accepted : (check value).value? = some execution) :
    Readable (.object execution.fields) := by
  obtain ⟨fields, rfl, inner⟩ := record_accepts.mp accepted
  rw [value?_map, Option.map_eq_some_iff] at inner
  obtain ⟨⟨rows, metadata⟩, both, rfl⟩ := inner
  obtain ⟨listed, known⟩ := join_accepts.mp both
  have names : ["rows", "execution_metadata"].Nodup := by decide
  refine ⟨names, ?_, ?_, trivial⟩
  · rcases optional_accepts.mp listed with ⟨_, rfl⟩ | ⟨found, present, all⟩
    · trivial
    · obtain ⟨items, rfl, each⟩ := listOf_accepts.mp all
      rw [rowsValue, ← rows_of_accepted each]
      exact readable_get? readable present
  · rcases optional_accepts.mp known with ⟨_, rfl⟩ | ⟨found, present, object⟩
    · exact ⟨List.nodup_nil, trivial⟩
    · rw [← anyObject_accepts.mp object]
      exact readable_get? readable present

/-- What the executor answers can be written and read. -/
theorem Executor.readable_of_read {base : String} {response : Response} {execution : Execution}
    (read : Executor.read base response = .ok execution) : Readable (.object execution.fields) := by
  cases response with
  | unreached outage message => cases read
  | answer status body =>
    simp only [Executor.read] at read
    split at read
    · cases found : Response.document (.answer status body) (below base "/query") with
      | error failure =>
        rw [found] at read
        cases read
      | ok document =>
        rw [found] at read
        simp only [bind, Except.bind] at read
        cases accepted : Execution.check document with
        | invalid first rest =>
          rw [accepted] at read
          cases read
        | valid value =>
          rw [accepted] at read
          cases read
          exact Execution.readable_of_check (readable_document found) (by rw [accepted]; rfl)
    · cases read

/-- The table chart can be written and read. -/
theorem Planner.readable_tableChart : Readable (.object Planner.tableChart) := by
  have names : ["chartType", "encoding"].Nodup := by decide
  exact ⟨names, trivial, ⟨List.nodup_nil, trivial⟩, trivial⟩

/-- The chart that the planner answers can be written and read. -/
theorem Planner.readable_readChart {base : String} {response : Response} {chart : Fields}
    (given : Planner.readChart base response = .ok chart) : Readable (.object chart) := by
  unfold Planner.readChart at given
  split at given
  · next found =>
    cases given
    split
    · exact readable_document found
    · exact readable_tableChart
  · cases given
    exact readable_tableChart
  · split at given
    · cases given
    · cases given
      exact readable_tableChart

/-- The chart for rows can be written and read. -/
theorem Planner.readable_chart {base : String} {rows : List Fields} {response : Response}
    {given : Fields} (chosen : Planner.chart base rows response = .ok given) :
    Readable (.object given) := by
  unfold Planner.chart at chosen
  split at chosen
  · cases chosen
  · cases chosen
    exact readable_tableChart
  · exact readable_readChart chosen

/-! ## Refusals -/

/-- A request can be sent exactly if its body can be written: its numbers are finite, there is room
for its levels, and its texts have a UTF-8 form. -/
theorem Request.refusal?_eq_none_iff {request : Request} : request.refusal? = none ↔
    request.body.allFinite = true ∧ Json.levels request.body ≤ Json.nestingLimit ∧
      Json.Encodable request.body := by
  rw [refusal?, Option.map_eq_none_iff, Json.hindrance?_eq_none_iff]

/-- An error under a new name is an error that was renamed. -/
theorem error_of_mapError {ε ε' α : Type} {rename : ε → ε'} {result : Except ε α} {renamed : ε'}
    (failed : result.mapError rename = .error renamed) :
    ∃ error, result = .error error ∧ rename error = renamed := by
  cases result with
  | error error =>
    cases failed
    exact ⟨error, rfl, rfl⟩
  | ok value => cases failed

/-- What keeps a query from being sent is a text without a UTF-8 form. -/
theorem Executor.refusal?_request (base query : String) : (request base query).refusal? =
    (Text.flawAfter? 0 (Json.sentValue (request base query).body)).map .unencodable := by
  unfold Request.refusal? Json.hindrance?
  cases Text.flawAfter? 0 (Json.sentValue (request base query).body) <;> rfl

/-- Where no request is sent, the failure is one of an execution. -/
theorem Executor.execution_of_request? {base : String} {query : Value} {failure : Failure}
    (refused : request? base query = .error failure) : ∃ message, failure = .execution message := by
  unfold request? at refused
  split at refused
  · split at refused
    · cases refused
      exact ⟨_, rfl⟩
    · rw [refusal?_request] at refused
      split at refused
      · next found =>
        cases refused
        obtain ⟨flaw, -, rfl⟩ := Option.map_eq_some_iff.mp found
        exact ⟨_, rfl⟩
      · cases refused
  · cases refused
    exact ⟨_, rfl⟩

/-- A status is a success when it is one of the two hundreds. -/
theorem isSuccess_iff {status : Nat} : isSuccess status = true ↔ 200 ≤ status ∧ status < 300 := by
  simp [isSuccess]

/-- A response without a document was no answer, no success or not readable. -/
theorem document_eq_error {response : Response} {url : String} {failure : Failure}
    (refused : response.document url = .error failure) :
    (∃ outage message, failure = .outage outage message) ∨
      (∃ message, failure = .status message) ∨ ∃ status body refusal,
        response = .answer status body ∧ (200 ≤ status ∧ status < 300) ∧
          Json.readBody body = .error refusal ∧ failure = .unreadable refusal := by
  cases response with
  | unreached outage message =>
    cases refused
    exact Or.inl ⟨outage, message, rfl⟩
  | answer status body =>
    simp only [Response.document] at refused
    split at refused
    · next success =>
      obtain ⟨refusal, unread, rfl⟩ := error_of_mapError refused
      exact Or.inr (Or.inr ⟨status, body, refusal, rfl, isSuccess_iff.mp success, unread, rfl⟩)
    · cases refused
      exact Or.inr (Or.inl ⟨_, rfl⟩)

/-- A response is a success whose body nests too deep to be read. -/
def Response.NestsTooDeep (response : Response) (kind : Kind) : Prop :=
  ∃ status body, response = .answer status body ∧ (200 ≤ status ∧ status < 300) ∧
    Json.readBody body = .error (.tooDeep kind)

/-- In place of the document of a response that nests too deep there is a failure of depth. -/
theorem Response.NestsTooDeep.document_eq {response : Response} {kind : Kind}
    (deep : response.NestsTooDeep kind) (url : String) :
    response.document url = .error (.unreadable (.tooDeep kind)) := by
  obtain ⟨status, body, rfl, success, unread⟩ := deep
  rw [Response.document, if_pos (isSuccess_iff.mpr success), unread]
  rfl

/-- A failure of depth in place of a document tells that the body nests too deep. -/
theorem nestsTooDeep_of_document {response : Response} {url : String} {failure : Failure}
    (refused : response.document url = .error failure) (deep : failure.isDepth = true) :
    ∃ kind, failure = .unreadable (.tooDeep kind) ∧ response.NestsTooDeep kind := by
  rcases document_eq_error refused with ⟨_, _, rfl⟩ | ⟨_, rfl⟩ |
    ⟨status, body, refusal, same, success, unread, rfl⟩
  · cases deep
  · cases deep
  · cases refusal with
    | tooDeep kind => exact ⟨kind, rfl, status, body, same, success, unread⟩
    | malformed problem line column position => cases deep
    | tooLong digits => cases deep

/-- What is read from a response without a document is told of the failure in its place, up to the
text. -/
theorem Executor.read_of_no_document {base : String} {response : Response} {failure : Failure}
    (refused : response.document (below base "/query") = .error failure) :
    read base response = .error (told failure) ∨ failure.isDepth = false ∧
      ∃ message, read base response = .error (.execution message) := by
  cases response with
  | unreached outage message =>
    cases refused
    exact Or.inr ⟨rfl, _, rfl⟩
  | answer status body =>
    cases success : isSuccess status with
    | true =>
      left
      simp only [read, success, if_true, refused]
      rfl
    | false =>
      simp only [Response.document, success, Bool.false_eq_true, if_false] at refused
      cases refused
      refine Or.inr ⟨rfl, ?_⟩
      simp only [read, success, Bool.false_eq_true, if_false]
      exact ⟨_, rfl⟩

/-- Where no execution is read from a response, the failure is one of an execution, or the body of
the response nests too deep. -/
theorem Executor.read_eq_error {base : String} {response : Response} {failure : Failure}
    (refused : read base response = .error failure) : (∃ message, failure = .execution message) ∨
      ∃ kind, failure = .unreadable (.tooDeep kind) ∧ response.NestsTooDeep kind := by
  cases response with
  | unreached outage message =>
    cases refused
    exact Or.inl ⟨_, rfl⟩
  | answer status body =>
    simp only [read] at refused
    split at refused
    · obtain ⟨cause, found, rfl⟩ := error_of_mapError refused
      unfold told
      split
      · next deep =>
        cases received : Response.document (.answer status body) (below base "/query") with
        | error lost =>
          rw [received] at found
          cases found
          exact Or.inr (nestsTooDeep_of_document received deep)
        | ok document =>
          rw [received] at found
          cases checked : Execution.check document with
          | valid execution =>
            simp only [bind, Except.bind, Failure.ofCheck, checked] at found
            cases found
          | invalid first rest =>
            simp only [bind, Except.bind, Failure.ofCheck, checked] at found
            cases found
            cases deep
      · exact Or.inl ⟨_, rfl⟩
    · cases refused
      exact Or.inl ⟨_, rfl⟩

end QuestionDesk.Remote
