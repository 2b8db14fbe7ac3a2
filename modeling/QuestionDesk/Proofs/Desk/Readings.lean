import QuestionDesk.Proofs.Desk.Matters

/-!
# What is read about a question

What a client is told about a question depends on its ledger, and what a subscriber is told about a
job on how the job has ended.
-/
namespace QuestionDesk

open Database (JobRecord Ledger Wording)
open Jobs (Job)
open Pipeline (Run)
open Push (JobState)
open Web (Detail)

/-! ## States -/

/-- A state tells that a job has completed, with its rows and how many there are. -/
structure Push.JobState.TellsRows (state : JobState) (job : Job)
    (execution : Remote.Execution) : Prop where
  /-- The state is that of the job. -/
  told : JobState.ofJob job = .ok state
  /-- It is told under the key of the job. -/
  id : state.jobId = job.id
  /-- It tells that the job has completed. -/
  completed : state.status = "completed"
  /-- It tells the rows. -/
  rows : ∃ bytes hash, state.result = some [("data", execution.rowsValue),
    ("metadata", .object [("totalRows", .int execution.rows.length), ("bytesProcessed", bytes),
      ("sqlHash", hash)])]

/-- What a state tells of the rows of an execution, with the fingerprint of its query. -/
def Push.JobState.resultOf (execution : Remote.Execution) (hash : Value) : Fields :=
  [("data", execution.rowsValue), ("metadata", .object
    [("totalRows", .int execution.rows.length),
      ("bytesProcessed", Fields.get execution.metadata "total_bytes_processed"),
      ("sqlHash", hash)])]

/-- The state of a job that completed with an answer. -/
theorem Push.JobState.ofJob_answered {job : Job} {execution : Remote.Execution} {chart : Fields}
    {title : Option String} (status : job.status = .completed)
    (named : JobState.titleOf job = .ok title)
    (returns : job.returnValue = Run.answerValue execution.fields chart) :
    JobState.ofJob job = .ok
      { jobId := job.id, status := job.status.word, title := title, error := job.failedReason
        createdAt := job.createdAt, questionContent := job.payload.get "user_prompt"
        result := some (JobState.resultOf execution (job.notes.get Run.hashNote)) } := by
  have result : JobState.fieldOf job.returnValue "result" = .ok (.object execution.fields) := by
    rw [returns]
    rfl
  have rows : JobState.fieldOf (.object execution.fields) "rows" = .ok execution.rowsValue := rfl
  have metadata : JobState.fieldOf (.object execution.fields) "execution_metadata" =
      .ok (.object execution.metadata) := rfl
  have total : JobState.lengthOf execution.rowsValue = .ok execution.rows.length := by
    simp [Remote.Execution.rowsValue, JobState.lengthOf]
  have bytes : JobState.fieldOf (.object execution.metadata) "total_bytes_processed" =
      .ok (Fields.get execution.metadata "total_bytes_processed") := rfl
  have filled : execution.rowsValue ≠ .null := by rintro ⟨⟩
  unfold JobState.ofJob
  simp only [named, result, rows, metadata, total, bytes, status, filled, bind, Except.bind, pure,
    Except.pure, ne_eq, not_false_eq_true, and_self, if_true]
  rfl

/-- The state of a job that completed with an answer of its own tells its rows. -/
theorem Push.JobState.exists_tellsRows {job : Job} {execution : Remote.Execution} {chart : Fields}
    (status : job.status = .completed) (titled : ∃ title, JobState.titleOf job = .ok title)
    (returns : job.returnValue = Run.answerValue execution.fields chart) :
    ∃ state : JobState, state.TellsRows job execution := by
  obtain ⟨title, named⟩ := titled
  exact ⟨_, JobState.ofJob_answered status named returns, rfl, congrArg Jobs.Status.word status, _,
    _, rfl⟩

/-- A state tells how a job without an answer stands. -/
structure Push.JobState.TellsStatus (state : JobState) (job : Job) : Prop where
  /-- The state is that of the job. -/
  told : JobState.ofJob job = .ok state
  /-- It is told under the key of the job. -/
  id : state.jobId = job.id
  /-- It tells the status of the job. -/
  status : state.status = job.status.word
  /-- It tells why the job has failed. -/
  error : state.error = job.failedReason
  /-- It tells no rows. -/
  result : state.result = none

/-- The state of a job that has returned nothing. -/
theorem Push.JobState.ofJob_unanswered {job : Job} {title : Option String}
    (named : JobState.titleOf job = .ok title) (empty : job.returnValue = .null) :
    JobState.ofJob job = .ok
      { jobId := job.id, status := job.status.word, title := title, error := job.failedReason
        createdAt := job.createdAt } := by
  have result : JobState.fieldOf job.returnValue "result" = .ok .null := by
    rw [empty]
    rfl
  have rows : JobState.fieldOf .null "rows" = .ok .null := rfl
  unfold JobState.ofJob
  simp only [named, result, rows, bind, Except.bind, pure, Except.pure, ne_eq, not_true_eq_false,
    and_false, if_false]

/-- The state of a job that has returned nothing tells how it stands. -/
theorem Push.JobState.exists_tellsStatus {job : Job}
    (titled : ∃ title, JobState.titleOf job = .ok title) (empty : job.returnValue = .null) :
    ∃ state : JobState, state.TellsStatus job := by
  obtain ⟨title, named⟩ := titled
  exact ⟨_, JobState.ofJob_unanswered named empty, rfl, rfl, rfl, rfl⟩

/-! ## Details -/

/-- Nothing that is read from the database fails. -/
def Database.IsReadable (database : Database) : Prop :=
  ∀ table, database.send .select table = .ok ()

namespace Desk

section Details

variable {desk : Desk} {questionId : String} {wording : Wording} {record : JobRecord}

/-- The dossier of a question with one record. -/
theorem getQuestion_of_ledger (reads : desk.database.IsReadable)
    (asked : (desk.ledger questionId).wording = some wording)
    (only : (desk.ledger questionId).records = [record]) : ∃ question : Database.Question,
      question.id = questionId ∧ question.wording = wording ∧
        desk.database.getQuestion questionId =
          .ok (some ⟨question, [record], (desk.ledger questionId).answers.head?⟩) := by
  obtain ⟨question, found, same⟩ := Option.map_eq_some_iff.mp asked
  have own : question.id = questionId := by simpa using List.find?_some found
  have records : desk.database.tables.recordsOf questionId = [record] := by
    unfold Database.Tables.recordsOf Database.newestFirst
    rw [show desk.database.tables.records.filter (·.questionId = questionId) = [record] from only]
    exact List.mergeSort_singleton record
  have answer : desk.database.tables.answer? questionId =
      (desk.ledger questionId).answers.head? := List.head?_filter.symm
  refine ⟨question, own, same, ?_⟩
  unfold Database.getQuestion Database.answering
  simp only [reads _, bind, Except.bind, found, records, answer, pure, Except.pure]
  rfl

/-- A client is told that a question whose job is known as pending is worked on. -/
theorem detail_pending (reads : desk.database.IsReadable)
    (asked : (desk.ledger questionId).wording = some wording)
    (only : (desk.ledger questionId).records = [record])
    (pending : record.status = Database.pendingStatus) :
    desk.detail questionId = .ok (some
      { id := questionId, title := wording.title, status := .inProgress, result := none }) := by
  obtain ⟨question, rfl, rfl, read⟩ := getQuestion_of_ledger reads asked only
  have open_ : record.status ≠ Database.completedStatus := by
    rw [pending]
    decide
  have works : record.status ∈ progressStatuses := by
    rw [pending]
    decide
  unfold detail
  simp only [read, bind, Except.bind, detailOf, List.head?_cons, open_, works, false_and, if_false,
    if_true, pure, Except.pure]
  rfl

/-- A client is told the answer to a question whose job is known as completed. -/
theorem detail_completed (reads : desk.database.IsReadable)
    (asked : (desk.ledger questionId).wording = some wording)
    (only : (desk.ledger questionId).records = [record])
    (completed : record.status = Database.completedStatus) {key : String} {result : Fields}
    (answers : (desk.ledger questionId).answers = [⟨key, .object result⟩]) :
    desk.detail questionId = .ok (some
      { id := questionId, title := wording.title, status := .done, result := some result }) := by
  obtain ⟨question, rfl, rfl, read⟩ := getQuestion_of_ledger reads asked only
  rw [answers] at read
  unfold detail
  simp only [read, bind, Except.bind, detailOf, List.head?_cons, completed, Option.isSome_some,
    and_self, if_true, resultOf, Option.map_some, pure, Except.pure]
  rfl

/-- A client is told that a question whose job is known as failed is done and has no answer. -/
theorem detail_failed (reads : desk.database.IsReadable)
    (asked : (desk.ledger questionId).wording = some wording)
    (only : (desk.ledger questionId).records = [record])
    (failed : record.status = Database.failedStatus) :
    desk.detail questionId = .ok (some
      { id := questionId, title := wording.title, status := .done, result := none }) := by
  obtain ⟨question, rfl, rfl, read⟩ := getQuestion_of_ledger reads asked only
  have open_ : record.status ≠ Database.completedStatus := by
    rw [failed]
    decide
  have finished : record.status ∉ progressStatuses := by
    rw [failed]
    decide
  unfold detail
  simp only [read, bind, Except.bind, detailOf, List.head?_cons, open_, finished, false_and,
    if_false, pure, Except.pure]
  rfl

end Details

/-! ## What is stored -/

section Holdings

variable {desk : Desk} {questionId : String}

/-- The database holds a question whose job is known as pending, and no answer. -/
structure HoldsOpen (desk : Desk) (questionId : String) : Prop where
  /-- The question is there. -/
  asked : ∃ wording, (desk.ledger questionId).wording = some wording
  /-- Its only job is known as pending. -/
  pending : ∃ record, (desk.ledger questionId).records = [record] ∧
    record.jobId = Jobs.jobKey questionJobType questionId ∧ record.status = Database.pendingStatus
  /-- It has no answer. -/
  unanswered : (desk.ledger questionId).answers = []

/-- What is stored of the rows of an execution and a chart. -/
def storedAnswer (execution : Remote.Execution) (chart : Fields) : Fields :=
  [("rows", execution.rowsValue), ("chart_config", .object chart)]

/-- The database holds a question whose job is known as completed, and its one answer. -/
structure HoldsAnswer (desk : Desk) (questionId : String) (execution : Remote.Execution)
    (chart : Fields) : Prop where
  /-- The question is there. -/
  asked : ∃ wording, (desk.ledger questionId).wording = some wording
  /-- Its only job is known as completed. -/
  completed : ∃ record, (desk.ledger questionId).records = [record] ∧
    record.jobId = Jobs.jobKey questionJobType questionId ∧ record.status = Database.completedStatus
  /-- Its only answer has the rows and the chart. -/
  answers : (desk.ledger questionId).answers =
    [⟨questionId, .object (storedAnswer execution chart)⟩]

/-- The database holds a question whose job is known as failed for a reason, and no answer. -/
structure HoldsFailure (desk : Desk) (questionId : String) (reason : Option String) : Prop where
  /-- The question is there. -/
  asked : ∃ wording, (desk.ledger questionId).wording = some wording
  /-- Its only job is known as failed for the reason. -/
  failed : ∃ record, (desk.ledger questionId).records = [record] ∧
    record.jobId = Jobs.jobKey questionJobType questionId ∧
      record.status = Database.failedStatus ∧ record.failedReason = reason
  /-- It has no answer. -/
  unanswered : (desk.ledger questionId).answers = []

/-- A client is told that a question with an open job is worked on. -/
theorem HoldsOpen.detail (holds : desk.HoldsOpen questionId) (reads : desk.database.IsReadable) :
    ∃ title, desk.detail questionId = .ok (some
      { id := questionId, title, status := .inProgress, result := none }) := by
  obtain ⟨wording, asked⟩ := holds.asked
  obtain ⟨record, only, _, pending⟩ := holds.pending
  exact ⟨_, detail_pending reads asked only pending⟩

/-- A client is told the stored rows and chart of a question with an answer. -/
theorem HoldsAnswer.detail {execution : Remote.Execution} {chart : Fields}
    (holds : desk.HoldsAnswer questionId execution chart) (reads : desk.database.IsReadable) :
    ∃ title, desk.detail questionId = .ok (some
      { id := questionId, title, status := .done
        result := some (storedAnswer execution chart) }) := by
  obtain ⟨wording, asked⟩ := holds.asked
  obtain ⟨record, only, _, completed⟩ := holds.completed
  exact ⟨_, detail_completed reads asked only completed holds.answers⟩

/-- A client is told that a question with a failed job is done and has no answer. -/
theorem HoldsFailure.detail {reason : Option String} (holds : desk.HoldsFailure questionId reason)
    (reads : desk.database.IsReadable) : ∃ title, desk.detail questionId = .ok (some
      { id := questionId, title, status := .done, result := none }) := by
  obtain ⟨wording, asked⟩ := holds.asked
  obtain ⟨record, only, _, failed, _⟩ := holds.failed
  exact ⟨_, detail_failed reads asked only failed⟩

end Holdings

end Desk

end QuestionDesk
