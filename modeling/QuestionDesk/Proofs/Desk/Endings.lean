import QuestionDesk.Proofs.Desk.Moves
import QuestionDesk.Proofs.Jobs.Lasting

/-!
# How jobs end

A worker keeps its job until the run ends, and the outcome of the run is the outcome of the job.
Nothing that happens afterwards changes it.
-/
namespace QuestionDesk.Desk

open Jobs (Activity Board Job)
open Pipeline (Next Run Runner)

/-! ## Jobs that have ended -/

/-- A job that is run by hand goes on or ends without the workers. -/
theorem workers_follow_hand (desk : Desk) (number : Nat) (run : Run) (next : Next) (index : Nat) :
    (desk.follow (.hand number) run next).board.workers[index]? = desk.board.workers[index]? := by
  cases next with
  | goOn next notes =>
    rw [follow_goOn]
    rfl
  | ended outcome notes =>
    simp only [follow, conclude, leaveLine_eq]
    rfl

/-- A worker whose run goes on handles the same job, and one whose run ends handles none. -/
theorem workers_follow {desk : Desk} (sound : desk.board.Sound) {worker : Nat} {jobType : String}
    {seq : Nat} {run : Run} (does : desk.board.Does worker jobType (.handling seq run))
    (next : Next) : ∃ activity : Activity Run,
      (∀ number progress, activity = .handling number progress → number = seq) ∧
        ∀ index : Nat, (desk.follow (.worker worker) run next).board.workers[index]? =
          if index = worker then some { jobType, activity } else desk.board.workers[index]? := by
  cases next with
  | goOn next notes =>
    refine ⟨.handling seq next, fun number progress same => ?_, fun index => ?_⟩
    · cases same
      rfl
    · rw [follow_goOn]
      simp only [goOn]
      rw [Board.goOn_eq desk.board does, Board.workers_advanced desk.board does]
  | ended outcome notes =>
    have still : (desk.board.goOn worker run notes).Does worker jobType (.handling seq run) := by
      rw [Board.goOn_eq desk.board does, Board.Does, Board.workers_advanced desk.board does,
        if_pos rfl]
    obtain ⟨activity, free, workers⟩ :=
      (sound.goOn worker run notes).workers_finish still desk.now outcome
    refine ⟨activity, fun number progress same => absurd same (free number progress),
      fun index => ?_⟩
    simp only [follow, conclude, leaveLine_eq]
    rw [workers, Board.goOn_eq desk.board does, Board.workers_advanced desk.board does]
    split <;> rfl

section Handling

variable {desk : Desk} {worker : Nat} {jobType other : String} {seq number : Nat} {run next : Run}
  (before : desk.board.Does worker jobType (.handling seq run))
include before

end Handling

/-- When the run of a worker ends, its job ends with the outcome of the run and its last notes. -/
theorem job_of_ended {desk : Desk} (sound : desk.board.Sound) {worker : Nat} {jobType : String}
    {seq : Nat} {run : Run} (does : desk.board.Does worker jobType (.handling seq run))
    {outcome : Except Failure Value} (alive : outcome ≠ .error .cancelled) (notes : Fields) :
    ∃ job, desk.board.job? jobType seq = some job ∧ job.status = .processing ∧
      (desk.follow (.worker worker) run (.ended outcome notes)).board.job? jobType seq =
        some (Board.ended (job.noteAll notes) desk.now outcome) := by
  obtain ⟨job, found, processing⟩ := sound.handled _ _ _ _ does
  obtain ⟨-, rfl⟩ := Jobs.Lane.mem_of_job? found
  refine ⟨job, found, processing, ?_⟩
  have noted := sound.replaces_goOn does found run notes
  have still : (desk.board.goOn worker run notes).Does worker jobType
      (.handling (job.noteAll notes).seq run) := by
    rw [Board.Does, noted.workers, if_pos rfl, noted.same.1]
  have there := noted.job?_self
  rw [← noted.same.1] at there ⊢
  simp only [follow, conclude, leaveLine_eq]
  exact ((sound.goOn worker run notes).replaces_finish still there desk.now alive).job?_self

/-- A job that is being processed and ends with a value has completed with the value. -/
theorem completed_of_ended {desk : Desk} (sound : desk.board.Sound) {jobType : String} {seq : Nat}
    {job : Job} (found : desk.board.job? jobType seq = some job) (processing : job.status = .processing)
    (notes : Fields) (value : Value) :
    (Board.ended (job.noteAll notes) desk.now (.ok value)).status = .completed ∧
      (Board.ended (job.noteAll notes) desk.now (.ok value)).returnValue = value := by
  have blameless := sound.blameless jobType job (Jobs.Lane.mem_of_job? found).1
    (Job.isTerminal_of_processing processing)
  rw [Job.noteAll_eq]
  refine ⟨?_, rfl⟩
  simp only [Board.ended, Job.status, Jobs.statusOf, blameless, Option.getD_none, if_true]

/-- The notes of a run that was a duplicate. -/
def NotedDuplicate (notes : Fields) : Prop := notes.get Run.duplicateNote = .bool true

/-- Notes with the last notes of a duplicate written on them. -/
theorem notedDuplicate_of_last (earlier : Fields) (summary : Value) :
    NotedDuplicate ([(Run.duplicateNote, .bool true), (Run.summaryNote, summary)].foldl
      (fun all field => all.set field.1 field.2) earlier) := by
  have other : Run.duplicateNote ≠ Run.summaryNote := by decide
  simp only [NotedDuplicate, List.foldl_cons, List.foldl_nil, Fields.get_set_ne _ _ other,
    Fields.get_set_self]

/-! ## Jobs that are run by hand -/

end QuestionDesk.Desk
