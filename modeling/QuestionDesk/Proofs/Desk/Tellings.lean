import QuestionDesk.Proofs.Desk.Readings
import QuestionDesk.Proofs.Desk.Sources

/-!
# What can be told

The state of every job of the service can be told at any time: its title is a text, and what it
returned holds the rows of an execution.
-/
namespace QuestionDesk.Desk

open Jobs (Job)
open Pipeline (Run)
open Push (JobState)

/-- A job whose state can be told. -/
structure Tellable (job : Job) : Prop where
  /-- It has no title or one that can be told. -/
  titled : ∃ title, JobState.titleOf job = .ok title
  /-- It returned nothing, or has completed with the rows of an execution. -/
  returned : job.returnValue = .null ∨ job.status = .completed ∧
    ∃ (execution : Remote.Execution) (chart : Fields),
      job.returnValue = Run.answerValue execution.fields chart

/-- The state of a job that can be told tells its key and its status. -/
theorem Tellable.told {job : Job} (tellable : Tellable job) : ∃ state : JobState,
    JobState.ofJob job = .ok state ∧ state.jobId = job.id ∧ state.status = job.status.word := by
  rcases tellable.returned with empty | ⟨completed, execution, chart, returns⟩
  · obtain ⟨state, tells⟩ := JobState.exists_tellsStatus tellable.titled empty
    exact ⟨state, tells.told, tells.id, tells.status⟩
  · obtain ⟨state, tells⟩ := JobState.exists_tellsRows completed tellable.titled returns
    exact ⟨state, tells.told, tells.id, tells.completed.trans (by rw [completed]; rfl)⟩

/-- The state of every job of the service can be told. -/
theorem Story.tellable {settings : Settings} {desk : Desk} (started : start settings = .ok desk)
    {occurrences : Nat → Occurrence}
    (service : ∀ moment, (occurrences moment).isService = true) {questionId : String}
    {matters : Nat → Matter} (story : desk.Story occurrences questionId matters) (count : Nat) :
    ∀ job, (matters count).standing.job? = some job → Tellable job := by
  intro job stands
  obtain ⟨titled, answer⟩ := story.sourced started service count stands
  refine ⟨titled, answer.imp And.left (And.imp_right ?_)⟩
  rintro ⟨execution, chart, _, _, returns, _⟩
  exact ⟨execution, chart, returns⟩

end QuestionDesk.Desk
