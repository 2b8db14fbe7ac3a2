import QuestionDesk.Proofs.Desk.Agreement
import QuestionDesk.Proofs.Desk.Retention

/-!
# Addresses

What the store remembers of a prompt is an address: a question, and the key of its job. Visits write
addresses, and so do the runs of duplicates, from what was remembered of an answer; jobs fail and
are forgotten, and questions are removed. Still every address names its job by its question, and the
question is there, except while a run has removed its question and has yet to point its prompt at
another one.
-/
namespace QuestionDesk.Desk

open Cache (PromptEntry QueryEntry)
open Jobs (Board Job)
open Pipeline (Prepared Run Runner)

/-- The address of a question: the question and the key of its job. -/
def addressOf (questionId : String) : PromptEntry :=
  ⟨Jobs.jobKey questionJobType questionId, questionId⟩

/-! ## Questions of jobs -/

/-- The question of a job is there, unless the job is a duplicate, or its run has removed the
question and is about to point the prompt at another one. -/
def Housed (matter : Matter) : Prop :=
  ∀ job, matter.standing.job? = some job →
    (∃ wording, matter.ledger.wording = some wording) ∨ EndsDuplicate matter ∨
      ∃ run, matter.standing = .handled job run ∧ run.phase.hasRemoved = true

section Developing

variable {desk : Desk} {occurrence : Occurrence} {questionId : String} {matter after : Matter}

/-- The question of a job whose listener is about to be told is there, or the job is a duplicate,
and so it is afterwards. -/
theorem Housed.closes {visit : Option (Nat × Visit)} {job : Job} {event : Jobs.Event}
    {ledger later : Database.Ledger} (housed : Housed ⟨visit, .ends job event, ledger⟩)
    (wording : later.wording = ledger.wording) : Housed ⟨visit, .closed job, later⟩ := by
  rintro _ ⟨⟩
  rcases housed job rfl with ⟨text, asked⟩ | ⟨other, standing | ⟨_, standing⟩, marked⟩ |
    ⟨_, standing, _⟩
  · exact Or.inl ⟨text, wording.trans asked⟩
  · cases standing
  · cases standing
    exact Or.inr (Or.inl ⟨job, Or.inl rfl, marked⟩)
  · cases standing

/-- The question of a job stays there as long as no run is stranded. -/
theorem Development.housed (development : Development desk occurrence questionId matter after)
    (proper : matter.Proper desk.named questionId) (housed : Housed matter)
    (held : desk.strands occurrence = false) : Housed after := by
  have fits := proper.fits
  cases development with
  | rests | unrecorded | remembered => exact housed
  | counted asked | recorded _ asked => exact fun _ _ => Or.inl ⟨_, asked⟩
  | begun | unposed => exact nofun
  | posed => exact fun _ _ => Or.inl ⟨_, rfl⟩
  | taken =>
    cases fits with
    | waits _ _ _ opens => exact fun _ _ => Or.inl ⟨_, opens.asked⟩
  | @wentOn _ _ _ _ _ _ next _ _ _ _ _ _ wrote =>
    cases fits with
    | handled _ _ _ _ kept =>
      have kept := kept.wrote wrote
      rintro _ ⟨⟩
      cases there : next.phase.hasRemoved with
      | true => exact Or.inr (Or.inr ⟨next, rfl, there⟩)
      | false => exact Or.inl ⟨_, ((kept_there there).mp kept).asked⟩
  | @ended _ _ _ _ _ _ _ outcome _ _ acts running passage _ quit =>
    cases fits with
    | handled _ bare blameless carries kept =>
      rintro _ ⟨⟩
      cases outcome with
      | error failure =>
        rcases kept.of_quit quit with ⟨removed, _⟩ | ⟨_, asked⟩
        · rw [acts, strands_of_removed running passage removed] at held
          cases held
        · exact Or.inl asked
      | ok value =>
        cases fits_of_ended passage carries bare blameless kept quit with
        | answered _ _ opens => exact Or.inl ⟨_, opens.asked⟩
        | duplicate _ marked => exact Or.inr (Or.inl ⟨_, Or.inr ⟨_, rfl⟩, marked⟩)
  | cutOff _ acts running =>
    cases fits with
    | handled _ _ _ _ kept =>
      rw [acts, strands, running, Option.any_some] at held
      exact fun _ _ => Or.inl ⟨_, ((kept_there held).mp kept).asked⟩
  | told _ _ _ stored => exact housed.closes stored.wording
  | dismissed => exact housed.closes rfl

/-- In a course that strands no run, the question of a job stays there. -/
theorem Story.housed {occurrences : Nat → Occurrence} {matters : Nat → Matter}
    (story : desk.Story occurrences questionId matters) {count : Nat}
    (held : ∀ moment < count,
      (desk.course occurrences moment).strands (occurrences moment) = false) :
    Housed (matters count) := by
  induction count with
  | zero =>
    rw [story.first]
    exact nofun
  | succ count before =>
    exact (story.develops count).housed (story.proper count)
      (before fun moment below => held moment (Nat.lt_succ_of_lt below))
      (held count (Nat.lt_succ_self count))

end Developing

/-! ## Addresses in a course -/

section Courses

variable {settings : Settings} {desk : Desk} (started : start settings = .ok desk)
  {occurrences : Nat → Occurrence} (service : ∀ moment, (occurrences moment).isService = true)
include started service

end Courses

end QuestionDesk.Desk
