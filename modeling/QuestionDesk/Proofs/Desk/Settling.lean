import QuestionDesk.Proofs.Desk.Courses
import QuestionDesk.Proofs.Desk.Readings

/-!
# Settling

While nobody is cut off and no call to the store or to the database fails, a job becomes known right
after it was created, and what is known about it is settled when its listener is told. The one way
to miss that is to tell the failure listener before the job is known.
-/
namespace QuestionDesk.Desk

open Database (JobRecord Ledger Wording)
open Jobs (Board Event Job)
open Pipeline (Phase Prepared Run Runner)

/-- A visit is about to store what is known about the job of a question. -/
def Recording (matter : Matter) : Prop :=
  ∃ number prompt source ticket, matter.visit = some (number, ⟨prompt, source, .recording ticket⟩)

/-- Whether a run that has removed its question is cut off, or fails to point its prompt at another
question. -/
def strands (desk : Desk) : Occurrence → Bool
  | .act (.cut runner) => (desk.run? runner).any (·.phase.hasRemoved)
  | .act (.work runner response) =>
    (desk.run? runner).any fun run => run.phase.hasRemoved &&
      run.call?.any fun call => (desk.perform call response).1.isFailure
  | _ => false

/-- The failure listener of a job is told before anything is known about the job. -/
def TellsEarly (desk : Desk) (occurrence : Occurrence) (matter : Matter) (job : Job) : Prop :=
  ∃ worker, occurrence = .act (.tell worker) ∧
    desk.board.telling? worker = some (.failure, job) ∧ Recording matter

/-- What is known about a job about which nobody will do anything any more. -/
inductive Settled (questionId : String) (early : Prop) (job : Job) (matter : Matter) : Prop where
  /-- It has completed, and its answer is stored. -/
  | answered {execution : Remote.Execution} {chart : Fields} {wording : Wording}
    {record : JobRecord} (status : job.status = .completed) (unmarked : isDuplicate job = false)
    (returns : job.returnValue = Run.answerValue execution.fields chart)
    (asked : matter.ledger.wording = some wording) (only : matter.ledger.records = [record])
    (completed : record.status = Database.completedStatus)
    (answers : matter.ledger.answers = [⟨questionId, .object (storedAnswer execution chart)⟩])
  /-- It has failed, and that is known. -/
  | failed {wording : Wording} {record : JobRecord} (status : job.status = .failed)
    (asked : matter.ledger.wording = some wording) (unanswered : matter.ledger.answers = [])
    (only : matter.ledger.records = [record]) (marked : record.status = Database.failedStatus)
    (reason : record.failedReason = job.failedReason)
  /-- It has failed, but that was told too early to be known. -/
  | missed {wording : Wording} (status : job.status = .failed) (missed : early)
    (kept : Open matter.ledger wording) (known : matter.ledger.records = [] → Recording matter)
  /-- It is a duplicate, and its question is gone. -/
  | duplicate (status : job.status = .completed) (marked : isDuplicate job = true)
    (gone : matter.ledger = {})

/-- A matter of which nothing has gone wrong, except that the failure listener may have been told
too early. -/
structure Sure (questionId : String) (early : Job → Prop) (matter : Matter) : Prop where
  /-- A job that is not over is known, or a visit is about to make it known. -/
  known : ∀ job, matter.standing.job? = some job → (∀ other, matter.standing ≠ .closed other) →
    (∃ wording, matter.ledger.wording = some wording) → matter.ledger.records = [] →
      Recording matter
  /-- The question of a job that has failed is there. -/
  failed : ∀ job, matter.standing = .ends job .failed →
    ∃ wording, matter.ledger.wording = some wording
  /-- What is known about a job that is over is settled. -/
  closed : ∀ job, matter.standing = .closed job → Settled questionId (early job) job matter

section Holdings

variable {desk : Desk} {questionId : String} {matter : Matter}
  (keeps : desk.Keeps questionId matter) (proper : matter.Proper desk.named questionId)
include keeps proper

/-- The database holds a question that is open and whose job is known. -/
theorem Keeps.holdsOpen {wording : Wording} (opens : Open matter.ledger wording)
    (known : matter.ledger.records ≠ []) : desk.HoldsOpen questionId := by
  have ledger := keeps.ledger
  obtain ⟨record, only⟩ := List.length_eq_one_iff.mp
    (Nat.le_antisymm proper.single (List.length_pos_iff.mpr known))
  have member : record ∈ matter.ledger.records := by simp [only]
  rw [← ledger] at opens only
  exact ⟨⟨_, opens.asked⟩, ⟨record, only, (proper.about _ member).2,
    opens.pending record (by simp [only])⟩, opens.unanswered⟩

/-- What the database holds about a question when what is known about its job is settled, and no
visit is about to store anything about the job. -/
theorem Settled.holds {early : Prop} {job : Job} (settled : Settled questionId early job matter)
    (idle : ¬Recording matter) :
    (job.status = .completed ∧ isDuplicate job = false ∧ ∃ execution chart,
      job.returnValue = Run.answerValue execution.fields chart ∧
        desk.HoldsAnswer questionId execution chart) ∨
    (job.status = .failed ∧
      (desk.HoldsFailure questionId job.failedReason ∨ desk.HoldsOpen questionId ∧ early)) ∨
    (job.status = .completed ∧ isDuplicate job = true ∧ desk.ledger questionId = {}) := by
  have about := proper.about
  have ledger := keeps.ledger
  cases settled with
  | answered status unmarked returns asked only completed answers =>
    rw [← ledger] at asked only answers about
    exact Or.inl ⟨status, unmarked, _, _, returns, ⟨_, asked⟩,
      ⟨_, only, (about _ (by simp [only])).2, completed⟩, answers⟩
  | failed status asked unanswered only marked reason =>
    rw [← ledger] at asked unanswered only about
    exact Or.inr (Or.inl ⟨status, Or.inl ⟨⟨_, asked⟩,
      ⟨_, only, (about _ (by simp [only])).2, marked, reason⟩, unanswered⟩⟩)
  | missed status missed kept known =>
    exact Or.inr (Or.inl ⟨status, Or.inr ⟨keeps.holdsOpen proper kept fun none =>
      idle (known none), missed⟩⟩)
  | duplicate status marked gone => exact Or.inr (Or.inr ⟨status, marked, ledger.trans gone⟩)

end Holdings

section Development

variable {desk between : Desk} {occurrence : Occurrence} {questionId : String}
  {matter after : Matter} {job : Job} {early later : Prop}

/-- What is settled stays so as long as the question, its job and its answer stay as they are. -/
theorem Settled.congr (settled : Settled questionId early job matter) (grows : early → later)
    (gone : matter.ledger = {} → after.ledger = {})
    (wording : after.ledger.wording = matter.ledger.wording)
    (records : after.ledger.records = matter.ledger.records)
    (answers : after.ledger.answers = matter.ledger.answers)
    (recording : Recording matter → Recording after) : Settled questionId later job after := by
  cases settled with
  | answered status unmarked returns asked only completed stored =>
    exact .answered status unmarked returns (wording.trans asked) (records.trans only) completed
      (answers.trans stored)
  | failed status asked unanswered only marked reason =>
    exact .failed status (wording.trans asked) (answers.trans unanswered)
      (records.trans only) marked reason
  | missed status missed kept known =>
    refine .missed status (grows missed) ⟨wording.trans kept.asked, answers.trans kept.unanswered,
      fun record member => kept.pending record (records ▸ member)⟩ fun none => recording (known ?_)
    rw [← records]
    exact none
  | duplicate status marked empty => exact .duplicate status marked (gone empty)

/-- A run that has removed its question and fails is stranded. -/
theorem strands_of_removed {runner : Runner} {run : Run} {response : Remote.Response}
    {failure : Failure} {notes : Fields} (running : desk.run? runner = some run)
    (passage : desk.Passage runner run response (.ended (.error failure) notes) between)
    (removed : run.phase.hasRemoved = true) :
    desk.strands (.act (.work runner response)) = true := by
  cases passage with
  | unpointed phase keyed done =>
    simp [strands, running, Run.call?, phase, keyed, Except.toOption, Phase.hasRemoved, perform,
      done, Pipeline.Reply.isFailure]
  | unopened phase | unplanned phase | obstructed phase | rejected phase | uncompiled phase
  | unhashed phase | unseen phase | mistaken phase | unremoved phase | stranded phase
  | unsaved phase | unexecuted phase | uncharted phase | unstored phase =>
    rw [phase] at removed
    cases removed

/-- No run is stranded while nobody is cut off and no call to the store or to the database fails. -/
theorem not_smooth_of_strands (strands : desk.strands occurrence = true) :
    desk.isSmooth occurrence = false := by
  cases occurrence with
  | bring name sink => cases strands
  | act action =>
    cases action with
    | cut runner => rfl
    | work runner response =>
      obtain ⟨run, running, here⟩ := (Option.any_eq_true _ _).mp strands
      cases phase : run.phase with
      | repointing prepared entry =>
        simp only [phase, Phase.hasRemoved, Run.call?, Bool.true_and] at here
        cases keyed : Run.keyFor run.prompt with
        | error failure =>
          rw [keyed] at here
          cases here
        | ok key =>
          simp only [keyed, Except.toOption, Option.map_some, Option.any_some] at here
          simp [isSmooth, running, Run.call?, phase, keyed, Except.toOption,
            Pipeline.Call.isLocal, here]
      | _ => simp [phase, Phase.hasRemoved] at here
    | _ => cases strands

/-- A listener that is told while all goes well does not fail. -/
theorem ok_of_smooth {worker : Nat} {listener : Listener} {outcome : Except Failure Unit}
    (smooth : desk.isSmooth (.act (.tell worker)) = true)
    (telling : desk.board.telling? worker = some (listener, job))
    (went : (desk.hear listener job).1 = outcome) : outcome = .ok () := by
  simp only [isSmooth, telling, went] at smooth
  cases outcome with
  | ok value => rfl
  | error failure => cases smooth

/-- A run that goes on leaves what is known about its job, unless it removes its question. -/
theorem Wrote.records_of_asked {phase next : Phase} {ledger written : Ledger}
    (wrote : Wrote phase next ledger written) {wording : Wording}
    (asked : written.wording = some wording) : written.records = ledger.records := by
  cases wrote with
  | nothing | saved => rfl
  | removed => cases asked

/-- What becomes of a job whose end its listener is told while all goes well. -/
theorem settled_of_told {visit : Option (Nat × Visit)} {event : Event} {ledger stored : Ledger}
    (proper : (⟨visit, .ends job event, ledger⟩ : Matter).Proper desk.named questionId)
    {before : Job → Prop} (sure : Sure questionId before ⟨visit, .ends job event, ledger⟩)
    (stores : Stored job event (.ok ()) ledger stored)
    (now : event = .failed → Recording ⟨visit, .ends job event, ledger⟩ → later) :
    Settled questionId later job ⟨visit, .closed job, stored⟩ := by
  have fits := proper.fits
  cases fits with
  | answered ending unmarked kept =>
    cases ending with
    | duplicate _ marked => exact absurd (unmarked.symm.trans marked) nofun
    | answered status _ _ returns =>
      cases stores with
      | skipped marked => exact absurd (unmarked.symm.trans marked) nofun
      | @completed _ record result _ only given =>
        rw [returns, Database.storedResult_answerValue] at given
        cases given
        have own := (proper.about record (by
          change record ∈ ledger.records
          rw [only]
          exact List.mem_cons_self)).1
        exact .answered status unmarked returns kept.asked rfl rfl (by rw [← own]; rfl)
  | duplicate ending marked gone =>
    cases ending with
    | answered _ unmarked => exact absurd (unmarked.symm.trans marked) nofun
    | duplicate status =>
      cases stores with
      | skipped => exact .duplicate status marked gone
      | completed unmarked => exact absurd (unmarked.symm.trans marked) nofun
  | failed ending kept =>
    cases ending with
    | failed status =>
      obtain ⟨wording, asked⟩ := sure.failed job rfl
      rcases kept with gone | ⟨text, opens⟩
      · exact absurd gone (not_empty asked)
      · cases stores with
        | failed only => exact .failed status asked opens.unanswered rfl rfl rfl
        | unknown none =>
          have recording := sure.known job rfl nofun ⟨wording, asked⟩ none
          exact .missed status (now rfl recording) opens fun _ => recording

/-- While all goes well, a matter of which nothing has gone wrong stays so, unless the failure
listener is told too early. -/
theorem Sure.follow {before after' : Job → Prop} (sure : Sure questionId before matter)
    (proper : matter.Proper desk.named questionId)
    (development : Development desk occurrence questionId matter after)
    (smooth : desk.isSmooth occurrence = true) (grows : ∀ job, before job → after' job)
    (now : ∀ job, desk.TellsEarly occurrence matter job → after' job) :
    Sure questionId after' after := by
  have fits := proper.fits
  obtain ⟨known, failed, closed⟩ := sure
  cases development with
  | rests =>
    exact ⟨known, failed, fun job standing =>
      (closed job standing).congr (grows job) id rfl rfl rfl id⟩
  | counted asked =>
    exact ⟨known, failed, fun job standing =>
      (closed job standing).congr (grows job) (fun gone => absurd gone (not_empty asked))
        rfl rfl rfl id⟩
  | begun => exact ⟨nofun, nofun, nofun⟩
  | @posed number prompt source job =>
    exact ⟨fun _ _ _ _ _ => ⟨number, prompt, source, ticketOf questionId job, rfl⟩, nofun, nofun⟩
  -- These do not occur while all goes well.
  | unposed fails | unrecorded fails | cutOff fails | dismissed fails =>
    exact absurd (fails.symm.trans smooth) nofun
  | recorded stands asked unknown =>
    refine ⟨fun _ _ _ _ none => (nomatch none), fun _ _ => ⟨_, asked⟩, fun job standing => ?_⟩
    cases closed job standing with
    | answered _ _ _ _ only | failed _ _ _ only => exact nomatch only.symm.trans unknown
    | missed status missed kept =>
      refine .missed status (grows job missed)
        ⟨kept.asked, kept.unanswered, fun record member => ?_⟩ fun none => (nomatch none)
      rw [List.mem_singleton.mp member]
    | duplicate _ _ gone => exact absurd gone (not_empty asked)
  | @remembered number prompt source ticket standing ledger =>
    have settled : ¬Recording ⟨some (number, ⟨prompt, source, .remembering ticket⟩), standing,
        ledger⟩ := by
      rintro ⟨_, _, _, _, same⟩
      cases same
    exact ⟨fun job stands apart asked none => absurd (known job stands apart asked none) settled,
      failed, fun job stands => (closed job stands).congr (grows job) id rfl rfl rfl
        fun recording => absurd recording settled⟩
  | taken => exact ⟨fun _ _ _ asked none => known _ rfl nofun asked none, nofun, nofun⟩
  | wentOn _ _ passage wrote =>
    refine ⟨fun _ _ _ asked none => ?_, nofun, nofun⟩
    obtain ⟨wording, asked⟩ := asked
    cases fits with
    | handled _ _ _ _ kept =>
      exact known _ rfl nofun ⟨_, ((kept_there passage.not_removed).mp kept).asked⟩
        ((wrote.records_of_asked asked).symm.trans none)
  | @ended visit job ledger left worker run response outcome notes _ acts running passage _ quit =>
    cases fits with
    | handled _ _ _ _ kept =>
      refine ⟨fun _ _ _ asked none => ?_, fun _ standing => ?_, nofun⟩
      · obtain ⟨text, asked⟩ := asked
        rcases kept.of_quit quit with ⟨_, _, gone⟩ | ⟨before, _⟩
        · exact absurd gone (not_empty asked)
        · exact known _ rfl nofun before (quit.records.symm.trans none)
      · cases outcome with
        | ok value => cases standing
        | error failure =>
          rcases kept.of_quit quit with ⟨removed, _⟩ | ⟨_, asked⟩
          · rw [acts, not_smooth_of_strands (strands_of_removed running passage removed)] at smooth
            cases smooth
          · exact asked
  | told acts telling went stored =>
    rw [acts] at smooth
    obtain rfl := ok_of_smooth smooth telling went
    refine ⟨fun _ _ apart => absurd rfl (apart _), nofun, ?_⟩
    rintro job ⟨⟩
    refine settled_of_told proper ⟨known, failed, closed⟩ stored fun same recording => now _ ?_
    subst same
    exact ⟨_, acts, telling, recording⟩

end Development

/-- While all goes well in a course, nothing goes wrong with a matter, unless the failure listener
is told too early. -/
theorem Story.sure {desk : Desk} {occurrences : Nat → Occurrence} {questionId : String}
    {matters : Nat → Matter} (story : desk.Story occurrences questionId matters) {count : Nat}
    (smooth : ∀ moment < count,
      (desk.course occurrences moment).isSmooth (occurrences moment) = true) :
    Sure questionId (fun job => ∃ told < count,
      (desk.course occurrences told).TellsEarly (occurrences told) (matters told) job)
        (matters count) := by
  induction count with
  | zero =>
    rw [story.first]
    exact ⟨nofun, nofun, nofun⟩
  | succ count ih =>
    refine (ih fun moment below => smooth moment (Nat.lt_succ_of_lt below)).follow
      (story.proper count) (story.develops count) (smooth count (Nat.lt_succ_self count)) ?_ ?_
    · rintro job ⟨told, below, early⟩
      exact ⟨told, Nat.lt_succ_of_lt below, early⟩
    · exact fun job early => ⟨count, Nat.lt_succ_self count, early⟩

end QuestionDesk.Desk
