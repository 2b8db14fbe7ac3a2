import QuestionDesk.Proofs.Desk.Courses

/-!
# Failed jobs

A job that fails leaves its question with what its run has written about it. The one exception is a
run that has removed its question as a duplicate and cannot point the prompt at the other question
any more. No question is removed but as a duplicate.
-/
namespace QuestionDesk.Desk

open Database (JobRecord Ledger Wording)
open Jobs (Board Event Job)
open Pipeline (Phase Prepared Run Runner)

/-! ## One development -/

section Developments

variable {desk : Desk} {occurrence : Occurrence} {questionId : String} {matter after : Matter}
  {job : Job} {text : Wording}

/-- A listener stores nothing about a question that is gone. -/
theorem Stored.gone {event : Event} {outcome : Except Failure Unit} {ledger later : Ledger}
    (stored : Stored job event outcome ledger later) (gone : ledger = {}) : later = {} := by
  cases stored with
  | refused | skipped | unknown => exact gone
  | completed _ only | failed only =>
    rw [gone] at only
    cases only

/-- A run that goes on removes its question only where it is a duplicate. -/
theorem Wrote.removes {phase next : Phase} {ledger written : Ledger}
    (wrote : Wrote phase next ledger written) (asked : ledger.wording = some text)
    (gone : written.wording = none) : ∃ prepared entry, phase = .removing prepared entry ∧
      next = .repointing prepared entry ∧ written = {} := by
  cases wrote with
  | nothing =>
    rw [asked] at gone
    cases gone
  | removed => exact ⟨_, _, rfl, rfl, rfl⟩
  | saved => cases gone

/-- The run of a worker fails while something occurs. -/
def RunFails (desk : Desk) (occurrence : Occurrence) (run : Run) (failure : Failure) : Prop :=
  ∃ worker response notes between, occurrence = .act (.work (.worker worker) response) ∧
    desk.run? (.worker worker) = some run ∧
      desk.Passage (.worker worker) run response (.ended (.error failure) notes) between

/-- A job that has failed had failed before, or its run fails just now. -/
theorem Development.fails (development : Development desk occurrence questionId matter after)
    (proper : matter.Proper desk.named questionId) (stands : after.standing.job? = some job)
    (failed : job.status = .failed) : matter.standing.job? = some job ∨
      ∃ before run failure, matter.standing = .handled before run ∧
        desk.RunFails occurrence run failure ∧ run.jobId = job.id ∧
          job.failedReason = some failure.safeMessage ∧ after.standing = .ends job .failed ∧
            Quit run.phase matter.ledger after.ledger := by
  have fits := proper.fits
  cases development with
  | rests | counted | recorded | unrecorded | remembered | told | dismissed => exact Or.inl stands
  | begun | unposed => cases stands
  | posed _ _ pending =>
    cases stands
    rw [pending] at failed
    cases failed
  | taken =>
    cases stands
    cases fits with
    | waits pending =>
      rw [Job.status_eq_pending] at pending
      simp [Job.status, Jobs.statusOf, pending] at failed
  | wentOn | cutOff =>
    cases stands
    cases fits with
    | handled processing =>
      rw [Job.noteAll_eq] at failed
      cases processing.symm.trans failed
  | @ended _ before _ _ worker run response outcome notes between acts running passage _ quit =>
    cases stands
    cases fits with
    | handled processing bare blameless carries =>
      cases outcome with
      | ok value =>
        rw [completed_of_value blameless] at failed
        cases failed
      | error failure =>
        refine Or.inr ⟨before, run, failure, rfl, ⟨worker, response, notes, between, acts, running,
          passage⟩, ?_, rfl, rfl, quit⟩
        exact carries.jobId.trans (same_ended before notes desk.now (.error failure)).2.2.1.symm

/-- What becomes of the matter of a question whose job has failed. -/
structure Aftermath (job : Job) (left : Option Wording) (matter : Matter) : Prop where
  /-- The listener of the job is about to be told, or nobody will do anything about it any more. -/
  stands : matter.standing = .ends job .failed ∨ matter.standing = .closed job
  /-- The question stays as it was left. -/
  wording : matter.ledger.wording = left
  /-- It has no answer. -/
  unanswered : matter.ledger.answers = []
  /-- Nothing else is stored about a question that is gone. -/
  gone : left = none → matter.ledger = {}

/-- Whatever occurs, a question whose job has failed stays as it was left. -/
theorem Aftermath.follow {left : Option Wording} (aftermath : Aftermath job left matter)
    (development : Development desk occurrence questionId matter after) :
    Aftermath job left after := by
  obtain ⟨stands, kept, unanswered, gone⟩ := aftermath
  have there : ∀ {wording}, matter.ledger.wording = some wording → left ≠ none := by
    rintro wording asked rfl
    exact nomatch asked.symm.trans kept
  cases development with
  | rests | remembered => exact ⟨stands, kept, unanswered, gone⟩
  | counted asked | recorded _ asked =>
    exact ⟨stands, kept, unanswered, fun absent => absurd absent (there asked)⟩
  | @unrecorded _ _ ledger records _ unread =>
    refine ⟨stands, kept, unanswered, fun absent => ?_⟩
    by_cases same : records = ledger.records
    · rw [same]
      exact gone absent
    · obtain ⟨_, ⟨_, asked⟩, _⟩ := unread same
      exact absurd absent (there asked)
  | begun | posed | unposed | taken | wentOn | ended | cutOff =>
    rcases stands with stands | stands <;> cases stands
  | told _ _ _ stored =>
    rcases stands with stands | stands <;> cases stands
    refine ⟨Or.inr rfl, stored.wording.trans kept, ?_, fun absent => stored.gone (gone absent)⟩
    cases stored <;> exact unanswered
  | dismissed =>
    rcases stands with stands | stands <;> cases stands
    exact ⟨Or.inr rfl, kept, unanswered, gone⟩

/-- What is known about a job that has failed is that it has, and why. -/
structure Marked (job : Job) (record : JobRecord) (matter : Matter) : Prop where
  /-- The listener of the job is about to be told, or nobody will do anything about it any more. -/
  stands : matter.standing = .ends job .failed ∨ matter.standing = .closed job
  /-- The job is marked. -/
  only : matter.ledger.records = [record.failed job.failedReason]

/-- Whatever occurs, a job that is marked as failed stays so. -/
theorem Marked.follow {record : JobRecord} (marked : Marked job record matter)
    (development : Development desk occurrence questionId matter after) :
    Marked job record after := by
  obtain ⟨stands, only⟩ := marked
  cases development with
  | rests | remembered | counted => exact ⟨stands, only⟩
  | recorded _ _ unknown =>
    rw [only] at unknown
    cases unknown
  | @unrecorded _ _ ledger records _ unread =>
    by_cases same : records = ledger.records
    · exact ⟨stands, same.trans only⟩
    · have unknown := (unread same).1
      rw [only] at unknown
      cases unknown
  | begun | posed | unposed | taken | wentOn | ended | cutOff =>
    rcases stands with stands | stands <;> cases stands
  | told _ _ _ stored =>
    rcases stands with stands | stands <;> cases stands
    refine ⟨Or.inr rfl, ?_⟩
    cases stored with
    | refused => exact only
    | failed before =>
      cases before.symm.trans only
      rfl
    | unknown unknown =>
      rw [only] at unknown
      cases unknown
  | dismissed =>
    rcases stands with stands | stands <;> cases stands
    exact ⟨Or.inr rfl, only⟩

/-- A question that its run has removed. -/
structure Removed (matter : Matter) : Prop where
  /-- Nothing is stored about it. -/
  gone : matter.ledger = {}
  /-- Its run is about to point the prompt at another question, or its job has ended or was cut
  off. -/
  stands : (∃ job run, matter.standing = .handled job run ∧ run.phase.hasRemoved = true) ∨
    (∃ job event, matter.standing = .ends job event) ∨
      ∃ job, matter.standing = .closed job ∧ (job.status = .completed → isDuplicate job = true)

/-- A job that has ended and whose question is gone is a duplicate if it has completed. -/
theorem duplicate_of_gone {event : Event} {ledger : Ledger} (fits : Fits (.ends job event) ledger)
    (gone : ledger = {}) (completed : job.status = .completed) : isDuplicate job = true := by
  cases fits with
  | answered _ _ kept => exact absurd gone (not_empty kept.asked)
  | duplicate _ marked => exact marked
  | failed ending =>
    cases ending with
    | failed status => exact nomatch status.symm.trans completed

/-- Whatever occurs, a question that its run has removed stays removed. -/
theorem Removed.follow (removed : Removed matter) (proper : matter.Proper desk.named questionId)
    (development : Development desk occurrence questionId matter after) : Removed after := by
  obtain ⟨gone, stands⟩ := removed
  have absent : ∀ {wording}, matter.ledger.wording ≠ some wording :=
    fun asked => not_empty asked gone
  have fits := proper.fits
  cases development with
  | rests | remembered => exact ⟨gone, stands⟩
  | counted asked | recorded _ asked => exact absurd asked absent
  | @unrecorded _ _ ledger records _ unread =>
    by_cases same : records = ledger.records
    · rw [same]
      exact ⟨gone, stands⟩
    · obtain ⟨_, ⟨_, asked⟩, _⟩ := unread same
      exact absurd asked absent
  | begun | posed | unposed | taken =>
    rcases stands with ⟨_, _, stands, _⟩ | ⟨_, _, stands⟩ | ⟨_, stands, _⟩ <;> cases stands
  | wentOn _ _ passage =>
    rcases stands with ⟨_, _, stands, removed⟩ | ⟨_, _, stands⟩ | ⟨_, stands, _⟩ <;> cases stands
    rw [passage.not_removed] at removed
    cases removed
  | @ended _ _ _ _ _ run _ _ _ _ _ _ _ _ quit =>
    rcases stands with ⟨_, _, stands, removed⟩ | ⟨_, _, stands⟩ | ⟨_, stands, _⟩ <;> cases stands
    obtain ⟨prepared, entry, phase⟩ := repointing_of_removed removed
    rw [phase] at quit
    cases quit with
    | same => exact ⟨gone, Or.inr (Or.inl ⟨_, _, rfl⟩)⟩
    | saved saving => cases saving
  | cutOff =>
    refine ⟨gone, Or.inr (Or.inr ⟨_, rfl, fun completed => ?_⟩)⟩
    cases fits with
    | handled processing =>
      rw [Job.noteAll_eq] at completed
      exact nomatch processing.symm.trans completed
  | told _ _ _ stored =>
    exact ⟨stored.gone gone, Or.inr (Or.inr ⟨_, rfl, duplicate_of_gone fits gone⟩)⟩
  | dismissed => exact ⟨gone, Or.inr (Or.inr ⟨_, rfl, duplicate_of_gone fits gone⟩)⟩

/-- A job that has ended after its run has removed its question is a duplicate or has failed. -/
theorem Removed.ended (removed : Removed matter) (proper : matter.Proper desk.named questionId)
    (stands : matter.standing.job? = some job) (terminal : job.isTerminal = true) :
    job.status = .completed ∧ isDuplicate job = true ∨ job.status = .failed := by
  obtain ⟨gone, standing⟩ := removed
  have fits := proper.fits
  have closed : job.status = .completed ∨ job.status = .failed := by
    cases status : job.status with
    | pending => exact absurd status (Jobs.Board.status_ne_pending_of_terminal terminal)
    | processing =>
      rw [Job.isTerminal_of_processing status] at terminal
      cases terminal
    | completed => exact Or.inl rfl
    | failed => exact Or.inr rfl
  rcases closed with completed | failed
  · refine Or.inl ⟨completed, ?_⟩
    rcases standing with ⟨_, _, standing, _⟩ | ⟨_, _, standing⟩ | ⟨_, standing, duplicate⟩ <;>
      rw [standing] at fits stands <;> cases stands
    · cases fits with
      | handled processing => exact nomatch processing.symm.trans completed
    · exact duplicate_of_gone fits gone completed
    · exact duplicate completed
  · exact Or.inr failed

/-- A question that is there and then is not was removed by its run, as a duplicate. -/
theorem Development.removes (development : Development desk occurrence questionId matter after)
    (proper : matter.Proper desk.named questionId) (asked : matter.ledger.wording = some text)
    (gone : after.ledger.wording = none) : Removed after ∧
      ∃ worker response run prepared entry, occurrence = .act (.work (.worker worker) response) ∧
        desk.run? (.worker worker) = some run ∧ run.phase = .removing prepared entry ∧
          run.questionId = .text questionId ∧ ¬matter.standing.IsAnswered := by
  have fits := proper.fits
  cases development with
  | rests | counted | recorded | unrecorded | remembered | taken | cutOff | dismissed =>
    exact nomatch asked.symm.trans gone
  | begun | posed | unposed => cases asked
  | told _ _ _ stored => exact nomatch asked.symm.trans (stored.wording.symm.trans gone)
  | ended _ _ _ _ quit =>
    obtain ⟨_, still⟩ := quit.asked asked
    exact nomatch still.symm.trans gone
  | @wentOn _ job _ _ worker run next response _ _ acts running passage wrote =>
    obtain ⟨prepared, entry, phase, now, empty⟩ := wrote.removes asked gone
    cases fits with
    | handled processing bare blameless carries =>
      have own := carries.named (by rw [phase]; nofun)
      exact ⟨⟨empty, Or.inl ⟨_, _, rfl, by rw [now]; rfl⟩⟩, worker, response, run, prepared, entry,
        acts, running, phase, own.trans (congrArg _ (proper.known job rfl).question), id⟩

end Developments

/-! ## Whole stories -/

section Stories

variable {desk : Desk} {occurrences : Nat → Occurrence} {questionId : String}
  {matters : Nat → Matter} {job : Job}

/-- A job that has failed did so at some moment, when its run failed. -/
theorem Story.fails (story : desk.Story occurrences questionId matters) {count : Nat}
    (stands : (matters count).standing.job? = some job) (failed : job.status = .failed) :
    ∃ moment < count, ∃ before run failure, (matters moment).standing = .handled before run ∧
      (desk.course occurrences moment).RunFails (occurrences moment) run failure ∧
        run.jobId = job.id ∧ job.failedReason = some failure.safeMessage ∧
          (matters (moment + 1)).standing = .ends job .failed ∧
            Quit run.phase (matters moment).ledger (matters (moment + 1)).ledger := by
  induction count with
  | zero =>
    rw [story.first] at stands
    cases stands
  | succ count earlier =>
    rcases (story.develops count).fails (story.proper count) stands failed with before | now
    · obtain ⟨moment, below, rest⟩ := earlier before
      exact ⟨moment, Nat.lt_succ_of_lt below, rest⟩
    · exact ⟨count, Nat.lt_succ_self count, now⟩

/-- A question whose run has failed and that was left in some way stays so. -/
theorem Story.aftermath (story : desk.Story occurrences questionId matters) {moment later : Nat}
    {before : Job} {run : Run} (standing : (matters moment).standing = .handled before run)
    (ends : (matters (moment + 1)).standing = .ends job .failed)
    (quit : Quit run.phase (matters moment).ledger (matters (moment + 1)).ledger)
    (after : moment < later) :
    Aftermath job (matters (moment + 1)).ledger.wording (matters later) := by
  refine story.later (fun development _ now => now.follow development) after ?_
  have fits := (story.proper moment).fits
  rw [standing] at fits
  cases fits with
  | handled _ _ _ _ kept =>
    rcases kept.quit quit with gone | ⟨wording, opens⟩
    · exact ⟨Or.inl ends, rfl, by rw [gone], fun _ => gone⟩
    · exact ⟨Or.inl ends, rfl, opens.unanswered,
        fun absent => nomatch opens.asked.symm.trans absent⟩

/-- The way in which a run that has failed has left its question: gone where the run had removed it,
and else as the run has written it, or was writing it when it failed. -/
theorem Story.left (story : desk.Story occurrences questionId matters) {moment : Nat} {before : Job}
    {run : Run} (standing : (matters moment).standing = .handled before run)
    (quit : Quit run.phase (matters moment).ledger (matters (moment + 1)).ledger) :
    ((∃ prepared entry, run.phase = .repointing prepared entry) ∧
        (matters (moment + 1)).ledger.wording = none) ∨
      (matters moment).ledger.wording = some run.phase.wording ∧
        ∃ wording, (matters (moment + 1)).ledger.wording = some wording ∧
          (wording = run.phase.wording ∨
            ∃ prepared, run.phase = .saving prepared ∧ wording = .saved prepared) := by
  have fits := (story.proper moment).fits
  rw [standing] at fits
  generalize (matters moment).ledger = ledger at fits quit ⊢
  generalize (matters (moment + 1)).ledger = left at quit ⊢
  cases fits with
  | handled _ _ _ _ kept =>
    cases removed : run.phase.hasRemoved with
    | true =>
      obtain ⟨prepared, entry, phase⟩ := repointing_of_removed removed
      rw [phase] at quit
      cases quit with
      | same => exact Or.inl ⟨⟨_, _, phase⟩, by rw [(kept_removed removed).mp kept]⟩
      | saved saving => cases saving
    | false =>
      have asked := ((kept_there removed).mp kept).asked
      cases quit with
      | same => exact Or.inr ⟨asked, _, asked, Or.inl rfl⟩
      | saved saving => exact Or.inr ⟨asked, _, rfl, Or.inr ⟨_, saving, rfl⟩⟩

/-- A listener that has marked a job as failed leaves it marked. -/
theorem Story.marked (story : desk.Story occurrences job.fingerprint matters)
    {told worker later : Nat} {record : JobRecord}
    (accounted : (desk.course occurrences told).Accounted)
    (tells : occurrences told = .act (.tell worker))
    (telling : (desk.course occurrences told).board.telling? worker = some (.failure, job))
    (done : ((desk.course occurrences told).store? .failure job).1 = .ok ())
    (only : ((desk.course occurrences told).ledger job.fingerprint).records = [record])
    (after : told < later) : Marked job record (matters later) := by
  refine story.later (fun development _ now => now.follow development) after ?_
  obtain ⟨event, _, own, does, _⟩ := accounted.of_telling telling
  obtain rfl : event = .failed := by
    cases event with
    | completed => cases own
    | failed => rfl
  have keeps := story.keeps told
  have proper := story.proper told
  obtain ⟨standing, _⟩ := keeps.of_notifying proper accounted.sound does rfl
  have hears := accounted.hears keeps proper standing
  have known := proper.known job (by rw [standing]; rfl)
  have ledger : (matters (told + 1)).ledger =
      ((desk.course occurrences told).store? .failure job).2.ledger job.fingerprint := by
    rw [← (story.keeps (told + 1)).ledger, course, tells]
    exact congrArg (·.tables.ledger job.fingerprint)
      (@database_tell _ worker job .failed telling known.type)
  have aftermath : Aftermath job (matters told).ledger.wording (matters told) := by
    have fits := proper.fits
    rw [standing] at fits
    cases fits with
    | failed _ kept =>
      rcases kept with gone | ⟨_, opens⟩
      · exact ⟨Or.inl standing, rfl, by rw [gone], fun _ => gone⟩
      · exact ⟨Or.inl standing, rfl, opens.unanswered,
          fun absent => nomatch opens.asked.symm.trans absent⟩
  refine ⟨(aftermath.follow (story.develops told)).stands, ?_⟩
  have stored := hears.stored
  rw [listenerOf, done, ← ledger] at stored
  generalize (matters (told + 1)).ledger = later at stored ⊢
  generalize (desk.course occurrences told).ledger job.fingerprint = here at only stored
  cases stored with
  | failed same =>
    cases same.symm.trans only
    rfl
  | unknown none =>
    rw [only] at none
    cases none

end Stories

/-- A job that has failed did so when its run failed, with the reason of that failure. If the run
had not removed its question, the question stays for ever as the run had written it, or was writing
it when it failed, and has no answer. If the run had removed its question as a duplicate and could
not point the prompt at the other question, nothing about the question is stored any more. What is
known about the job is marked with the reason, where the listener finds it and does not fail. And no
question is ever removed but by its own run, as a duplicate of another question that has an answer;
if its job ends, it completes as a duplicate or fails. -/
theorem failed_question_kept {settings : Settings} {desk : Desk}
    (started : start settings = .ok desk) {occurrences : Nat → Occurrence}
    (service : ∀ moment, (occurrences moment).isService = true) :
    (∀ count seq job, (desk.course occurrences count).board.job? questionJobType seq = some job →
      job.status = .failed → ∃ moment run failure, moment < count ∧
        (desk.course occurrences moment).RunFails (occurrences moment) run failure ∧
        run.jobId = job.id ∧ job.failedReason = some failure.safeMessage ∧
        ((∃ prepared entry, run.phase = .repointing prepared entry) ∧
            (∀ later, moment < later →
              (desk.course occurrences later).ledger job.fingerprint = {}) ∨
          ((desk.course occurrences moment).ledger job.fingerprint).wording =
              some run.phase.wording ∧
            ∃ wording, (wording = run.phase.wording ∨
                ∃ prepared, run.phase = .saving prepared ∧ wording = .saved prepared) ∧
              ∀ later, moment < later →
                ((desk.course occurrences later).ledger job.fingerprint).wording = some wording ∧
                ((desk.course occurrences later).ledger job.fingerprint).answers = [])) ∧
    (∀ told worker job record, occurrences told = .act (.tell worker) →
      (desk.course occurrences told).board.telling? worker = some (.failure, job) →
      ((desk.course occurrences told).store? .failure job).1 = .ok () →
      ((desk.course occurrences told).ledger job.fingerprint).records = [record] →
      ∀ later, told < later → ((desk.course occurrences later).ledger job.fingerprint).records =
        [record.failed job.failedReason]) ∧
    ∀ count questionId wording,
      ((desk.course occurrences count).ledger questionId).wording = some wording →
      ((desk.course occurrences (count + 1)).ledger questionId).wording = none →
      (∃ worker response run prepared entry,
        occurrences count = .act (.work (.worker worker) response) ∧
        (desk.course occurrences count).run? (.worker worker) = some run ∧
        run.phase = .removing prepared entry ∧ run.questionId = .text questionId ∧
        entry.questionId ≠ questionId) ∧
      ∀ later, count < later → (desk.course occurrences later).ledger questionId = {} ∧
        ∀ seq job, (desk.course occurrences later).board.job? questionJobType seq = some job →
          job.fingerprint = questionId → job.isTerminal = true →
            job.status = .completed ∧ isDuplicate job = true ∨ job.status = .failed := by
  refine ⟨fun count seq job found failed => ?_, fun told worker job record tells telling done only
    later after => ?_, fun count questionId wording asked gone => ?_⟩
  · obtain ⟨matters, story⟩ := exists_story started service job.fingerprint
    obtain ⟨moment, below, before, run, failure, standing, fails, own, reason, ends, quit⟩ :=
      story.fails (story.of_found found rfl) failed
    refine ⟨moment, run, failure, below, fails, own, reason, ?_⟩
    rcases story.left standing quit with ⟨phase, absent⟩ | ⟨asked, wording, left, written⟩
    · refine Or.inl ⟨phase, fun later after => ?_⟩
      exact (story.keeps later).ledger.trans
        ((story.aftermath standing ends quit after).gone absent)
    · refine Or.inr ⟨(story.keeps moment).ledger ▸ asked, wording, written, fun later after => ?_⟩
      have aftermath := story.aftermath standing ends quit after
      rw [(story.keeps later).ledger]
      exact ⟨aftermath.wording.trans left, aftermath.unanswered⟩
  · obtain ⟨matters, story⟩ := exists_story started service job.fingerprint
    have marked :=
      story.marked (accounted_course started service told) tells telling done only after
    rw [(story.keeps later).ledger]
    exact marked.only
  · obtain ⟨matters, story⟩ := exists_story started service questionId
    rw [(story.keeps _).ledger] at asked gone
    obtain ⟨removed, worker, response, run, prepared, entry, acts, running, phase, own,
      unanswered⟩ :=
      (story.develops count).removes (story.proper count) asked gone
    refine ⟨⟨worker, response, run, prepared, entry, acts, running, phase, own, fun same => ?_⟩,
      fun later after => ?_⟩
    · exact unanswered ((story.keeps count).cited
        (Or.inr ⟨_, run, prepared, entry, running, Or.inl phase, same⟩))
    · have still := story.later (fun development proper now => now.follow proper development) after
        removed
      refine ⟨(story.keeps later).ledger.trans still.gone, fun seq job found mine terminal => ?_⟩
      exact still.ended (story.proper later) (story.of_found found mine) terminal

/-! ## Two failures -/

/-- Somebody asks, and the executor has an outage when the query is run. -/
def refused : List Occurrence :=
  asks 0 "Which types?" ++ [.act (.take 0)] ++ served 0 ["", typesPlan, "", "", ""] ++
    [.act (.work (.worker 0) (.answer 500 ""))]

/-- A job whose query the executor refuses fails when its run does, for the reason of the run. -/
theorem failed_question_kept_refused : ∃ (desk : Desk) (job : Job),
    start smallService = .ok desk ∧ (∀ moment, (script refused moment).isService = true) ∧
    (desk.course (script refused) 12).board.job? questionJobType 1 = some job ∧
    job.status = .failed ∧ ∃ moment run failure, moment < 12 ∧
      (desk.course (script refused) moment).RunFails (script refused moment) run failure ∧
      job.failedReason = some failure.safeMessage := by
  obtain ⟨desk, started, passes⟩ := @exists_start smallService (fun desk =>
    ((desk.course (script refused) 12).board.job? questionJobType 1).any fun job =>
      job.status = .failed) (by decide +kernel)
  obtain ⟨job, found, failed⟩ := (Option.any_eq_true _ _).mp passes
  have service := @isService_script refused rfl
  obtain ⟨moment, run, failure, below, fails, _, reason, _⟩ :=
    (failed_question_kept started service).1 12 1 job found (of_decide_eq_true failed)
  exact ⟨desk, job, started, service, found, of_decide_eq_true failed, moment, run, failure, below,
    fails, reason⟩

/-- Two people ask for the same one after another, and from the moment when the second question was
removed as a duplicate nothing can be written to the store. -/
def unpointed : List Occurrence :=
  asks 0 "Which types?" ++ [.act (.take 0)] ++
    served 0 ["", typesPlan, "", "", "", typesRows, "\x7b\x7d", ""] ++ [.act (.tell 0)] ++
    asks 1 "What types?" ++ [.act (.take 0)] ++ served 0 ["", typesPlan, "", "", ""] ++
    [.act (.storeFaults [.set])] ++ served 0 [""]

/-- A job fails and its question is gone. -/
theorem failed_question_kept_unpointed : ∃ (desk : Desk) (job : Job),
    start smallService = .ok desk ∧
    ((desk.course (script unpointed) 25).ledger "q2").wording ≠ none ∧
    (desk.course (script unpointed) 28).board.job? questionJobType 2 = some job ∧
    job.fingerprint = "q2" ∧ job.status = .failed ∧
    (desk.course (script unpointed) 28).ledger "q2" = {} := by
  obtain ⟨desk, started, passes⟩ := @exists_start smallService (fun desk =>
    ((desk.course (script unpointed) 25).ledger "q2").wording ≠ none &&
    (desk.course (script unpointed) 28).ledger "q2" = {} &&
    ((desk.course (script unpointed) 28).board.job? questionJobType 2).any fun job =>
      job.fingerprint = "q2" && job.status = .failed) (by decide +kernel)
  simp only [Bool.and_eq_true, decide_eq_true_eq] at passes
  obtain ⟨⟨asked, gone⟩, passes⟩ := passes
  obtain ⟨job, found, own⟩ := (Option.any_eq_true _ _).mp passes
  simp only [Bool.and_eq_true, decide_eq_true_eq] at own
  exact ⟨desk, job, started, asked, found, own.1, own.2, gone⟩

end QuestionDesk.Desk
