import QuestionDesk.Proofs.Desk.Courses
import QuestionDesk.Proofs.Desk.Readings

/-!
# Pushes

The listener of a job that has completed tells the subscriber the rows whether or not they could be
stored. Where they could, the database holds them by then; where they could not, it holds what it
held before, and nobody notices but the log.
-/
namespace QuestionDesk.Desk

open Jobs (Board Job)
open Pipeline (Run)
open Push (JobState)

section Pushes

variable {desk : Desk} {worker : Nat} {job : Job} {listener : Listener} {state : JobState}

/-- A listener that fails to store how a job has ended stores nothing. -/
theorem store?_failed {failure : Failure} (failed : (desk.store? listener job).1 = .error failure) :
    (desk.store? listener job).2 = desk := by
  unfold Desk.store? at failed ⊢
  cases listener with
  | completion =>
    simp only at failed ⊢
    split at failed
    · cases failed
    · next unmarked =>
      rw [if_neg unmarked]
      cases outcome : (desk.database.completeJob job.id job.returnValue).1 with
      | ok answer =>
        rw [outcome] at failed
        cases failed
      | error refused => rw [Database.completeJob_failed outcome]
  | failure =>
    simp only at failed ⊢
    cases outcome : (desk.database.updateRecord job.id [.status (some Database.failedStatus),
        .failedReason job.failedReason]).1 with
    | ok record =>
      rw [outcome] at failed
      cases failed
    | error refused => rw [Database.updateRecord_failed outcome]

/-- A listener that fails to store an answer was refused by the database. -/
theorem refusal_of_store? {result : Value}
    (given : Database.storedResult job.returnValue = .ok result)
    {failure : Failure} (failed : (desk.store? .completion job).1 = .error failure) :
    Database.IsRefusal failure := by
  simp only [Desk.store?] at failed
  split at failed
  · cases failed
  · cases outcome : (desk.database.completeJob job.id job.returnValue).1 with
    | ok answer =>
      rw [outcome] at failed
      cases failed
    | error refused =>
      rw [outcome] at failed
      cases failed
      exact Database.refusal_of_completeJob given outcome

/-- A job whose state can be told is announced by sending the state. -/
theorem announce_of_told (told : JobState.ofJob job = .ok state) :
    desk.announce job = { desk with relay := desk.relay.send desk.now job.id state } := by
  unfold announce
  rw [told]

/-- A worker that is cut off while it tells a listener still tells the subscriber. -/
theorem cut_of_telling (telling : desk.board.telling? worker = some (listener, job))
    (type : job.jobType = questionJobType) :
    desk.cut (.worker worker) = { desk.announce job with board := desk.board.kill worker } := by
  obtain ⟨jobType, event, told, does, _⟩ := does_of_telling telling
  have free : desk.run? (.worker worker) = none :=
    run?_worker_none fun _ _ _ handles => nomatch (does.unique handles).2
  obtain ⟨relay, announced⟩ := announce_eq desk job
  unfold Desk.cut
  simp only [free, dismiss, telling, type, if_true, announced]

end Pushes

/-! ## Completed jobs -/

/-- A worker is about to tell that a job has completed with an answer of its own. -/
structure Completes (desk : Desk) (worker : Nat) (job : Job) (execution : Remote.Execution)
    (chart : Fields) : Prop where
  /-- The worker is about to tell the listener. -/
  telling : desk.board.telling? worker = some (listenerOf .completed, job)
  /-- The worker is busy with the job. -/
  does : desk.board.Does worker questionJobType (.notifying job .completed 0)
  /-- The job is that of a question. -/
  known : Known job.fingerprint job
  /-- The job has completed. -/
  status : job.status = .completed
  /-- Its title can be told. -/
  titled : ∃ title, JobState.titleOf job = .ok title
  /-- It has the rows and the chart. -/
  returns : job.returnValue = Run.answerValue execution.fields chart
  /-- Its question is open. -/
  kept : ∃ wording, Open (desk.ledger job.fingerprint) wording
  /-- At most one thing is known about its question. -/
  single : (desk.ledger job.fingerprint).records.length ≤ 1
  /-- What is known is about the job. -/
  about : ∀ record ∈ (desk.ledger job.fingerprint).records,
    record.questionId = job.fingerprint ∧ record.jobId = job.id
  /-- The listener stores the answer, or fails and changes nothing. -/
  hears : desk.Hears job.fingerprint job .completed (desk.store? .completion job).1
    (desk.store? .completion job).2

section Completions

variable {desk : Desk} {worker : Nat} {job : Job} {execution : Remote.Execution} {chart : Fields}

/-- A worker that is about to tell the listener of completed jobs of one that is no duplicate tells
that the job has completed with an answer of its own. -/
theorem Accounted.completes (accounted : desk.Accounted)
    (telling : desk.board.telling? worker = some (.completion, job))
    (unmarked : isDuplicate job = false) :
    ∃ execution chart, desk.Completes worker job execution chart := by
  obtain ⟨event, matter, own, does, keeps, proper, standing⟩ := accounted.of_telling telling
  obtain rfl : event = .completed := by
    cases event with
    | completed => rfl
    | failed => cases own
  have known := proper.known job (by rw [standing]; rfl)
  have hears := accounted.hears keeps proper standing
  have fits := proper.fits
  have single := proper.single
  have about := proper.about
  rw [← keeps.ledger] at single about
  rw [standing, ← keeps.ledger] at fits
  cases fits with
  | duplicate _ marked => exact absurd (unmarked.symm.trans marked) nofun
  | answered ending _ kept =>
    cases ending with
    | duplicate _ marked => exact absurd (unmarked.symm.trans marked) nofun
    | answered status _ titled returns =>
      exact ⟨_, _, telling, does, known, status, titled, returns, ⟨_, kept⟩, single,
        fun record member => ⟨(about record member).1, (about record member).2.trans known.id.symm⟩,
        hears⟩

/-- Whether the listener is told or cut off, the subscriber is sent the rows, and only the listener
that is told may change the database. -/
theorem Completes.pushed (completes : desk.Completes worker job execution chart) :
    ∃ state : JobState, state.TellsRows job execution ∧
      (desk.tell worker).relay = desk.relay.send desk.now job.id state ∧
      (desk.cut (.worker worker)).relay = desk.relay.send desk.now job.id state ∧
      (desk.tell worker).database = (desk.store? .completion job).2.database ∧
      (desk.cut (.worker worker)).database = desk.database := by
  obtain ⟨state, tells⟩ := JobState.exists_tellsRows completes.status completes.titled
    completes.returns
  obtain ⟨_, database, stores, told⟩ := tell_eq completes.telling completes.known.type
  have cut := cut_of_telling completes.telling completes.known.type
  rw [announce_of_told tells.told] at told cut
  rw [told, cut,
    show desk.store? .completion job = desk.store? (listenerOf .completed) job from rfl,
    stores]
  exact ⟨state, tells, rfl, rfl, rfl, rfl⟩

/-- A listener that has stored the answer has the database hold it. -/
theorem Completes.holdsAnswer (completes : desk.Completes worker job execution chart)
    (unmarked : isDuplicate job = false) (done : (desk.store? .completion job).1 = .ok ()) :
    (desk.tell worker).HoldsAnswer job.fingerprint execution chart := by
  obtain ⟨_, _, _, _, database, _⟩ := completes.pushed
  have stored := completes.hears.stored
  have ledger : (desk.tell worker).ledger job.fingerprint =
      (desk.store? .completion job).2.ledger job.fingerprint :=
    congrArg (·.tables.ledger job.fingerprint) database
  obtain ⟨wording, opens⟩ := completes.kept
  rw [done, ← ledger] at stored
  generalize later : (desk.tell worker).ledger job.fingerprint = after at stored
  generalize now : desk.ledger job.fingerprint = before at stored
  cases stored with
  | skipped marked => exact absurd (unmarked.symm.trans marked) nofun
  | completed _ only given =>
    obtain ⟨question, own⟩ := completes.about _ (by rw [now, only]; exact List.mem_cons_self)
    rw [completes.returns, Database.storedResult_answerValue] at given
    cases given
    refine ⟨⟨wording, ?_⟩, ⟨_, congrArg Database.Ledger.records later, ?_, rfl⟩, ?_⟩
    · rw [later, ← opens.asked, now]
    · exact own.trans completes.known.id
    · rw [later, question]
      rfl

/-- Until the listener has been told, a client is told that the question is worked on. -/
theorem Completes.detail (completes : desk.Completes worker job execution chart)
    (reads : desk.database.IsReadable) (some : (desk.ledger job.fingerprint).records ≠ []) :
    ∃ title, desk.detail job.fingerprint = .ok (.some
      { id := job.fingerprint, title, status := .inProgress, result := none }) := by
  obtain ⟨wording, opens⟩ := completes.kept
  obtain ⟨record, only⟩ := List.length_eq_one_iff.mp
    (Nat.le_antisymm completes.single (List.length_pos_iff.mpr some))
  exact ⟨_, detail_pending reads opens.asked only (opens.pending record (by simp [only]))⟩

/-- The worker that has told the listener is free, and its job is left as it is. -/
theorem Completes.leaves (completes : desk.Completes worker job execution chart)
    (accounted : desk.Accounted) : (desk.tell worker).board.Does worker questionJobType .idle ∧
      ∀ seq, (desk.tell worker).board.job? questionJobType seq =
        desk.board.job? questionJobType seq := by
  obtain ⟨_, database, _, told⟩ := tell_eq completes.telling completes.known.type
  have advance : desk.board.Advance (desk.tell worker).board questionJobType worker job job
      (desk.board.tellingNext job .completed 1) := by
    rw [told]
    exact Board.advance_notified accounted.sound completes.does completes.hears.alive
  have idle : desk.board.tellingNext job .completed 1 = .idle := by
    rw [Board.tellingNext, accounted.heard]
    exact if_neg (Nat.lt_irrefl _)
  refine ⟨idle ▸ advance.does, fun seq => ?_⟩
  rw [advance.jobs]
  split
  · next own =>
    subst own
    cases found : desk.board.job? questionJobType job.seq with
    | none => rfl
    | some there =>
      rw [Board.Sound.only_told accounted.sound completes.does there found]
      rfl
  · rfl

end Completions

/-- Whenever the listener of a completed job that is no duplicate is told, or cut off, the
subscriber is sent that the job has completed, with its rows and how many there are. If the answer
could be stored, the database holds it by then and a client is told it. If not, because the database
refused it or the listener was cut off, the database is as it was before: the question is open, a
client is told that it is worked on where anything is known about its job, and the worker goes on
and leaves the job as it is. -/
theorem completion_pushed {settings : Settings} {desk : Desk} (started : start settings = .ok desk)
    {occurrences : Nat → Occurrence}
    (service : ∀ moment, (occurrences moment).isService = true) (count worker : Nat) (job : Job)
    (telling : (desk.course occurrences count).board.telling? worker = some (.completion, job))
    (unmarked : isDuplicate job = false) :
    let here := desk.course occurrences count
    ∃ execution chart state, job.returnValue = Run.answerValue execution.fields chart ∧
      state.TellsRows job execution ∧
      (here.tell worker).relay = here.relay.send here.now job.id state ∧
      (here.cut (.worker worker)).relay = here.relay.send here.now job.id state ∧
      ((here.store? .completion job).1 = .ok () →
        (here.tell worker).HoldsAnswer job.fingerprint execution chart ∧
          ((here.tell worker).database.IsReadable → ∃ title,
            (here.tell worker).detail job.fingerprint = .ok (some
              { id := job.fingerprint, title, status := .done
                result := some (storedAnswer execution chart) }))) ∧
      (∀ failure, (here.store? .completion job).1 = .error failure →
        Database.IsRefusal failure ∧ (here.tell worker).database = here.database) ∧
      (here.cut (.worker worker)).database = here.database ∧
      (∃ wording, Open (here.ledger job.fingerprint) wording) ∧
      (here.ledger job.fingerprint).records.length ≤ 1 ∧
      (here.database.IsReadable → (here.ledger job.fingerprint).records ≠ [] →
        ∃ title, here.detail job.fingerprint = .ok (some
          { id := job.fingerprint, title, status := .inProgress, result := none })) ∧
      (here.tell worker).board.Does worker questionJobType .idle ∧
      ∀ seq, (here.tell worker).board.job? questionJobType seq =
        here.board.job? questionJobType seq := by
  intro here
  have accounted : here.Accounted := accounted_course started service count
  obtain ⟨execution, chart, completes⟩ := accounted.completes telling unmarked
  obtain ⟨state, tells, told, cut, stores, kept⟩ := completes.pushed
  refine ⟨execution, chart, state, completes.returns, tells, told, cut, fun done => ?_,
    fun failure failed => ⟨?_, ?_⟩, kept, completes.kept, completes.single, completes.detail,
    completes.leaves accounted⟩
  · have holds := completes.holdsAnswer unmarked done
    exact ⟨holds, holds.detail⟩
  · exact refusal_of_store? (completes.returns ▸ Database.storedResult_answerValue _ _) failed
  · rw [stores, store?_failed failed]

/-! ## One subscriber -/

/-- The status that a recorder was told last. -/
def lastStatus? (desk : Desk) (sink : String) : Option Value :=
  match desk.relay.sinks.find? sink with
  | some (.recorder states _ _ _) =>
    match states.getLast? with
    | some (.object fields) => some (Fields.get fields "status")
    | _ => none
  | _ => none

/-- Somebody asks and subscribes, and the answer is there and about to be stored while the
statements that fail are the given ones. -/
def subscribed (faults : List Database.Fault) : List Occurrence :=
  .act (.databaseFaults faults) :: asks 0 "Which types?" ++
    [.bring "client" (.recorder [] 0 false false), .act (.subscribe "q1" "client"),
      .act (.take 0)] ++
    served 0 ["", typesPlan, "", "", "", typesRows, "\x7b\x7d", ""] ++ [.act (.tell 0)]

/-- A subscriber is told that a job has completed whose answer could not be stored: nothing but that
it is pending is known about the job, there is no answer, and a client is told that the question is
worked on. -/
theorem completion_pushed_unstored : ∃ (desk : Desk) (job : Job),
    start smallService = .ok desk ∧
    (desk.course (script (subscribed [.statement .insert .answers])) 17).board.telling? 0 =
      some (.completion, job) ∧
    isDuplicate job = false ∧
    script (subscribed [.statement .insert .answers]) 17 = .act (.tell 0) ∧
    (desk.course (script (subscribed [.statement .insert .answers])) 17).lastStatus? "client" =
      some (.text "pending") ∧
    (desk.course (script (subscribed [.statement .insert .answers])) 18).lastStatus? "client" =
      some (.text "completed") ∧
    ((desk.course (script (subscribed [.statement .insert .answers])) 18).ledger
      job.fingerprint).records.map (·.status) = ["pending"] ∧
    ((desk.course (script (subscribed [.statement .insert .answers])) 18).ledger
      job.fingerprint).answers = [] ∧
    ((desk.course (script (subscribed [.statement .insert .answers])) 18).detail
      job.fingerprint).toOption.join.map (·.status) = some .inProgress := by
  obtain ⟨desk, started, passes⟩ := @exists_start smallService (fun desk =>
    let here := desk.course (script (subscribed [.statement .insert .answers])) 17
    let later := desk.course (script (subscribed [.statement .insert .answers])) 18
    here.lastStatus? "client" = some (.text "pending") &&
    later.lastStatus? "client" = some (.text "completed") &&
    (here.board.telling? 0).any fun told => told.1 = .completion && !isDuplicate told.2 &&
      (later.ledger told.2.fingerprint).records.map (·.status) = ["pending"] &&
      (later.ledger told.2.fingerprint).answers = [] &&
      (later.detail told.2.fingerprint).toOption.join.map (·.status) = some .inProgress)
    (by decide +kernel)
  simp only [Bool.and_eq_true, decide_eq_true_eq] at passes
  obtain ⟨⟨before, after⟩, passes⟩ := passes
  obtain ⟨⟨listener, job⟩, telling, passes⟩ := (Option.any_eq_true _ _).mp passes
  simp only [Bool.and_eq_true, decide_eq_true_eq, Bool.not_eq_true'] at passes
  obtain ⟨⟨⟨⟨completion, unmarked⟩, pending⟩, unanswered⟩, detail⟩ := passes
  rw [completion] at telling
  exact ⟨desk, job, started, telling, unmarked, rfl, before, after, pending, unanswered, detail⟩

/-- Where nothing fails, the answer is stored when the subscriber is told. -/
theorem completion_pushed_stored : ∃ (desk : Desk) (job : Job) (execution : Remote.Execution)
    (chart : Fields), start smallService = .ok desk ∧
    (∀ moment, (script (subscribed []) moment).isService = true) ∧
    (desk.course (script (subscribed [])) 17).board.telling? 0 = some (.completion, job) ∧
    isDuplicate job = false ∧
    (desk.course (script (subscribed [])) 17 |>.tell 0).HoldsAnswer job.fingerprint execution
      chart := by
  obtain ⟨desk, started, passes⟩ := @exists_start smallService (fun desk =>
    ((desk.course (script (subscribed [])) 17).board.telling? 0).any fun told =>
      told.1 = .completion && !isDuplicate told.2 &&
        ((desk.course (script (subscribed [])) 17).store? .completion told.2).1.isOk)
    (by decide +kernel)
  obtain ⟨⟨listener, job⟩, telling, passes⟩ := (Option.any_eq_true _ _).mp passes
  simp only [Bool.and_eq_true, decide_eq_true_eq, Bool.not_eq_true'] at passes
  obtain ⟨⟨completion, unmarked⟩, stores⟩ := passes
  rw [completion] at telling
  have service := @isService_script (subscribed []) rfl
  obtain ⟨execution, chart, _, _, _, _, _, stored, _⟩ :=
    completion_pushed started service 17 0 job telling unmarked
  refine ⟨desk, job, execution, chart, started, service, telling, unmarked, (stored ?_).1⟩
  cases done : ((desk.course (script (subscribed [])) 17).store? .completion job).1 with
  | ok value => rfl
  | error failure =>
    rw [done] at stores
    cases stores

end QuestionDesk.Desk
