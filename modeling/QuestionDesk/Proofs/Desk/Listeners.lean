import QuestionDesk.Proofs.Database.Refusals
import QuestionDesk.Proofs.Desk.Works

/-!
# Listeners

The listener of an event stores how a job has ended, or fails and changes nothing. Whether or not it
fails, the subscriber is told, and the worker goes on.
-/
namespace QuestionDesk

open Database (JobRecord Ledger)
open Jobs (Activity Board Event Job)
open Pipeline (Run Runner)

/-- What is stored of an answer: its rows and its chart. -/
theorem Database.storedResult_answerValue (execution : Remote.Execution) (chart : Fields) :
    storedResult (Run.answerValue execution.fields chart) =
      .ok (.object [("rows", execution.rowsValue), ("chart_config", .object chart)]) :=
  rfl

namespace Desk

/-! ## What is stored -/

section Stores

variable {desk : Desk} {questionId : String} {matter : Matter} {job : Job} {event : Event}

/-- What is known about jobs is known about the jobs of their questions. -/
theorem Accounted.about (accounted : desk.Accounted) {record : JobRecord}
    (member : record ∈ desk.database.tables.records) :
    record.jobId = Jobs.jobKey questionJobType record.questionId := by
  obtain ⟨matter, keeps, proper⟩ := accounted.matters record.questionId
  have listed : record ∈ (desk.ledger record.questionId).records :=
    List.mem_filter.mpr ⟨member, by simp⟩
  rw [keeps.ledger] at listed
  exact (proper.about record listed).2

/-- The only thing that is known about the job of a question is found under the key of the job. -/
theorem Accounted.sole (accounted : desk.Accounted) {record : JobRecord}
    (only : (desk.ledger questionId).records = [record])
    (question : record.questionId = questionId) : desk.database.tables.Sole record := by
  have mine : record ∈ desk.database.tables.records := by
    have listed : record ∈ (desk.ledger questionId).records := by simp [only]
    exact (List.mem_filter.mp listed).1
  refine ⟨by rw [question]; exact only, fun id different other member same => different ?_⟩
  obtain ⟨inside, own⟩ := List.mem_filter.mp member
  have key := Jobs.jobKey_inj ((accounted.about inside).symm.trans (same.trans (accounted.about mine)))
  exact (of_decide_eq_true own).symm.trans key

/-- Where nothing is known about the job of a question, nothing is found under its key. -/
theorem Accounted.unknown (accounted : desk.Accounted)
    (absent : (desk.ledger questionId).records = []) :
    desk.database.tables.record? (Jobs.jobKey questionJobType questionId) = none := by
  apply List.find?_eq_none.mpr
  intro record member same
  have own := Jobs.jobKey_inj ((accounted.about member).symm.trans (of_decide_eq_true same))
  have listed : record ∈ (desk.ledger questionId).records :=
    List.mem_filter.mpr ⟨member, by simpa using own⟩
  rw [absent] at listed
  cases listed

/-- What a listener does when it is told of the end of a job: it stores that, or fails and changes
nothing. -/
structure Hears (desk : Desk) (questionId : String) (job : Job) (event : Event)
    (outcome : Except Failure Unit) (after : Desk) : Prop where
  /-- It is not cut off. -/
  alive : outcome ≠ .error .cancelled
  /-- It stores nothing about any other question. -/
  apart : ∀ other, other ≠ questionId → after.ledger other = desk.ledger other
  /-- It stores how the job has ended, or nothing. -/
  stored : Stored job event outcome (desk.ledger questionId) (after.ledger questionId)

/-- Of the job of a question nothing is known, or one thing that is found under its key. -/
theorem Accounted.record_cases (accounted : desk.Accounted) (keeps : desk.Keeps questionId matter)
    (proper : matter.Proper desk.named questionId) :
    ((desk.ledger questionId).records = [] ∧
      desk.database.tables.record? (Jobs.jobKey questionJobType questionId) = none) ∨
    ∃ record, (desk.ledger questionId).records = [record] ∧ record.questionId = questionId ∧
      record.jobId = Jobs.jobKey questionJobType questionId ∧
        desk.database.tables.Sole record := by
  have single := proper.single
  have about := proper.about
  rw [← keeps.ledger] at single about
  cases records : (desk.ledger questionId).records with
  | nil => exact Or.inl ⟨rfl, accounted.unknown records⟩
  | cons record rest =>
    rw [records] at single about
    obtain rfl : rest = [] :=
      List.eq_nil_of_length_eq_zero (Nat.le_zero.mp (Nat.le_of_succ_le_succ single))
    obtain ⟨question, key⟩ := about record List.mem_cons_self
    exact Or.inr ⟨record, rfl, question, key, accounted.sole records question⟩

/-- The failure listener marks the job of a question as failed, or changes nothing. -/
theorem Accounted.hears_failure (accounted : desk.Accounted)
    (keeps : desk.Keeps questionId matter) (proper : matter.Proper desk.named questionId)
    (id : job.id = Jobs.jobKey questionJobType questionId) :
    desk.Hears questionId job .failed (desk.store? .failure job).1
      (desk.store? .failure job).2 := by
  cases updated : (desk.database.updateRecord job.id
      [.status (some Database.failedStatus), .failedReason job.failedReason]).1 with
  | error failure =>
    have still := Database.updateRecord_failed updated
    obtain ⟨message, rfl⟩ := Database.refusal_of_updateRecord updated
    unfold Desk.store?
    simp only [updated, still]
    exact ⟨nofun, fun _ _ => rfl, .refused⟩
  | ok found =>
    rcases accounted.record_cases keeps proper with
      ⟨records, unknown⟩ | ⟨record, records, question, key, sole⟩
    · have still := Database.updateRecord_unknown (id ▸ unknown)
        [.status (some Database.failedStatus), .failedReason job.failedReason]
      unfold Desk.store?
      simp only [updated, still]
      exact ⟨nofun, fun _ _ => rfl, .unknown records⟩
    · have same : record.jobId = job.id := key.trans id.symm
      rw [← same] at updated
      have ledger := sole.ledger_updateRecord updated
      unfold Desk.store?
      rw [← same]
      simp only [updated]
      refine ⟨nofun, fun other different => ?_, ?_⟩
      · exact (ledger other).trans (if_neg (by rw [question]; exact different))
      · have here := (ledger questionId).trans (if_pos question.symm)
        exact (congrArg (Stored job .failed _ (desk.ledger questionId)) here).mpr (.failed records)

/-- The completion listener marks the job of a question as completed and stores its answer, or
changes nothing. -/
theorem Accounted.hears_completion (accounted : desk.Accounted)
    (keeps : desk.Keeps questionId matter) (proper : matter.Proper desk.named questionId)
    (id : job.id = Jobs.jobKey questionJobType questionId) (unmarked : isDuplicate job = false)
    {result : Value} (given : Database.storedResult job.returnValue = .ok result)
    (unanswered : (desk.ledger questionId).answers = []) :
    desk.Hears questionId job .completed (desk.store? .completion job).1
      (desk.store? .completion job).2 := by
  have stores : desk.store? .completion job =
      ((desk.database.completeJob job.id job.returnValue).1.map fun _ => (),
        { desk with database := (desk.database.completeJob job.id job.returnValue).2 }) := by
    refine if_neg ?_
    rw [show (job.notes.get Run.duplicateNote).isTruthy = false from unmarked]
    exact nofun
  rw [stores]
  cases completed : (desk.database.completeJob job.id job.returnValue).1 with
  | error failure =>
    obtain ⟨message, rfl⟩ := Database.refusal_of_completeJob given completed
    rw [Database.completeJob_failed completed]
    exact ⟨nofun, fun _ _ => rfl, .refused⟩
  | ok answer =>
    rcases accounted.record_cases keeps proper with
      ⟨records, unknown⟩ | ⟨record, records, question, key, sole⟩
    · obtain ⟨failure, failed⟩ := Database.completeJob_unknown (id ▸ unknown) job.returnValue
      rw [failed] at completed
      cases completed
    · have same : record.jobId = job.id := key.trans id.symm
      rw [← same] at completed ⊢
      obtain ⟨stored, returned, ledger⟩ :=
        sole.ledger_completeJob (by rw [question]; exact unanswered) completed
      refine ⟨nofun, fun other different => ?_, ?_⟩
      · exact (ledger other).trans (if_neg (by rw [question]; exact different))
      · have here := (ledger questionId).trans (if_pos question.symm)
        exact (congrArg (Stored job .completed _ (desk.ledger questionId)) here).mpr
          (.completed unmarked records returned)

/-- The listener of the event that ended a job stores that, or fails and changes nothing. -/
theorem Accounted.hears (accounted : desk.Accounted) (keeps : desk.Keeps questionId matter)
    (proper : matter.Proper desk.named questionId) (standing : matter.standing = .ends job event) :
    desk.Hears questionId job event (desk.store? (listenerOf event) job).1
      (desk.store? (listenerOf event) job).2 := by
  have id := (proper.known job (by rw [standing]; rfl)).id
  have fits := proper.fits
  rw [standing, ← keeps.ledger] at fits
  cases fits with
  | answered ending unmarked kept =>
    cases ending with
    | answered status _ titled returns =>
      exact accounted.hears_completion keeps proper id unmarked
        (returns ▸ Database.storedResult_answerValue _ _) kept.unanswered
    | duplicate status marked => exact absurd (unmarked.symm.trans marked) nofun
  | duplicate ending marked gone =>
    rw [listenerOf, show desk.store? .completion job = (.ok (), desk) from if_pos marked]
    exact ⟨nofun, fun _ _ => rfl, .skipped marked⟩
  | failed ending kept => exact accounted.hears_failure keeps proper id

end Stores

/-! ## Telling -/

section Tells

variable {desk : Desk} {worker : Nat} {job : Job} {event : Event}

/-- A listener is told next by a worker that is telling. -/
theorem does_of_telling {π ℓ : Type} {board : Board π ℓ} {worker : Nat} {listener : ℓ} {job : Job}
    (telling : board.telling? worker = some (listener, job)) : ∃ jobType event told,
      board.Does worker jobType (.notifying job event told) ∧
        (board.audience event)[told]? = some listener := by
  unfold Board.telling? at telling
  split at telling
  · next jobType told event count found =>
    obtain ⟨one, there, same⟩ := Option.map_eq_some_iff.mp telling
    cases same
    exact ⟨jobType, event, count, found, there⟩
  · cases telling

/-- A worker that is telling a listener tells that of the event that ended the job of a question. -/
theorem Accounted.of_telling (accounted : desk.Accounted) {listener : Listener}
    (telling : desk.board.telling? worker = some (listener, job)) :
    ∃ event matter, listener = listenerOf event ∧
      desk.board.Does worker questionJobType (.notifying job event 0) ∧
        desk.Keeps job.fingerprint matter ∧ matter.Proper desk.named job.fingerprint ∧
          matter.standing = .ends job event := by
  obtain ⟨jobType, event, told, does, there⟩ := does_of_telling telling
  obtain rfl := accounted.staffed _ _ _ does
  obtain ⟨matter, keeps, proper⟩ := accounted.matters job.fingerprint
  obtain ⟨standing, rfl⟩ := keeps.of_notifying proper accounted.sound does rfl
  rw [accounted.heard] at there
  exact ⟨event, matter, (Option.some.inj there).symm, does, keeps, proper, standing⟩

/-- The worker of a job whose end its listener has not been told yet is telling it. -/
theorem Staffed.telling?_eq (staffed : desk.Staffed)
    (does : desk.board.Does worker questionJobType (.notifying job event 0)) :
    desk.board.telling? worker = some (listenerOf event, job) := by
  unfold Board.telling?
  rw [does]
  simp only [staffed.heard, List.getElem?_cons_zero, Option.map_some]

/-- A worker that tells the listener of a job has it store what it stores, tells the subscriber, and
goes on. -/
theorem tell_eq (telling : desk.board.telling? worker = some (listenerOf event, job))
    (type : job.jobType = questionJobType) :
    (desk.hear (listenerOf event) job).1 = (desk.store? (listenerOf event) job).1 ∧
      ∃ database, (desk.store? (listenerOf event) job).2 = { desk with database } ∧
        desk.tell worker = { ({ desk with database } : Desk).announce job with
          board := desk.board.notified worker (desk.store? (listenerOf event) job).1 } := by
  obtain ⟨database, same⟩ := store?_eq desk (listenerOf event) job
  obtain ⟨relay, announced⟩ := announce_eq { desk with database } job
  have hears : desk.hear (listenerOf event) job =
      ((desk.store? (listenerOf event) job).1, ({ desk with database } : Desk).announce job) := by
    simp only [hear, type, if_true, same]
  refine ⟨by rw [hears], database, same, ?_⟩
  unfold Desk.tell
  simp only [telling, hears]
  rw [announced]

/-- What the database holds after a worker has told the listener of a job is what the listener has
stored. -/
theorem database_tell (telling : desk.board.telling? worker = some (listenerOf event, job))
    (type : job.jobType = questionJobType) :
    (desk.tell worker).database = (desk.store? (listenerOf event) job).2.database := by
  obtain ⟨_, database, stores, went⟩ := tell_eq telling type
  obtain ⟨relay, announced⟩ := announce_eq { desk with database } job
  rw [went, stores, announced]

/-- A worker that tells the listener of a job brings the matter of its question to rest. -/
theorem Accounted.turned_tell (accounted : desk.Accounted) (worker : Nat) :
    desk.Turned (.act (.tell worker)) (desk.tell worker) := by
  cases telling : desk.board.telling? worker with
  | none =>
    have still : desk.tell worker = desk := by
      unfold Desk.tell
      rw [telling]
    rw [still]
    exact .of_eq accounted.toStaffed rfl rfl rfl rfl rfl
  | some told =>
    obtain ⟨listener, job⟩ := told
    obtain ⟨event, own, rfl, does, kept, tidy, stands⟩ := accounted.of_telling telling
    have hears := accounted.hears kept tidy stands
    obtain ⟨went, database, same, tells⟩ :=
      tell_eq telling (tidy.known job (by rw [stands]; rfl)).type
    obtain ⟨relay, announced⟩ := announce_eq { desk with database } job
    rw [announced] at tells
    have idle : desk.board.tellingNext job event 1 = .idle := by
      rw [Board.tellingNext, accounted.heard]
      exact if_neg (Nat.lt_irrefl _)
    have advance : desk.board.Advance (desk.tell worker).board questionJobType worker job job
        .idle := by
      rw [tells, ← idle]
      exact Board.advance_notified accounted.sound does hears.alive
    have ledger : ∀ id, (desk.tell worker).ledger id =
        (desk.store? (listenerOf event) job).2.ledger id := fun id =>
      congrArg (·.tables.ledger id)
        (database_tell telling (tidy.known job (by rw [stands]; rfl)).type)
    have cited : ∀ {id}, (desk.tell worker).Cited id → desk.Cited id :=
      Cited.of_advance advance (by rintro _ _ ⟨⟩) (by rw [tells]) fun _ => by rw [tells]
    refine accounted.toStaffed.turned_advance advance (Or.inr ⟨worker, event, 0, does⟩)
      (by rw [tells]) (by rw [tells])
      (fun other different => ⟨(ledger other).trans (hears.apart other different), cited⟩)
      (.closed job) rfl (closed_of_free advance rfl) fun matter keeps proper => ?_
    obtain ⟨standing, _⟩ := keeps.of_notifying proper accounted.sound does rfl
    refine ⟨fun cites => ?_, ?_⟩
    · have answered := keeps.cited (cited cites)
      rw [standing] at answered
      exact answered
    · have here : desk.ledger job.fingerprint = matter.ledger := keeps.ledger
      have stored := hears.stored
      rw [here] at stored
      rw [ledger]
      obtain ⟨visit, _, _⟩ := matter
      cases standing
      exact .told rfl telling went stored

end Tells

/-! ## Going for good -/

section Goes

variable {desk : Desk} {worker : Nat} {job : Job} {event : Event}

/-- A worker that is cut off leaves its job to nobody. -/
theorem Accounted.turned_cutOff (accounted : desk.Accounted) {run : Run}
    (running : desk.run? (.worker worker) = some run) :
    desk.Turned (.act (.cut (.worker worker))) (desk.cut (.worker worker)) := by
  obtain ⟨job, handles⟩ := accounted.handles running
  have went : desk.cut (.worker worker) = { desk with
      turns := desk.turnsWithout (.worker worker) run
      board := (desk.board.goOn worker run (run.cutOff desk.now)).kill worker } := by
    simp only [Desk.cut, running, leaveLine_eq]
  have first := Board.advance_goOn accounted.sound handles.does handles.found run
    (run.cutOff desk.now)
  have still := first.job?_self handles.found
  have second := Board.advance_kill first.sound first.does (congrArg some first.same.1.symm)
    fun other found => Option.some.inj (found.symm.trans still)
  have advance : desk.board.Advance (desk.cut (.worker worker)).board questionJobType worker job
      (job.noteAll (run.cutOff desk.now)) .gone := by
    rw [went]
    exact first.trans second
  have cited : ∀ {id}, (desk.cut (.worker worker)).Cited id → desk.Cited id :=
    Cited.of_advance advance (by rintro _ _ ⟨⟩) (by rw [went]) fun _ => by rw [went]
  have ledger : ∀ id, (desk.cut (.worker worker)).ledger id = desk.ledger id := by
    intro id
    rw [went]
    rfl
  refine accounted.toStaffed.turned_advance advance (Or.inl handles.found) (by rw [went])
    (by rw [went]) (fun other _ => ⟨ledger other, cited⟩)
    (.closed (job.noteAll (run.cutOff desk.now))) rfl (closed_of_free advance rfl)
    fun matter keeps proper => ⟨fun cites => absurd (cited cites) handles.uncited, ?_⟩
  have standing := keeps.of_handling proper accounted.sound handles.does handles.found rfl
  rw [ledger, keeps.ledger]
  obtain ⟨visit, _, _⟩ := matter
  cases standing
  exact .cutOff rfl rfl running

/-- A worker that goes before the listener of its job is told leaves the job to nobody. -/
theorem Staffed.turned_dismissed (staffed : desk.Staffed) {after : Desk} {relay : Push.Relay}
    (does : desk.board.Does worker questionJobType (.notifying job event 0))
    (went : after = { desk with relay, board := desk.board.kill worker }) :
    desk.Turned (.act (.cut (.worker worker))) after := by
  have advance : desk.board.Advance after.board questionJobType worker job job .gone := by
    rw [went]
    exact Board.advance_kill staffed.sound does rfl (Board.Sound.only_told staffed.sound does)
  have cited : ∀ {id}, after.Cited id → desk.Cited id :=
    Cited.of_advance advance (by rintro _ _ ⟨⟩) (by rw [went]) fun _ => by rw [went]
  have ledger : ∀ id, after.ledger id = desk.ledger id := by
    intro id
    rw [went]
    rfl
  refine staffed.turned_advance advance (Or.inr ⟨worker, event, 0, does⟩) (by rw [went])
    (by rw [went]) (fun other _ => ⟨ledger other, cited⟩) (.closed job) rfl
    (closed_of_free advance rfl) fun matter keeps proper => ?_
  obtain ⟨standing, _⟩ := keeps.of_notifying proper staffed.sound does rfl
  refine ⟨fun cites => ?_, ?_⟩
  · have answered := keeps.cited (cited cites)
    rw [standing] at answered
    exact answered
  · rw [ledger, keeps.ledger]
    obtain ⟨visit, _, _⟩ := matter
    cases standing
    exact .dismissed rfl

end Goes

end Desk

end QuestionDesk
