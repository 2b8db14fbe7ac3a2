import QuestionDesk.Desk.Reading
import QuestionDesk.Proofs.Database.Ledger
import QuestionDesk.Proofs.Desk.Attempts
import QuestionDesk.Proofs.Desk.Knowledge
import QuestionDesk.Proofs.Desk.Reasons
import QuestionDesk.Proofs.Jobs.Advance

/-!
# Matters

A matter is all that a desk holds about one question: the visit that is still busy with it, where
its job stands, and what the database holds about it. `Keeps` ties the matter of a question to the
desk, and `Proper` says which matters there can be, whatever has failed.
-/
namespace QuestionDesk

open Database (JobRecord Ledger Wording)
open Jobs (Activity Board Event Job)
open Pipeline (Phase Run Runner)

/-- What is written about the question of a run in a phase that has not removed it. -/
def Pipeline.Phase.wording : Phase → Wording
  | .executing prepared | .charting prepared _ | .storing prepared _ _ => .saved prepared
  | _ => .draft

/-- Whether a run in a phase has removed its question. -/
def Pipeline.Phase.hasRemoved : Phase → Bool
  | .repointing _ _ => true
  | _ => false

/-- The question that a visit in a phase is busy with. -/
def VisitPhase.own? : VisitPhase → Option String
  | .creating questionId => some questionId
  | .recording ticket | .remembering ticket => some ticket.questionId
  | .lookingUp | .counting _ | .ended _ => none

namespace Desk

/-- The listener of an event. -/
def listenerOf : Event → Listener
  | .completed => .completion
  | .failed => .failure

/-- What the database holds about a question. -/
def ledger (desk : Desk) (questionId : String) : Ledger := desk.database.tables.ledger questionId

/-! ## Keys -/

/-- Different numbers give different keys. -/
theorem questionKey_inj {number other : Nat} (same : questionKey number = questionKey other) :
    number = other := by
  have chars := congrArg String.toList same
  simp only [questionKey, Decimal.naturalText, String.toList_append, String.toList_ofList] at chars
  have digits := List.append_cancel_left chars
  rw [← Decimal.readDigits_digits number, digits, Decimal.readDigits_digits]

/-! ## Jobs -/

/-- Whether the handler has marked a job as a duplicate. -/
def isDuplicate (job : Job) : Bool := (job.notes.get Run.duplicateNote).isTruthy

/-- A job whose handler has not returned anything and has noted nothing but a title that can be
told. -/
structure Bare (job : Job) : Prop where
  /-- It is not marked as a duplicate. -/
  unmarked : isDuplicate job = false
  /-- It has no title or one that can be told. -/
  titled : ∃ title, Push.JobState.titleOf job = .ok title
  /-- Nothing was returned. -/
  empty : job.returnValue = .null

/-- How a job has ended, by the event that its listener is told of. -/
inductive Ending (job : Job) : Event → Prop where
  /-- It has an answer of its own. -/
  | answered {execution : Remote.Execution} {chart : Fields} (status : job.status = .completed)
    (unmarked : isDuplicate job = false) (titled : ∃ title, Push.JobState.titleOf job = .ok title)
    (returns : job.returnValue = Run.answerValue execution.fields chart) : Ending job .completed
  /-- It is a duplicate. -/
  | duplicate (status : job.status = .completed) (marked : isDuplicate job = true) :
    Ending job .completed
  /-- It has failed. -/
  | failed (status : job.status = .failed) (bare : Bare job) : Ending job .failed

/-- What is known about the job of a question ever since it was created. -/
structure Known (questionId : String) (job : Job) : Prop where
  /-- Its type. -/
  type : job.jobType = questionJobType
  /-- Its key. -/
  id : job.id = Jobs.jobKey questionJobType questionId
  /-- Its question. -/
  question : job.fingerprint = questionId
  /-- Its payload. -/
  payload : ∃ prompt, job.payload = payload questionId prompt

/-- A run is that of a job. -/
structure Carries (run : Run) (job : Job) : Prop where
  /-- It has the key of the job. -/
  jobId : run.jobId = job.id
  /-- It has the payload of the job. -/
  payload : run.payload = job.payload
  /-- Once it has looked at its job it knows the question. -/
  named : run.phase ≠ .opening → run.questionId = .text job.fingerprint
  /-- Once it has looked at its job it knows the prompt. -/
  asked : run.phase ≠ .opening → ∃ prompt, run.prompt = .text prompt ∧
    job.payload = Desk.payload job.fingerprint prompt
  /-- What it knows stands in its payload, and once it has its plan its prompt has been sent. -/
  informed : run.Informed
  /-- What it holds can be written and read. -/
  faithful : Faithful run

/-- Once a run has looked at its job the key of its question is that of the job. -/
theorem Carries.question {run : Run} {job : Job} (carries : Carries run job)
    (begun : run.phase ≠ .opening) : run.question = job.fingerprint :=
  Run.question_eq (carries.named begun)

/-- A run that has its query finds the fingerprint of its prompt. -/
theorem Carries.keyed {run : Run} {job : Job} (carries : Carries run job)
    (begun : run.phase ≠ .opening) (planned : run.phase ≠ .planning) : ∃ prompt,
    job.payload = Desk.payload job.fingerprint prompt ∧
      Run.keyFor run.prompt = .ok (promptFingerprint prompt) := by
  obtain ⟨prompt, text, payload⟩ := carries.asked begun
  exact ⟨prompt, payload, carries.informed.keyed begun planned text⟩

/-- Whether a job is bare depends on what was noted and returned. -/
theorem Bare.congr {job changed : Job} (bare : Bare job) (notes : changed.notes = job.notes)
    (returned : changed.returnValue = job.returnValue) : Bare changed := by
  refine ⟨?_, ?_, returned.trans bare.empty⟩
  · rw [isDuplicate, notes]
    exact bare.unmarked
  · rw [Push.JobState.titleOf, notes]
    exact bare.titled

/-- What is known about a job stays known as long as its keys and its payload do. -/
theorem Known.congr {questionId : String} {job changed : Job} (known : Known questionId job)
    (same : changed.seq = job.seq ∧ changed.jobType = job.jobType ∧ changed.id = job.id ∧
      changed.fingerprint = job.fingerprint ∧ changed.payload = job.payload) :
    Known questionId changed := by
  obtain ⟨_, type, id, fingerprint, payload⟩ := same
  exact ⟨type.trans known.type, id.trans known.id, fingerprint.trans known.question,
    by rw [payload]; exact known.payload⟩

/-- A job that has completed or failed has ended. -/
theorem isTerminal_of_status {job : Job}
    (ended : job.status = .completed ∨ job.status = .failed) : job.isTerminal = true := by
  unfold Job.isTerminal
  cases finished : job.finishedOn with
  | some moment => rfl
  | none =>
    unfold Job.status Jobs.statusOf at ended
    rw [finished] at ended
    simp only at ended
    split at ended <;> rcases ended with ended | ended <;> cases ended

/-- Whichever way a job has ended, it has. -/
theorem Ending.isTerminal {job : Job} {event : Event} (ending : Ending job event) :
    job.isTerminal = true := by
  cases ending with
  | answered status | duplicate status => exact isTerminal_of_status (Or.inl status)
  | failed status => exact isTerminal_of_status (Or.inr status)

/-! ## Standings -/

/-- Where the job of a question stands. -/
inductive Standing where
  /-- There is none yet. -/
  | absent
  /-- No worker has taken it. -/
  | waits (job : Job)
  /-- A worker handles it. -/
  | handled (job : Job) (run : Run)
  /-- It has ended, and a worker is about to tell its listener. -/
  | ends (job : Job) (event : Event)
  /-- Nobody will do anything about it any more. -/
  | closed (job : Job)

/-- The job of a question. -/
def Standing.job? : Standing → Option Job
  | .absent => none
  | .waits job | .handled job _ | .ends job _ | .closed job => some job

/-- The job of a question has completed with an answer of its own. -/
def Standing.IsAnswered : Standing → Prop
  | .ends job _ | .closed job => job.status = .completed ∧ isDuplicate job = false
  | _ => False

/-- The job of a question stands on a board as it is said to. -/
def Standing.On (board : Board Run Listener) : Standing → Prop
  | .absent => True
  | .waits job => board.job? questionJobType job.seq = some job
  | .handled job run => board.job? questionJobType job.seq = some job ∧
    ∃ worker, board.Does worker questionJobType (.handling job.seq run)
  | .ends job event => ∃ worker, board.Does worker questionJobType (.notifying job event 0)
  | .closed job => ∀ worker, ¬board.Busy worker questionJobType job.seq

/-- A job that is on a board or about whose end a listener is told. -/
def Concerns (board : Board Run Listener) (job : Job) : Prop :=
  board.job? questionJobType job.seq = some job ∨
    ∃ worker event told, board.Does worker questionJobType (.notifying job event told)

/-! ## Matters -/

/-- What a desk holds about a question. -/
structure Matter where
  /-- The visit that is busy with it, and its number. -/
  visit : Option (Nat × Visit) := none
  /-- Where its job stands. -/
  standing : Standing := .absent
  /-- What the database holds about it. -/
  ledger : Ledger := {}

/-- A question that has no answer and whose job, as far as anything is known about it, is pending.
-/
structure Open (ledger : Ledger) (wording : Wording) : Prop where
  /-- The question is there. -/
  asked : ledger.wording = some wording
  /-- It has no answer. -/
  unanswered : ledger.answers = []
  /-- What is known about its job. -/
  pending : ∀ record ∈ ledger.records, record.status = Database.pendingStatus

/-- The question of a run in a phase is as the run has left it so far. -/
def Kept (phase : Phase) (ledger : Ledger) : Prop :=
  if phase.hasRemoved then ledger = {} else Open ledger phase.wording

/-- What the database holds about a question fits to where its job stands. -/
inductive Fits : Standing → Ledger → Prop where
  /-- There is no job yet. -/
  | absent {ledger : Ledger} (records : ledger.records = []) (answers : ledger.answers = []) :
    Fits .absent ledger
  /-- The job waits. -/
  | waits {job : Job} {ledger : Ledger} (pending : job.status = .pending) (bare : Bare job)
    (blameless : job.failedReason = none) (kept : Open ledger .draft) : Fits (.waits job) ledger
  /-- The job is handled. -/
  | handled {job : Job} {run : Run} {ledger : Ledger} (processing : job.status = .processing)
    (bare : Bare job) (blameless : job.failedReason = none) (carries : Carries run job)
    (kept : Kept run.phase ledger) : Fits (.handled job run) ledger
  /-- The job has ended with an answer of its own. -/
  | answered {job : Job} {ledger : Ledger} {prepared : Pipeline.Prepared}
    (ending : Ending job .completed) (unmarked : isDuplicate job = false)
    (kept : Open ledger (.saved prepared)) : Fits (.ends job .completed) ledger
  /-- The job has ended as a duplicate. -/
  | duplicate {job : Job} {ledger : Ledger} (ending : Ending job .completed)
    (marked : isDuplicate job = true) (gone : ledger = {}) : Fits (.ends job .completed) ledger
  /-- The job has failed. -/
  | failed {job : Job} {ledger : Ledger} (ending : Ending job .failed)
    (kept : ledger = {} ∨ ∃ wording, Open ledger wording) : Fits (.ends job .failed) ledger
  /-- The job has ended for good or was cut off. -/
  | closed {job : Job} {ledger : Ledger}
    (ended : job.status = .processing ∧ Bare job ∨ ∃ event, Ending job event)
    (gone : isDuplicate job = true → ledger = {}) : Fits (.closed job) ledger

/-- A visit is busy with a question as it should be. -/
inductive Attends (questionId : String) (matter : Matter) : Visit → Prop where
  /-- It is about to store the question. -/
  | creating {prompt : String} {source : Option String} (standing : matter.standing = .absent)
    (empty : matter.ledger = {}) : Attends questionId matter ⟨prompt, source, .creating questionId⟩
  /-- It is about to store what is known about the job. -/
  | recording {prompt : String} {source : Option String} {job : Job}
    (stands : matter.standing.job? = some job) (payload : job.payload = payload questionId prompt)
    (unknown : matter.ledger.records = []) :
    Attends questionId matter ⟨prompt, source, .recording (ticketOf questionId job)⟩
  /-- It is about to remember which question the prompt became. -/
  | remembering {prompt : String} {source : Option String} {job : Job}
    (stands : matter.standing.job? = some job) (payload : job.payload = payload questionId prompt) :
    Attends questionId matter ⟨prompt, source, .remembering (ticketOf questionId job)⟩

/-- A matter that there can be about a question while a number of questions have a key. -/
structure Matter.Proper (named : Nat) (questionId : String) (matter : Matter) : Prop where
  /-- There is nothing about a question without a key. -/
  key : (∃ number ≤ named, questionId = questionKey number) ∨ matter = {}
  /-- What is known about its job. -/
  known : ∀ job, matter.standing.job? = some job → Known questionId job
  /-- The visit is busy with it as it should be. -/
  attended : ∀ number visit, matter.visit = some (number, visit) → Attends questionId matter visit
  /-- At most one thing is known about its job. -/
  single : matter.ledger.records.length ≤ 1
  /-- What is known about its job. -/
  about : ∀ record ∈ matter.ledger.records, record.questionId = questionId ∧
    record.jobId = Jobs.jobKey questionJobType questionId
  /-- The database fits to the job. -/
  fits : Fits matter.standing matter.ledger

/-- A question is cited where the store or a run names it as the one that has an answer. -/
def Cited (desk : Desk) (questionId : String) : Prop :=
  (∃ hash item entry, desk.store.answer? hash = some item ∧ item.entry? = some entry ∧
    entry.questionId = questionId) ∨
  ∃ runner run prepared entry, desk.run? runner = some run ∧
    (run.phase = .removing prepared entry ∨ run.phase = .repointing prepared entry) ∧
      entry.questionId = questionId

/-- A matter is what a desk holds about a question. -/
structure Keeps (desk : Desk) (questionId : String) (matter : Matter) : Prop where
  /-- The visit of the matter is the one that is busy with the question. -/
  visits : ∀ (number : Nat) (visit : Visit), matter.visit = some (number, visit) ↔
    desk.visits[number]? = some visit ∧ visit.phase.own? = some questionId
  /-- Its job stands on the board as it is said to. -/
  placed : matter.standing.On desk.board
  /-- The question has no other job. -/
  only : ∀ job, Concerns desk.board job → job.fingerprint = questionId →
    matter.standing.job? = some job
  /-- Its job is numbered, and no other job has the number. -/
  numbered : ∀ job, matter.standing.job? = some job → job.seq ≤ desk.board.created ∧
    ∀ other, Concerns desk.board other → other.seq = job.seq → other = job
  /-- The database holds what it is said to. -/
  ledger : desk.ledger questionId = matter.ledger
  /-- Only a question with an answer is cited. -/
  cited : desk.Cited questionId → matter.standing.IsAnswered

/-- A desk whose workers answer questions and tell the listeners how that ended. -/
structure Staffed (desk : Desk) : Prop where
  /-- The board is sound. -/
  sound : desk.board.Sound
  /-- Each event has its listener. -/
  heard : ∀ event, desk.board.audience event = [listenerOf event]
  /-- Every worker answers questions. -/
  staffed : ∀ worker jobType activity, desk.board.Does worker jobType activity →
    jobType = questionJobType
  /-- Nobody runs a job by hand. -/
  handless : desk.hands = []

/-- The board, the database and the store agree about every question. -/
structure Accounted (desk : Desk) : Prop extends Staffed desk where
  /-- What the desk holds about each question. -/
  matters : ∀ questionId, ∃ matter, desk.Keeps questionId matter ∧
    matter.Proper desk.named questionId

/-- A board that has lost nothing but jobs that had ended, while the workers that are busy go on. -/
structure Calm (board after : Board Run Listener) : Prop where
  /-- No job is created. -/
  created : after.created = board.created
  /-- A job stays as it is, or has ended and leaves. -/
  jobs : ∀ seq, after.job? questionJobType seq = board.job? questionJobType seq ∨
    ∃ job, board.job? questionJobType seq = some job ∧ job.isTerminal = true ∧
      after.job? questionJobType seq = none
  /-- The workers that are busy go on. -/
  busy : ∀ index activity seq, activity.seq? = some seq →
    (after.Does index questionJobType activity ↔ board.Does index questionJobType activity)

section Congruence

variable {board after : Board Run Listener}

/-- A board that does not change is calm. -/
theorem Calm.refl (board : Board Run Listener) : Calm board board :=
  ⟨rfl, fun _ => Or.inl rfl, fun _ _ _ _ => Iff.rfl⟩

/-- A board that sheds jobs is calm. -/
theorem calm_of_sheds (sheds : board.Sheds after) : Calm board after :=
  ⟨sheds.created, sheds.jobs questionJobType,
    fun _ _ _ _ => by rw [Board.Does, sheds.workers, Board.Does]⟩

/-- A job that is on a calm board was there before. -/
theorem Calm.job? (calm : Calm board after) {seq : Nat} {job : Job}
    (found : after.job? questionJobType seq = some job) :
    board.job? questionJobType seq = some job := by
  rcases calm.jobs seq with same | ⟨_, _, _, gone⟩
  · exact same ▸ found
  · rw [gone] at found
    cases found

/-- A job that has not ended stays on a calm board. -/
theorem Calm.stays (calm : Calm board after) {seq : Nat} {job : Job}
    (found : board.job? questionJobType seq = some job) (open_ : job.isTerminal = false) :
    after.job? questionJobType seq = some job := by
  rcases calm.jobs seq with same | ⟨other, there, ended, _⟩
  · exact same.trans found
  · cases found.symm.trans there
    rw [open_] at ended
    cases ended

/-- A calm board is concerned with jobs that it was concerned with before. -/
theorem Calm.concerns (calm : Calm board after) {job : Job} (concerned : Concerns after job) :
    Concerns board job := by
  rcases concerned with found | ⟨index, event, told, does⟩
  · exact Or.inl (calm.job? found)
  · exact Or.inr ⟨index, event, told, (calm.busy _ _ _ rfl).mp does⟩

/-- A job that fits to its question stands on a calm board as before. -/
theorem Standing.On.calm {standing : Standing} {ledger : Ledger} (placed : standing.On board)
    (fits : Fits standing ledger) (calm : Calm board after) : standing.On after := by
  cases standing with
  | absent => trivial
  | waits job =>
    cases fits with
    | waits pending => exact calm.stays placed (Job.isTerminal_of_pending pending)
  | handled job run =>
    cases fits with
    | handled processing =>
      obtain ⟨index, does⟩ := placed.2
      exact ⟨calm.stays placed.1 (Job.isTerminal_of_processing processing), index,
        (calm.busy _ _ _ rfl).mpr does⟩
  | ends job event =>
    obtain ⟨index, does⟩ := placed
    exact ⟨index, (calm.busy _ _ _ rfl).mpr does⟩
  | closed job =>
    rintro index ⟨activity, does, busy⟩
    exact placed index ⟨activity, (calm.busy _ _ _ busy).mp does, busy⟩

/-- A job stands on a board as on another that says the same of it. -/
theorem Standing.On.congr {standing : Standing} (placed : standing.On board)
    (found : ∀ mine, standing.job? = some mine →
      after.job? questionJobType mine.seq = board.job? questionJobType mine.seq)
    (does : ∀ mine, standing.job? = some mine → ∀ index activity, activity.seq? = some mine.seq →
      (after.Does index questionJobType activity ↔ board.Does index questionJobType activity)) :
    standing.On after := by
  cases standing with
  | absent => trivial
  | waits mine => exact (found mine rfl).trans placed
  | handled mine run =>
    obtain ⟨index, handles⟩ := placed.2
    exact ⟨(found mine rfl).trans placed.1, index, (does mine rfl index _ rfl).mpr handles⟩
  | ends mine event =>
    obtain ⟨index, tells⟩ := placed
    exact ⟨index, (does mine rfl index _ rfl).mpr tells⟩
  | closed mine =>
    rintro index ⟨activity, own, busy⟩
    exact placed index ⟨activity, (does mine rfl index activity busy).mp own, busy⟩

variable {desk later : Desk} {questionId : String} {matter : Matter} {named : Nat}

/-- A desk that changes nothing about a question keeps its matter. -/
theorem Keeps.calm (keeps : desk.Keeps questionId matter) (proper : matter.Proper named questionId)
    (visits : ∀ (number : Nat) (visit : Visit),
      later.visits[number]? = some visit ∧ visit.phase.own? = some questionId ↔
        desk.visits[number]? = some visit ∧ visit.phase.own? = some questionId)
    (calm : Calm desk.board later.board) (ledger : later.ledger questionId = desk.ledger questionId)
    (cited : later.Cited questionId → desk.Cited questionId) : later.Keeps questionId matter := by
  refine ⟨fun number visit => (keeps.visits number visit).trans (visits number visit).symm,
    keeps.placed.calm proper.fits calm, fun job concerns => keeps.only job (calm.concerns concerns),
    fun job stands => ?_, ledger.trans keeps.ledger, fun cites => keeps.cited (cited cites)⟩
  obtain ⟨below, unique⟩ := keeps.numbered job stands
  exact ⟨calm.created ▸ below, fun other concerns => unique other (calm.concerns concerns)⟩

/-- A question is cited as long as the answers and the runs stay as they are, except that runs start
or stop. -/
theorem Cited.congr (cited : later.Cited questionId)
    (answers : ∀ hash, later.store.answer? hash = desk.store.answer? hash)
    (runs : ∀ runner run, later.run? runner = some run →
      desk.run? runner = some run ∨ run.phase = .opening) : desk.Cited questionId := by
  rcases cited with ⟨hash, item, entry, found, read⟩ |
    ⟨runner, run, prepared, entry, runs', phase, own⟩
  · rw [answers] at found
    exact Or.inl ⟨hash, item, entry, found, read⟩
  · rcases runs runner run runs' with before | opening
    · exact Or.inr ⟨runner, run, prepared, entry, before, phase, own⟩
    · rcases phase with phase | phase <;> rw [opening] at phase <;> cases phase

end Congruence

/-! ## Reading a matter off the board -/

section Inversion

variable {desk : Desk} {questionId : String} {matter : Matter} {worker : Nat} {job : Job}

/-- The job of a matter is known by its question. -/
theorem Matter.Proper.fingerprint (proper : matter.Proper desk.named questionId)
    (stands : matter.standing.job? = some job) : job.fingerprint = questionId :=
  (proper.known job stands).question

/-- A worker that is busy with a job does with it what is said of the job, unless that is said to
wait. -/
theorem Standing.On.busy {board : Board Run Listener} {standing : Standing}
    (placed : standing.On board) (sound : board.Sound) (stands : standing.job? = some job)
    {activity : Activity Run} (does : board.Does worker questionJobType activity)
    (busy : activity.seq? = some job.seq) :
    standing = .waits job ∨
      (∃ run, standing = .handled job run ∧ activity = .handling job.seq run) ∨
      ∃ event, standing = .ends job event ∧ activity = .notifying job event 0 := by
  cases standing with
  | absent => cases stands
  | waits mine =>
    cases stands
    exact Or.inl rfl
  | handled mine run =>
    cases stands
    obtain ⟨index, handles⟩ := placed.2
    obtain rfl := sound.alone _ _ _ _ ⟨_, does, busy⟩ ⟨_, handles, rfl⟩
    exact Or.inr (Or.inl ⟨run, rfl, (does.unique handles).2⟩)
  | ends mine event =>
    cases stands
    obtain ⟨index, tells⟩ := placed
    obtain rfl := sound.alone _ _ _ _ ⟨_, does, busy⟩ ⟨_, tells, rfl⟩
    exact Or.inr (Or.inr ⟨event, rfl, (does.unique tells).2⟩)
  | closed mine =>
    cases stands
    exact absurd ⟨activity, does, busy⟩ (placed worker)

/-- The matter of a job that a worker handles. -/
theorem Keeps.of_handling (keeps : desk.Keeps questionId matter)
    (proper : matter.Proper desk.named questionId) (sound : desk.board.Sound) {run : Run}
    (does : desk.board.Does worker questionJobType (.handling job.seq run))
    (found : desk.board.job? questionJobType job.seq = some job)
    (own : job.fingerprint = questionId) : matter.standing = .handled job run := by
  have stands := keeps.only job (Or.inl found) own
  obtain ⟨other, there, processing⟩ := sound.handled _ _ _ _ does
  cases found.symm.trans there
  have fits := proper.fits
  rcases keeps.placed.busy sound stands does rfl with waits | ⟨mine, handled, same⟩ | ⟨_, _, same⟩
  · rw [waits] at fits
    cases fits with
    | waits pending =>
      rw [pending] at processing
      cases processing
  · cases same
    exact handled
  · cases same

/-- The matter of a job of whose end a listener is told. -/
theorem Keeps.of_notifying (keeps : desk.Keeps questionId matter)
    (proper : matter.Proper desk.named questionId) (sound : desk.board.Sound) {event : Event}
    {told : Nat} (does : desk.board.Does worker questionJobType (.notifying job event told))
    (own : job.fingerprint = questionId) : matter.standing = .ends job event ∧ told = 0 := by
  have stands := keeps.only job (Or.inr ⟨worker, event, told, does⟩) own
  have terminal := (sound.told _ _ _ _ _ does).1
  have fits := proper.fits
  rcases keeps.placed.busy sound stands does rfl with waits | ⟨_, _, same⟩ | ⟨mine, ends, same⟩
  · rw [waits] at fits
    cases fits with
    | waits pending =>
      rw [Job.isTerminal_of_pending pending] at terminal
      cases terminal
  · cases same
  · cases same
    exact ⟨ends, rfl⟩

/-- The matter of a job that waits. -/
theorem Keeps.of_waiting (keeps : desk.Keeps questionId matter)
    (proper : matter.Proper desk.named questionId) (sound : desk.board.Sound)
    (found : desk.board.job? questionJobType job.seq = some job) (pending : job.status = .pending)
    (own : job.fingerprint = questionId) : matter.standing = .waits job := by
  have stands := keeps.only job (Or.inl found) own
  have free : ∀ index, ¬desk.board.Busy index questionJobType job.seq :=
    fun _ => sound.not_busy_of_pending found pending
  have fits := proper.fits
  have placed := keeps.placed
  cases standing : matter.standing with
  | absent => rw [standing] at stands; cases stands
  | waits mine =>
    rw [standing] at stands
    cases stands
    rfl
  | handled mine carried =>
    rw [standing] at stands placed
    cases stands
    obtain ⟨index, handles⟩ := placed.2
    exact absurd ⟨_, handles, rfl⟩ (free index)
  | ends mine event =>
    rw [standing] at stands placed
    cases stands
    obtain ⟨index, tells⟩ := placed
    exact absurd ⟨_, tells, rfl⟩ (free index)
  | closed mine =>
    rw [standing] at stands fits
    cases stands
    cases fits with
    | closed ended =>
      rcases ended with ⟨processing, _⟩ | ⟨event, ending⟩
      · rw [processing] at pending
        cases pending
      · have terminal := ending.isTerminal
        rw [Job.isTerminal_of_pending pending] at terminal
        cases terminal

end Inversion

/-! ## A job more -/

section Additions

variable {desk after : Desk} {questionId : String} {matter : Matter} {now : Micros}
  {fingerprint : String} {payload : Fields}

/-- A board to which a job was added is concerned with that job and with those that it was concerned
with before, which have other numbers. -/
theorem concerns_add {board : Board Run Listener} (sound : board.Sound) {job : Job}
    (concerned : Concerns (board.add now questionJobType fingerprint payload).2 job) :
    job = (board.add now questionJobType fingerprint payload).1 ∨
      (Concerns board job ∧ job.seq ≤ board.created) := by
  rcases concerned with found | ⟨index, event, told, does⟩
  · rcases Board.found_add sound now questionJobType fingerprint payload found with before | own
    · exact Or.inr ⟨Or.inl before, (sound.placed _ _ (Jobs.Lane.mem_of_job? before).1).2.2.2⟩
    · exact Or.inl own
  · have does : board.Does index questionJobType (.notifying job event told) := does
    exact Or.inr ⟨Or.inr ⟨index, event, told, does⟩, (sound.told _ _ _ _ _ does).2.2.1⟩

/-- A job more leaves the matters of all other questions as they are. -/
theorem Keeps.added (keeps : desk.Keeps questionId matter) (sound : desk.board.Sound)
    (board : after.board = (desk.board.add now questionJobType fingerprint payload).2)
    (apart : fingerprint ≠ questionId)
    (visits : ∀ (number : Nat) (visit : Visit),
      after.visits[number]? = some visit ∧ visit.phase.own? = some questionId ↔
        desk.visits[number]? = some visit ∧ visit.phase.own? = some questionId)
    (ledger : after.ledger questionId = desk.ledger questionId)
    (cited : after.Cited questionId → desk.Cited questionId) : after.Keeps questionId matter := by
  have found : ∀ mine, matter.standing.job? = some mine →
      after.board.job? questionJobType mine.seq = desk.board.job? questionJobType mine.seq := by
    intro mine stands
    rw [board]
    exact Board.job?_add _ _ _ _ _ _ _ (keeps.numbered mine stands).1
  have workers : after.board.workers = desk.board.workers := by rw [board]; rfl
  have does : ∀ index activity, after.board.Does index questionJobType activity ↔
      desk.board.Does index questionJobType activity := by
    intro index activity
    rw [Board.Does, workers, Board.Does]
  refine ⟨fun number visit => (keeps.visits number visit).trans (visits number visit).symm,
    keeps.placed.congr found fun _ _ index activity _ => does index activity, ?_, ?_,
    ledger.trans keeps.ledger, fun cites => keeps.cited (cited cites)⟩
  · intro job concerns own
    rw [board] at concerns
    rcases concerns_add sound concerns with rfl | ⟨before, _⟩
    · exact absurd own apart
    · exact keeps.only job before own
  · intro mine stands
    obtain ⟨below, unique⟩ := keeps.numbered mine stands
    refine ⟨by rw [board]; exact Nat.le_succ_of_le below, fun other concerns same => ?_⟩
    rw [board] at concerns
    rcases concerns_add sound concerns with rfl | ⟨before, _⟩
    · exact absurd below (by rw [← same]; exact Nat.not_succ_le_self _)
    · exact unique other before same

/-- A job more is the job of a question that had none. -/
theorem Keeps.posed (keeps : desk.Keeps questionId matter) (sound : desk.board.Sound)
    (board : after.board = (desk.board.add now questionJobType questionId payload).2)
    (absent : matter.standing = .absent) {visit : Option (Nat × Visit)}
    (visits : ∀ (number : Nat) (other : Visit), visit = some (number, other) ↔
      after.visits[number]? = some other ∧ other.phase.own? = some questionId)
    (cited : after.Cited questionId → desk.Cited questionId) :
    after.Keeps questionId
      ⟨visit, .waits (desk.board.add now questionJobType questionId payload).1,
        after.ledger questionId⟩ := by
  refine ⟨visits, ?_, ?_, ?_, rfl, fun cites => ?_⟩
  · change after.board.job? questionJobType _ = _
    rw [board]
    exact Board.job?_add_self sound now questionJobType questionId payload
  · intro job concerns own
    rw [board] at concerns
    rcases concerns_add sound concerns with rfl | ⟨before, _⟩
    · rfl
    · have stands := keeps.only job before own
      rw [absent] at stands
      cases stands
  · rintro job ⟨⟩
    refine ⟨by rw [board]; exact Nat.le_refl _, fun other concerns same => ?_⟩
    rw [board] at concerns
    rcases concerns_add sound concerns with rfl | ⟨_, below⟩
    · rfl
    · rw [same] at below
      exact absurd below (Nat.not_succ_le_self _)
  · have answered := keeps.cited (cited cites)
    rw [absent] at answered
    exact answered.elim

end Additions

/-! ## What a worker does to one job -/

section Advances

variable {desk after : Desk} {questionId : String} {matter : Matter} {worker : Nat}
  {job changed : Job} {next : Activity Run}

/-- A job that a board is concerned with after an advance is the changed one, or was there before
and is another one. -/
theorem concerns_of_advance {board later : Board Run Listener}
    (advance : board.Advance later questionJobType worker job changed next) {other : Job}
    (concerned : Concerns later other) :
    other = changed ∨ (Concerns board other ∧ other.seq ≠ job.seq) := by
  rcases concerned with found | ⟨index, event, told, does⟩
  · rw [advance.jobs] at found
    split at found
    · obtain ⟨_, _, rfl⟩ := Option.map_eq_some_iff.mp found
      exact Or.inl rfl
    · next different => exact Or.inr ⟨Or.inl found, different⟩
  · by_cases here : index = worker
    · rw [here] at does
      have turned := (advance.does.unique does).2
      exact Or.inl (advance.tells other event told turned)
    · rw [advance.does_other here] at does
      refine Or.inr ⟨Or.inr ⟨index, event, told, does⟩, fun own => ?_⟩
      exact advance.others index here ⟨_, does, by rw [← own]; rfl⟩

/-- What a worker does to one job leaves the matters of all other questions as they are. -/
theorem Keeps.other (keeps : desk.Keeps questionId matter)
    (proper : matter.Proper desk.named questionId)
    (advance : desk.board.Advance after.board questionJobType worker job changed next)
    (concerned : Concerns desk.board job) (apart : job.fingerprint ≠ questionId)
    (visits : after.visits = desk.visits)
    (ledger : after.ledger questionId = desk.ledger questionId)
    (cited : after.Cited questionId → desk.Cited questionId) : after.Keeps questionId matter := by
  -- The job of the matter has another number than the one that is changed.
  have different : ∀ mine, matter.standing.job? = some mine → mine.seq ≠ job.seq := by
    intro mine stands same
    have one := (keeps.numbered mine stands).2 job concerned same.symm
    exact apart (by rw [one]; exact proper.fingerprint stands)
  have kept : ∀ mine, matter.standing.job? = some mine → ∀ index activity,
      activity.seq? = some mine.seq → (after.board.Does index questionJobType activity ↔
        desk.board.Does index questionJobType activity) := by
    intro mine stands index activity busy
    by_cases here : index = worker
    · subst here
      constructor
      · intro does
        have turned := (advance.does.unique does).2
        rw [← turned] at busy
        exact absurd (advance.stays _ busy) (different mine stands)
      · intro does
        rcases advance.own activity does with idle | own
        · rw [idle] at busy
          cases busy
        · rw [own] at busy
          exact absurd (Option.some.inj busy).symm (different mine stands)
    · exact advance.does_other here
  have found : ∀ mine, matter.standing.job? = some mine →
      after.board.job? questionJobType mine.seq = desk.board.job? questionJobType mine.seq := by
    intro mine stands
    rw [advance.jobs, if_neg (different mine stands)]
  refine ⟨by rw [visits]; exact keeps.visits, keeps.placed.congr found kept, ?_, ?_,
    ledger.trans keeps.ledger, fun cites => keeps.cited (cited cites)⟩
  · intro other concerns own
    rcases concerns_of_advance advance concerns with rfl | ⟨before, _⟩
    · exact absurd (advance.same.2.2.2.1.symm.trans own) apart
    · exact keeps.only other before own
  · intro mine stands
    obtain ⟨below, unique⟩ := keeps.numbered mine stands
    refine ⟨by rw [advance.created]; exact below, fun other concerns same => ?_⟩
    rcases concerns_of_advance advance concerns with rfl | ⟨before, _⟩
    · exact absurd (same.symm.trans advance.same.1) (different mine stands)
    · exact unique other before same

/-- What a worker does to the job of a question brings it to stand somewhere else. -/
theorem Keeps.own (keeps : desk.Keeps questionId matter)
    (advance : desk.board.Advance after.board questionJobType worker job changed next)
    (stands : matter.standing.job? = some job) {standing : Standing}
    (here : standing.job? = some changed) (placed : standing.On after.board)
    (visits : after.visits = desk.visits)
    (cited : after.Cited questionId → standing.IsAnswered) :
    after.Keeps questionId { matter with standing, ledger := after.ledger questionId } := by
  refine ⟨by rw [visits]; exact keeps.visits, placed, ?_, ?_, rfl, cited⟩
  · intro other concerns own
    rcases concerns_of_advance advance concerns with rfl | ⟨before, different⟩
    · exact here
    · have same := keeps.only other before own
      rw [stands] at same
      cases same
      exact absurd rfl different
  · intro mine found
    rw [here] at found
    cases found
    rw [advance.same.1, advance.created]
    refine ⟨(keeps.numbered job stands).1, fun other concerns same => ?_⟩
    rcases concerns_of_advance advance concerns with rfl | ⟨_, different⟩
    · rfl
    · exact absurd same different

end Advances

end Desk

end QuestionDesk
