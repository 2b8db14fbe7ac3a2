import QuestionDesk.Proofs.Desk.Addresses

/-!
# Asking

Whoever asks something that was asked before, and whose job has not failed since, is given that job,
and nothing changes. Whoever asks anything else is given a new job for a new question: one question,
one thing known about its job, one job that waits, and one address are added to what is there. Which
of the two it is depends on the addresses that are remembered, so it is shown with what these lead
to.
-/
namespace QuestionDesk.Desk

open Cache (PromptEntry)
open Jobs (Board Job)
open Pipeline (Run)

/-- Somebody comes with a question and is given a ticket, and nothing else goes on meanwhile. -/
def schedule (desk : Desk) (prompt : String) : Desk :=
  (asks desk.visits.length prompt).foldl occur desk

/-- A desk with one visit more, which asks a question and has come to a phase. -/
def withVisit (desk : Desk) (prompt : String) (phase : VisitPhase) : Desk :=
  { desk with visits := desk.visits ++ [⟨prompt, none, phase⟩] }

/-- Nobody and nothing knows a question. -/
structure Unknown (desk : Desk) (questionId : String) : Prop where
  /-- The database holds nothing about it. -/
  ledger : desk.ledger questionId = {}
  /-- No visit is busy with it. -/
  visits : ∀ visit ∈ desk.visits, visit.phase.own? ≠ some questionId
  /-- It has no job. -/
  jobs : ∀ job, Concerns desk.board job → job.fingerprint ≠ questionId
  /-- No prompt points at it. -/
  prompts : ∀ fingerprint, ¬desk.Points fingerprint questionId
  /-- Neither the store nor a run names it as one that has an answer. -/
  answers : ¬desk.Cited questionId

/-- What is stored of a question that is asked now. -/
def questionRow (desk : Desk) (prompt questionId : String) : Database.Question where
  id := questionId
  content := prompt
  title := Database.processingTitle
  sqlText := ""
  sqlHash := ""
  plan := .null
  kind := Database.userKind
  createdAt := desk.now

/-- What is stored of a job that is created now. -/
def recordRow (desk : Desk) (questionId : String) (job : Job) : Database.JobRecord where
  questionId := questionId
  jobId := job.id
  status := Database.pendingStatus
  failedReason := none
  createdAt := desk.now

/-- What a desk is after a prompt has become a new question, and nothing else has changed. -/
structure Poses (desk : Desk) (prompt questionId : String) (job : Job) (after : Desk) : Prop where
  /-- The question was not known. -/
  fresh : desk.Unknown questionId
  /-- One question and one thing known about a job are stored. -/
  stored : after.database = { desk.database with
    tables := { desk.database.tables with
      questions := desk.database.tables.questions ++ [desk.questionRow prompt questionId]
      records := desk.database.tables.records ++ [desk.recordRow questionId job] } }
  /-- The job has the key of the question. -/
  key : job.id = Jobs.jobKey questionJobType questionId
  /-- One job is created, and waits; old jobs may be forgotten. -/
  created : (desk.board.forget desk.now questionJobType).Adds after.board desk.now questionJobType
    questionId (payload questionId prompt) job
  /-- One address is written, which lasts. -/
  written : ∃ item, item.promptEntry? = some (addressOf questionId) ∧ item.isLive desk.now = true ∧
    after.store = desk.store.withItem (Cache.promptKey (promptFingerprint prompt)) item
  /-- Whoever asked is given the job, and everything else stays as it is. -/
  rest : after = ({ desk with
    named := desk.named + 1, database := after.database, board := after.board
    store := after.store } : Desk).withVisit prompt (.ended (.ok (ticketOf questionId job)))

/-! ## Steps -/

section Steps

variable {desk after : Desk} {prompt : String} {phase next : VisitPhase}

end Steps

/-! ## Questions that are known -/

section Posing

variable {desk : Desk} {questionId prompt : String}

/-- A question of which there is no matter, and at which no prompt points, is not known. -/
theorem Keeps.unknown (keeps : desk.Keeps questionId {})
    (nowhere : ∀ fingerprint, ¬desk.Points fingerprint questionId) : desk.Unknown questionId := by
  refine ⟨keeps.ledger, fun visit member busy => ?_, fun job concerns own => ?_, nowhere,
    keeps.cited⟩
  · obtain ⟨number, found⟩ := List.mem_iff_getElem?.mp member
    cases (keeps.visits number visit).mpr ⟨found, busy⟩
  · cases keeps.only job concerns own

/-- A question that is not known is not there. -/
theorem Unknown.hasQuestion (fresh : desk.Unknown questionId) :
    desk.database.tables.hasQuestion questionId = false := by
  refine Bool.eq_false_iff.mpr fun there => ?_
  obtain ⟨wording, asked⟩ := (Database.hasQuestion_iff _ _).mp there
  exact not_empty asked fresh.ledger

end Posing

/-! ## Whoever asks -/

/-- A desk that is accounted for stays so whatever occurs, one thing after another. -/
theorem Accounted.foldl {desk : Desk} (accounted : desk.Accounted) {occurrences : List Occurrence}
    (service : occurrences.all Occurrence.isService = true) :
    (occurrences.foldl Desk.occur desk).Accounted := by
  induction occurrences generalizing desk with
  | nil => exact accounted
  | cons first rest ih =>
    rw [List.all_cons, Bool.and_eq_true] at service
    exact ih (accounted.occur service.1) service.2

/-- The job of a question that was posed is on the board. -/
theorem Poses.found {desk : Desk} (accounted : desk.Accounted) {prompt questionId : String}
    {job : Job} (posed : desk.Poses prompt questionId job (desk.schedule prompt)) :
    (desk.schedule prompt).board.job? questionJobType job.seq = some job := by
  have after : (desk.schedule prompt).Accounted := accounted.foldl rfl
  refine after.sound.job?_of_mem ?_
  rw [posed.created.jobs]
  exact List.mem_append_right _ List.mem_cons_self

section Courses

variable {settings : Settings} {desk : Desk} (started : start settings = .ok desk)
  {occurrences : Nat → Occurrence} (service : ∀ moment, (occurrences moment).isService = true)
include started service

end Courses

/-! ## A prompt that was pointed at another question -/

end QuestionDesk.Desk
