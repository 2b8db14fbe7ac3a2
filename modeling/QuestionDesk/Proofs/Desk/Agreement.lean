import QuestionDesk.Proofs.Desk.Settling
import QuestionDesk.Simulation.Rehearsal

/-!
# Agreement

What is known about a job is kept three times: on the board, in the database, and in the states that
are told to subscribers. They change at different moments, but when nothing is about to go on by
itself they agree about every job that is on the board, if no call to the store or to the database
has failed on the way and whoever asked was not interrupted.
-/
namespace QuestionDesk.Desk

open Database (Wording)
open Jobs (Board Job)
open Pipeline (Run Runner)

/-! ## Moments of rest -/

/-- Whether a visit is busy with a question. -/
def isAsking (desk : Desk) : Bool := desk.visits.any (·.phase.own?.isSome)

/-- Whether nothing but a visit goes on while a visit is busy with a question. -/
def isUninterrupted (desk : Desk) : Occurrence → Bool
  | .act (.visit _) => true
  | _ => !desk.isAsking

/-- Nothing is about to go on before a remote server answers, a worker takes a job or somebody
comes. -/
structure Quiescent (desk : Desk) : Prop where
  /-- No visit is busy with a question. -/
  asked : desk.isAsking = false
  /-- No listener is to be told. -/
  told : ∀ worker, desk.board.telling? worker = none
  /-- No run can go on by itself. -/
  waiting : ∀ worker run, desk.run? (.worker worker) = some run →
    Simulation.Rehearsal.runsFreely desk (.worker worker) run = false

/-- A job on the board, the database and what is told about the question and its job agree. -/
inductive Agrees (desk : Desk) (job : Job) : Prop where
  /-- The job is worked on. -/
  | underway {state : Push.JobState} (status : job.status = .pending ∨ job.status = .processing)
    (holds : desk.HoldsOpen job.fingerprint)
    (detail : ∃ title, desk.detail job.fingerprint = .ok (some
      { id := job.fingerprint, title, status := .inProgress, result := none }))
    (tells : state.TellsStatus job)
  /-- The job has an answer of its own. -/
  | answered {execution : Remote.Execution} {chart : Fields} {state : Push.JobState}
    (status : job.status = .completed) (unmarked : isDuplicate job = false)
    (returns : job.returnValue = Run.answerValue execution.fields chart)
    (holds : desk.HoldsAnswer job.fingerprint execution chart)
    (detail : ∃ title, desk.detail job.fingerprint = .ok (some
      { id := job.fingerprint, title, status := .done
        result := some (storedAnswer execution chart) }))
    (tells : state.TellsRows job execution)
  /-- The job is a duplicate. -/
  | duplicate (status : job.status = .completed) (marked : isDuplicate job = true)
    (gone : desk.ledger job.fingerprint = {})
  /-- The job has failed. -/
  | failed {state : Push.JobState} (status : job.status = .failed)
    (holds : desk.HoldsFailure job.fingerprint job.failedReason)
    (detail : ∃ title, desk.detail job.fingerprint = .ok (some
      { id := job.fingerprint, title, status := .done, result := none }))
    (tells : state.TellsStatus job)

section Rest

variable {desk : Desk} {questionId : String} {matter : Matter}

/-- A visit that is busy with a question is busy. -/
theorem Keeps.isAsking (keeps : desk.Keeps questionId matter) {number : Nat} {visit : Visit}
    (busy : matter.visit = some (number, visit)) : desk.isAsking = true := by
  obtain ⟨found, own⟩ := (keeps.visits number visit).mp busy
  exact List.any_eq_true.mpr ⟨visit, List.mem_of_getElem? found, by simp [own]⟩

/-- A listener is not told too early while whoever asks is not interrupted. -/
theorem Keeps.not_tellsEarly (keeps : desk.Keeps questionId matter) {occurrence : Occurrence}
    (unbroken : desk.isUninterrupted occurrence = true) (job : Job) :
    ¬desk.TellsEarly occurrence matter job := by
  rintro ⟨worker, rfl, _, number, prompt, source, ticket, busy⟩
  simp [isUninterrupted, keeps.isAsking busy] at unbroken

/-- A run that is about to point a prompt at another question goes on by itself. -/
theorem not_removed_of_waiting {worker : Nat} {run : Run} {job : Job} (carries : Carries run job)
    (waits : Simulation.Rehearsal.runsFreely desk (.worker worker) run = false) :
    run.phase.hasRemoved = false := by
  cases phase : run.phase with
  | repointing prepared entry =>
    obtain ⟨prompt, -, keyed⟩ := carries.keyed (by simp [phase]) (by simp [phase])
    simp [Simulation.Rehearsal.runsFreely, phase, Run.call?, keyed, Except.toOption,
      request?] at waits
  | _ => rfl

/-- The job of a question that is at rest agrees with the database and with what is told. -/
theorem Keeps.agrees (keeps : desk.Keeps questionId matter)
    (proper : matter.Proper desk.named questionId) (staffed : desk.Staffed)
    (sure : Sure questionId (fun _ => False) matter) (quiescent : desk.Quiescent)
    (reads : desk.database.IsReadable) {job : Job} (stands : matter.standing.job? = some job) :
    desk.Agrees job := by
  have fits := proper.fits
  obtain rfl := (proper.known job stands).question
  have idle : ¬Recording matter := by
    rintro ⟨number, prompt, source, ticket, busy⟩
    exact absurd ((keeps.isAsking busy).symm.trans quiescent.asked) nofun
  -- A job that is waiting or being processed: its question is stored and has no answer yet.
  have opened : ∀ {wording}, Open matter.ledger wording → Bare job →
      (∀ other, matter.standing ≠ .closed other) →
        (job.status = .pending ∨ job.status = .processing) → desk.Agrees job := by
    intro wording opens bare working status
    have holds := keeps.holdsOpen proper opens fun none =>
      idle (sure.known job stands working ⟨wording, opens.asked⟩ none)
    obtain ⟨state, tells⟩ := Push.JobState.exists_tellsStatus bare.titled bare.empty
    exact .underway status holds (holds.detail reads) tells
  cases standing : matter.standing with
  | absent =>
    rw [standing] at stands
    cases stands
  | waits mine =>
    rw [standing] at stands fits
    cases stands
    cases fits with
    | waits pending bare _ opens =>
      exact opened opens bare (by rw [standing]; nofun) (Or.inl pending)
  | handled mine run =>
    have placed := keeps.placed
    rw [standing] at stands fits placed
    cases stands
    obtain ⟨_, worker, does⟩ := placed
    cases fits with
    | handled processing bare _ carries kept =>
      have there := not_removed_of_waiting carries
        (quiescent.waiting worker run (run?_worker.mpr ⟨_, _, does⟩))
      exact opened ((kept_there there).mp kept) bare (by rw [standing]; nofun) (Or.inr processing)
  | ends mine event =>
    have placed := keeps.placed
    rw [standing] at placed
    obtain ⟨worker, does⟩ := placed
    have telling := staffed.telling?_eq does
    rw [quiescent.told worker] at telling
    cases telling
  | closed mine =>
    rw [standing] at stands fits
    cases stands
    cases fits with
    | closed ended gone =>
      rcases (sure.closed job standing).holds keeps proper idle with
        ⟨status, unmarked, execution, chart, returns, holds⟩ | ⟨status, holds | ⟨_, ⟨⟩⟩⟩ |
        ⟨status, marked, empty⟩
      · have titled : ∃ title, Push.JobState.titleOf job = .ok title := by
          rcases ended with ⟨_, bare⟩ | ⟨_, ending⟩
          · exact bare.titled
          · cases ending with
            | answered _ _ titled => exact titled
            | duplicate _ marked => exact absurd (unmarked.symm.trans marked) nofun
            | failed _ bare => exact bare.titled
        obtain ⟨state, tells⟩ := Push.JobState.exists_tellsRows status titled returns
        exact .answered status unmarked returns holds (holds.detail reads) tells
      · have bare : Bare job := by
          rcases ended with ⟨_, bare⟩ | ⟨_, ending⟩
          · exact bare
          · cases ending with
            | answered other | duplicate other => exact absurd (status.symm.trans other) nofun
            | failed _ bare => exact bare
        obtain ⟨state, tells⟩ := Push.JobState.exists_tellsStatus bare.titled bare.empty
        exact .failed status holds (holds.detail reads) tells
      · exact .duplicate status marked empty

end Rest

/-! ## Every job on the board -/

/-- When nothing is about to go on by itself, every job on the board agrees with the database and
with what is told about its question and about itself, if no call to the store or to the database
has failed so far, nobody was cut off, and whoever asked was not interrupted. -/
theorem quiescent_agrees {settings : Settings} {desk : Desk} (started : start settings = .ok desk)
    {occurrences : Nat → Occurrence} (service : ∀ moment, (occurrences moment).isService = true)
    {count : Nat}
    (smooth : ∀ moment < count,
      (desk.course occurrences moment).isSmooth (occurrences moment) = true)
    (uninterrupted : ∀ moment < count,
      (desk.course occurrences moment).isUninterrupted (occurrences moment) = true)
    (quiescent : (desk.course occurrences count).Quiescent)
    (reads : (desk.course occurrences count).database.IsReadable) {seq : Nat} {job : Job}
    (found : (desk.course occurrences count).board.job? questionJobType seq = some job) :
    (desk.course occurrences count).Agrees job := by
  obtain ⟨matters, story⟩ := exists_story started service job.fingerprint
  have known := story.sure smooth
  have sure : Sure job.fingerprint (fun _ => False) (matters count) := by
    refine ⟨known.known, known.failed, fun other closed => ?_⟩
    refine (known.closed other closed).congr ?_ id rfl rfl rfl id
    rintro ⟨told, below, early⟩
    exact (story.keeps told).not_tellsEarly (uninterrupted told below) other early
  exact (story.keeps count).agrees (story.proper count)
    (accounted_course started service count).toStaffed sure quiescent reads
    (story.of_found found rfl)

/-! ## Two questions -/

/-- Where no visit is busy and no worker has anything to do, nothing is about to go on. -/
theorem quiescent_of_idle {desk : Desk} (asked : desk.isAsking = false)
    (idle : desk.isIdle = true) : desk.Quiescent := by
  refine ⟨asked, telling?_of_idle idle, fun worker run running => ?_⟩
  cases (run?_of_idle idle worker).symm.trans running

/-- Somebody asks, the answer is there and stored, and somebody else asks. -/
def answeredOnce : List Occurrence :=
  asks 0 "Which types?" ++ [.act (.take 0)] ++
    served 0 ["", typesPlan, "", "", "", typesRows, "\x7b\x7d", ""] ++ [.act (.tell 0)] ++
    asks 1 "Which actors?"

/-- A job with an answer of its own and one that waits both agree with everything else. -/
theorem quiescent_agrees_answeredOnce : ∃ (desk : Desk) (first second : Job),
    start smallService = .ok desk ∧
    (∀ moment, (script answeredOnce moment).isService = true) ∧
    (∀ moment < 20, (desk.course (script answeredOnce) moment).isSmooth
      (script answeredOnce moment) = true) ∧
    (∀ moment < 20, (desk.course (script answeredOnce) moment).isUninterrupted
      (script answeredOnce moment) = true) ∧
    (desk.course (script answeredOnce) 20).Quiescent ∧
    (desk.course (script answeredOnce) 20).database.IsReadable ∧
    first.status = .completed ∧ isDuplicate first = false ∧ second.status = .pending ∧
    (desk.course (script answeredOnce) 20).Agrees first ∧
    (desk.course (script answeredOnce) 20).Agrees second := by
  obtain ⟨desk, started, passes⟩ := @exists_start smallService (fun desk =>
    let last := desk.course (script answeredOnce) 20
    runsWith isSmooth desk (script answeredOnce) 20 &&
    runsWith isUninterrupted desk (script answeredOnce) 20 &&
    !last.isAsking && last.isIdle && last.database.faults = [] &&
    (last.board.job? questionJobType 1).any (fun job =>
      job.status = .completed && !isDuplicate job) &&
    (last.board.job? questionJobType 2).any (·.status = .pending)) (by decide +kernel)
  simp only [Bool.and_eq_true, Bool.not_eq_true', decide_eq_true_eq] at passes
  obtain ⟨⟨⟨⟨⟨⟨smooth, unbroken⟩, asked⟩, idle⟩, faultless⟩, answered⟩, waits⟩ := passes
  obtain ⟨first, one, answered⟩ := (Option.any_eq_true _ _).mp answered
  obtain ⟨second, two, waits⟩ := (Option.any_eq_true _ _).mp waits
  simp only [Bool.and_eq_true, Bool.not_eq_true', decide_eq_true_eq] at answered waits
  have quiescent := quiescent_of_idle asked idle
  have reads : (desk.course (script answeredOnce) 20).database.IsReadable := by
    intro table
    unfold Database.send Database.demand
    rw [faultless]
    rfl
  have agrees := @quiescent_agrees smallService desk started (script answeredOnce)
    (@isService_script answeredOnce rfl) 20 (passes_of_runs smooth) (passes_of_runs unbroken)
    quiescent reads
  exact ⟨desk, first, second, started, @isService_script answeredOnce rfl, passes_of_runs smooth,
    passes_of_runs unbroken, quiescent, reads, answered.1, answered.2, waits,
    agrees one, agrees two⟩

end QuestionDesk.Desk
