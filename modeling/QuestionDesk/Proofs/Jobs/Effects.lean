import QuestionDesk.Proofs.Jobs.Chronicle

/-!
# Effects

All that one step can do to one job, as a `Turn`, and to one worker, as a `Duty`. A job is created,
taken, ended and removed by a step each, its notes are revised, and no step does anything else to
it.
-/
namespace QuestionDesk.Jobs

variable {π ℓ : Type}

namespace Floor

/-! ## Jobs -/

/-- A step hands the job of a number to a handler: a worker handles it that did not before. -/
def Starts (floor : Floor π ℓ) (step : Step π ℓ) (worker : Nat) (jobType : String) (seq : Nat) :
    Prop :=
  (∃ progress, (floor.step step).board.Does worker jobType (.handling seq progress)) ∧
    ∀ progress, ¬floor.board.Does worker jobType (.handling seq progress)

/-- In a step the handler of the job of a number returns or fails. -/
def Ends (floor : Floor π ℓ) (step : Step π ℓ) (worker : Nat) (jobType : String) (seq : Nat)
    (outcome : Except Failure Value) : Prop :=
  step = .finish worker outcome ∧ outcome ≠ .error .cancelled ∧
    ∃ progress, floor.board.Does worker jobType (.handling seq progress)

/-- A step removes a job that has ended: jobs are removed on purpose, or somebody asks for a job once
the retention is over. -/
def Removes (floor : Floor π ℓ) (step : Step π ℓ) (job : Job) : Prop :=
  (∃ olderThan, step = .clean olderThan) ∨
    (∃ jobType fingerprint payload skipsSearch,
      step = .create jobType fingerprint payload skipsSearch) ∧ ∃ ended span,
        job.finishedOn = some ended ∧ floor.board.retention = some span ∧ ended + span ≤ floor.now

/-- What a step does to the job of a number. -/
inductive Turn (floor : Floor π ℓ) (step : Step π ℓ) (jobType : String) (seq : Nat) : Prop where
  /-- It has nothing to do with the job. -/
  | aside (same : (floor.step step).board.job? jobType seq = floor.board.job? jobType seq)
  /-- The job is created. -/
  | created {job : Job} (creates : floor.created? step = some job) (kind : job.jobType = jobType)
    (number : job.seq = seq) (fresh : seq = floor.board.created + 1)
    (after : (floor.step step).board.job? jobType seq = some job)
  /-- The job is taken. -/
  | taken {job : Job} {worker : Nat} (starts : floor.Starts step worker jobType seq)
    (before : floor.board.job? jobType seq = some job) (pending : job.status = .pending)
    (after : (floor.step step).board.job? jobType seq =
      some { job with processedOn := some floor.now })
  /-- The notes of the job are revised. -/
  | revised {job : Job} (change : Fields → Fields)
    (before : floor.board.job? jobType seq = some job)
    (after : (floor.step step).board.job? jobType seq = some (job.revised change))
  /-- The job ends. -/
  | ended {job : Job} {worker : Nat} {outcome : Except Failure Value}
    (ends : floor.Ends step worker jobType seq outcome)
    (before : floor.board.job? jobType seq = some job) (processing : job.status = .processing)
    (after : (floor.step step).board.job? jobType seq = some (Board.ended job floor.now outcome))
  /-- The job has ended and is removed. -/
  | left {job : Job} (before : floor.board.job? jobType seq = some job)
    (terminal : job.isTerminal = true)
    (after : (floor.step step).board.job? jobType seq = none) (removes : floor.Removes step job)

section Turns

variable {floor : Floor π ℓ} {step : Step π ℓ}

/-- A step that leaves the jobs of all types has nothing to do with any. -/
theorem Turn.of_jobs
    (jobs : ∀ jobType,
      ((floor.step step).board.lane jobType).jobs = (floor.board.lane jobType).jobs)
    (jobType : String) (seq : Nat) : floor.Turn step jobType seq :=
  .aside (by rw [Board.job?, Board.job?, Lane.job?, Lane.job?, jobs])

/-- A step that sheds jobs removes only jobs that have ended. -/
theorem Turn.of_sheds (sheds : floor.board.Sheds (floor.step step).board) {jobType : String}
    {seq : Nat} (removes : ∀ job, floor.board.job? jobType seq = some job →
      (floor.step step).board.job? jobType seq = none → floor.Removes step job) :
    floor.Turn step jobType seq := by
  rcases sheds.jobs jobType seq with same | ⟨job, before, terminal, after⟩
  · exact .aside same
  · exact .left before terminal after (removes job before after)

/-- Who asks for a job may remove jobs that have ended, and may create one. -/
theorem turn_create (sound : floor.board.Sound) (kind fingerprint : String) (payload : Fields)
    (skipsSearch : Bool) (jobType : String) (seq : Nat) :
    floor.Turn (.create kind fingerprint payload skipsSearch) jobType seq := by
  have sheds := Board.sheds_forget sound floor.now kind
  have removes : ∀ job, floor.board.job? jobType seq = some job →
      (floor.board.forget floor.now kind).job? jobType seq = none →
        floor.Removes (.create kind fingerprint payload skipsSearch) job :=
    fun job before gone => Or.inr ⟨⟨_, _, _, _, rfl⟩, Board.forgotten sound before gone⟩
  rcases floor.board.create_cases floor.now kind fingerprint payload skipsSearch with
    ⟨known, -, -, found⟩ | ⟨fails, added⟩
  · have after : (floor.step (.create kind fingerprint payload skipsSearch)).board =
        floor.board.forget floor.now kind := by
      rw [Floor.step, found]
    exact .of_sheds (after ▸ sheds) (after ▸ removes)
  · have after : (floor.step (.create kind fingerprint payload skipsSearch)).board =
        ((floor.board.forget floor.now kind).add floor.now kind fingerprint payload).2 := by
      rw [Floor.step, added]
    have creates := created?_eq_some.mpr ⟨kind, fingerprint, payload, skipsSearch, rfl, fails,
      Prod.ext rfl after⟩
    rcases Nat.lt_or_ge (floor.board.forget floor.now kind).created seq with above | old
    · have before := sound.job?_of_above (sheds.created ▸ above) jobType
      cases found : (floor.step (.create kind fingerprint payload skipsSearch)).board.job? jobType
          seq with
      | none => exact .aside (found.trans before.symm)
      | some job =>
        have there := found
        rw [after] at found
        rcases Board.found_add sheds.sound _ _ _ _ found with earlier | rfl
        · rw [sheds.sound.job?_of_above above] at earlier
          cases earlier
        · obtain ⟨member, number⟩ := Lane.mem_of_job? found
          have placed := (sheds.sound.add floor.now kind fingerprint payload).placed _ _ member
          exact .created creates placed.1 number (number ▸ congrArg (· + 1) sheds.created) there
    · have kept : (floor.step (.create kind fingerprint payload skipsSearch)).board.job? jobType
          seq = (floor.board.forget floor.now kind).job? jobType seq := by
        rw [after, Board.job?_add _ _ _ _ _ _ _ old]
      rcases sheds.jobs jobType seq with same | ⟨job, before, terminal, none⟩
      · exact .aside (kept.trans same)
      · exact .left before terminal (kept.trans none) (removes job before none)

/-- A worker that takes a job changes that job. -/
theorem turn_take (sound : floor.board.Sound) (worker : Nat) (start : Job → π) (jobType : String)
    (seq : Nat) : floor.Turn (.take worker start) jobType seq := by
  rcases floor.board.take_cases floor.now worker start with
    same | ⟨kind, number, rest, job, idle, line, found, -⟩
  · exact .aside (by rw [Floor.step, same])
  · obtain ⟨member, rfl⟩ := Lane.mem_of_job? found
    have replaces := sound.replaces_take idle line found floor.now start
    have after : (floor.step (.take worker start)).board.job? jobType seq = _ :=
      replaces.job?_eq jobType seq
    split at after
    · next own =>
      obtain ⟨rfl, rfl⟩ := own
      have pending := (Lane.pending_replace (sound.ordered jobType) member
        ((sound.waiting jobType).symm.trans line)).1
      refine @Turn.taken _ _ _ _ _ _ job worker ⟨⟨start { job with processedOn := some floor.now },
        ?_⟩, fun progress handles => ?_⟩ found pending after
      · rw [Floor.step, Board.Does, replaces.workers, if_pos rfl]
      · cases (idle.unique handles).2
    · exact .aside after

/-- A handler that goes on revises the notes of its job. -/
theorem turn_goOn (sound : floor.board.Sound) (worker : Nat) (next : π) (notes : Fields)
    (jobType : String) (seq : Nat) : floor.Turn (.goOn worker next notes) jobType seq := by
  by_cases handles : ∃ kind number progress,
      floor.board.Does worker kind (.handling number progress)
  · obtain ⟨kind, number, progress, does⟩ := handles
    obtain ⟨job, found, -⟩ := sound.handled _ _ _ _ does
    obtain ⟨-, rfl⟩ := Lane.mem_of_job? found
    have after : (floor.step (.goOn worker next notes)).board.job? jobType seq = _ :=
      (sound.replaces_goOn does found next notes).job?_eq jobType seq
    split at after
    · next own =>
      obtain ⟨rfl, rfl⟩ := own
      have noted : job.noteAll notes = job.revised fun all =>
          notes.foldl (fun all field => all.set field.1 field.2) all := Job.noteAll_eq job notes
      rw [noted] at after
      exact .revised _ found after
    · exact .aside after
  · refine .aside ?_
    rw [Floor.step, Board.goOn_of_not_handling floor.board fun kind number progress does =>
      handles ⟨kind, number, progress, does⟩]

/-- A handler that ends ends its job, unless it was cut off. -/
theorem turn_finish (sound : floor.board.Sound) (worker : Nat) (outcome : Except Failure Value)
    (jobType : String) (seq : Nat) : floor.Turn (.finish worker outcome) jobType seq := by
  by_cases handles : ∃ kind number progress,
      floor.board.Does worker kind (.handling number progress)
  · obtain ⟨kind, number, progress, does⟩ := handles
    by_cases alive : outcome = .error .cancelled
    · refine .of_jobs (fun other => ?_) jobType seq
      rw [Floor.step, alive, Board.finish_cancelled floor.board does]
      exact (Board.lane_kill floor.board worker other).1
    · obtain ⟨job, found, processing⟩ := sound.handled _ _ _ _ does
      obtain ⟨-, rfl⟩ := Lane.mem_of_job? found
      have after : (floor.step (.finish worker outcome)).board.job? jobType seq = _ :=
        (sound.replaces_finish does found floor.now alive).job?_eq jobType seq
      split at after
      · next own =>
        obtain ⟨rfl, rfl⟩ := own
        exact .ended ⟨rfl, alive, progress, does⟩ found processing after
      · exact .aside after
  · refine .aside ?_
    rw [Floor.step, Board.finish_of_not_handling floor.board fun kind number progress does =>
      handles ⟨kind, number, progress, does⟩]

/-- Every step does one of these things to a job. -/
theorem turn (sound : floor.board.Sound) (step : Step π ℓ) (jobType : String) (seq : Nat) :
    floor.Turn step jobType seq := by
  cases step with
  | create kind fingerprint payload skipsSearch =>
    exact turn_create sound kind fingerprint payload skipsSearch jobType seq
  | know kind =>
    refine .of_jobs (fun other => ?_) jobType seq
    exact congrArg Lane.jobs (floor.board.lane_ready kind other)
  | register kind concurrency =>
    refine .of_jobs (fun other => ?_) jobType seq
    simp only [Floor.step]
    split
    · next engaged => rw [(Board.register_eq engaged).2.2.2.1]
    · rfl
  | reinforce kind count =>
    refine .of_jobs (fun other => ?_) jobType seq
    exact congrArg Lane.jobs (floor.board.lane_ready kind other)
  | subscribe event listener => exact .aside rfl
  | take worker start => exact turn_take sound worker start jobType seq
  | goOn worker progress notes => exact turn_goOn sound worker progress notes jobType seq
  | finish worker outcome => exact turn_finish sound worker outcome jobType seq
  | notified worker outcome =>
    refine .of_jobs (fun other => ?_) jobType seq
    simp only [Floor.step, Board.notified]
    split
    · split
      · exact (Board.lane_kill _ _ _).1
      · exact (Board.lane_tellNext _ _ _ _ _ _ _).1
    · rfl
  | revise kind number change =>
    have after : (floor.step (.revise kind number change)).board.job? jobType seq = _ :=
      Board.job?_revise floor.board kind number change jobType seq
    split at after
    · next own =>
      obtain ⟨rfl, rfl⟩ := own
      cases found : floor.board.job? jobType seq with
      | none => exact .aside (by rw [after, found, Option.map_none])
      | some job =>
        rw [found, Option.map_some] at after
        exact .revised change found after
    · exact .aside after
  | kill worker =>
    refine .of_jobs (fun other => ?_) jobType seq
    exact (floor.board.lane_kill worker other).1
  | clean olderThan =>
    exact .of_sheds (Board.sheds_clean sound floor.now olderThan) fun _ _ _ => Or.inl ⟨_, rfl⟩
  | close =>
    refine .of_jobs (fun other => ?_) jobType seq
    exact floor.board.jobs_close other
  | pass span => exact .aside rfl

/-- The payload of a job is what somebody asked for it with, and stays as it is. -/
theorem payload_step (sound : floor.board.Sound) (step : Step π ℓ) {jobType : String} {seq : Nat}
    {job : Job} (found : (floor.step step).board.job? jobType seq = some job) :
    (∃ kind fingerprint skipsSearch, step = .create kind fingerprint job.payload skipsSearch) ∨
      ∃ before, floor.board.job? jobType seq = some before ∧ before.payload = job.payload := by
  cases turn sound step jobType seq with
  | aside same => exact Or.inr ⟨job, same.symm.trans found, rfl⟩
  | created creates _ _ _ after =>
    cases after.symm.trans found
    obtain ⟨kind, fingerprint, payload, skipsSearch, rfl, _, added⟩ := created?_eq_some.mp creates
    have same : job.payload = payload := congrArg (·.1.payload) added
    exact Or.inl ⟨kind, fingerprint, skipsSearch, by rw [same]⟩
  | taken _ before _ after | revised _ before after =>
    cases after.symm.trans found
    exact Or.inr ⟨_, before, rfl⟩
  | @ended _ _ outcome _ before _ after =>
    cases after.symm.trans found
    exact Or.inr ⟨_, before, by cases outcome <;> rfl⟩
  | left _ _ after =>
    rw [after] at found
    cases found

/-- A job that has ended stays on the board as it is, but for its notes, until a step removes it. -/
theorem ended_stays (sound : floor.board.Sound) (step : Step π ℓ) {jobType : String} {seq : Nat}
    {job : Job} (found : floor.board.job? jobType seq = some job)
    (terminal : job.isTerminal = true) :
    (∃ after, (floor.step step).board.job? jobType seq = some after ∧ job.Alike after) ∨
      floor.Removes step job := by
  cases turn sound step jobType seq with
  | aside same => exact Or.inl ⟨job, same.trans found, .refl job⟩
  | created _ _ _ fresh =>
    rw [sound.job?_of_above (fresh ▸ Nat.lt_succ_self _)] at found
    cases found
  | taken _ before pending =>
    cases before.symm.trans found
    rw [Job.isTerminal_of_pending pending] at terminal
    cases terminal
  | revised change before after =>
    cases before.symm.trans found
    exact Or.inl ⟨_, after, job.alike_revised change⟩
  | ended _ before processing =>
    cases before.symm.trans found
    rw [Job.isTerminal_of_processing processing] at terminal
    cases terminal
  | left before _ _ removes =>
    cases before.symm.trans found
    exact Or.inr removes

end Turns

/-! ## Workers -/

/-- What a step does to a worker. -/
inductive Duty (floor : Floor π ℓ) (step : Step π ℓ) (worker : Nat) : Prop where
  /-- It has nothing to do with the worker. -/
  | aside (same : (floor.step step).board.workers[worker]? = floor.board.workers[worker]?)
  /-- All workers are sent away. -/
  | absent (after : (floor.step step).board.workers[worker]? = none)
  /-- The worker has just come. -/
  | came {jobType : String} (before : floor.board.workers[worker]? = none)
    (after : (floor.step step).board.Does worker jobType .idle)
  /-- The worker goes for good. -/
  | went {jobType : String} (after : (floor.step step).board.Does worker jobType .gone)
  /-- The worker takes a job. -/
  | took {jobType : String} {seq : Nat} {rest : List Nat} {start : Job → π} {progress : π}
    (takes : step = .take worker start) (before : floor.board.Does worker jobType .idle)
    (line : (floor.board.lane jobType).waiting = seq :: rest)
    (after : (floor.step step).board.Does worker jobType (.handling seq progress))
  /-- The handler goes on. -/
  | wentOn {jobType : String} {seq : Nat} {progress next : π}
    (before : floor.board.Does worker jobType (.handling seq progress))
    (after : (floor.step step).board.Does worker jobType (.handling seq next))
  /-- The handler ends, and the worker turns to the listeners. -/
  | ended {jobType : String} {job : Job} {progress : π} {outcome : Except Failure Value}
    (finishes : step = .finish worker outcome) (alive : outcome ≠ .error .cancelled)
    (before : floor.board.Does worker jobType (.handling job.seq progress))
    (found : floor.board.job? jobType job.seq = some job)
    (after : (floor.step step).board.Does worker jobType
      (floor.board.tellingNext (Board.ended job floor.now outcome) (Board.eventOf outcome) 0))
  /-- The worker has told a listener, and turns to the next one. -/
  | told {jobType : String} {job : Job} {event : Event} {count : Nat}
    (before : floor.board.Does worker jobType (.notifying job event count))
    (after : (floor.step step).board.Does worker jobType
      (floor.board.tellingNext job event (count + 1)))
  /-- The notes of the job about which the worker tells listeners are revised. -/
  | revised {jobType : String} {job : Job} {event : Event} {count : Nat}
    (change : Fields → Fields)
    (before : floor.board.Does worker jobType (.notifying job event count))
    (after : (floor.step step).board.Does worker jobType
      (.notifying (job.revised change) event count))

section Duties

variable {floor : Floor π ℓ} {step : Step π ℓ} {worker : Nat}

/-- Whatever one worker does, the others go on with what they are doing. -/
theorem Duty.of_one {own : Nat} {next : Option (Worker π)} {after : Board π ℓ}
    (same : (floor.step step).board = after)
    (workers : ∀ index : Nat, after.workers[index]? =
      if index = own then next else floor.board.workers[index]?)
    (duty : (floor.step step).board.workers[own]? = next → floor.Duty step own) :
    floor.Duty step worker := by
  by_cases here : worker = own
  · subst here
    exact duty (by rw [same, workers, if_pos rfl])
  · exact .aside (by rw [same, workers, if_neg here])

/-- Workers that come are idle, and those that are there go on. -/
theorem Duty.of_more {jobType : String} {count : Nat}
    (workers : (floor.step step).board.workers =
      floor.board.workers ++ List.replicate count { jobType := jobType }) :
    floor.Duty step worker := by
  have here : (floor.step step).board.workers[worker]? = _ := congrArg (·[worker]?) workers
  rw [List.getElem?_append] at here
  split at here
  · exact .aside here
  · next beyond =>
    cases came : (List.replicate count ({ jobType := jobType } : Worker π))[worker -
        floor.board.workers.length]? with
    | none => exact .absent (here.trans came)
    | some fresh =>
      obtain ⟨-, rfl⟩ := List.mem_replicate.mp (List.mem_of_getElem? came)
      exact .came (List.getElem?_eq_none (Nat.le_of_not_lt beyond)) (here.trans came)

/-- A worker that is cut off goes for good. -/
theorem Duty.of_kill {own : Nat}
    (after : (floor.step step).board.workers[worker]? = (floor.board.kill own).workers[worker]?) :
    floor.Duty step worker := by
  rw [Board.workers_kill] at after
  split at after
  · cases found : floor.board.workers[worker]? with
    | none => exact .absent (by rw [after, found, Option.map_none])
    | some one => exact .went (by rw [Board.Does, after, found, Option.map_some])
  · exact .aside after

/-- A handler that ends turns its worker to the listeners, unless it was cut off. -/
theorem duty_finish (sound : floor.board.Sound) (own : Nat) (outcome : Except Failure Value) :
    floor.Duty (.finish own outcome) worker := by
  by_cases handles : ∃ kind number progress, floor.board.Does own kind (.handling number progress)
  · obtain ⟨kind, number, progress, does⟩ := handles
    by_cases alive : outcome = .error .cancelled
    · apply Duty.of_kill
      rw [Floor.step, alive, Board.finish_cancelled floor.board does]
    · obtain ⟨job, found, -⟩ := sound.handled _ _ _ _ does
      obtain ⟨-, rfl⟩ := Lane.mem_of_job? found
      have still : (floor.board.update kind job.seq fun _ =>
          Board.ended job floor.now outcome).Does own kind (.handling job.seq progress) := does
      exact .of_one (Board.finish_eq floor.board does found floor.now alive)
        (Board.workers_tellNext _ still _ _ _) fun after => .ended rfl alive does found after
  · refine .aside ?_
    rw [Floor.step, Board.finish_of_not_handling floor.board fun kind number progress does =>
      handles ⟨kind, number, progress, does⟩]

/-- A worker that has told a listener turns to the next one, unless it was cut off. -/
theorem duty_notified (own : Nat) (outcome : Except Failure Unit) :
    floor.Duty (.notified own outcome) worker := by
  by_cases tells : ∃ kind job event count, floor.board.Does own kind (.notifying job event count)
  · obtain ⟨kind, job, event, count, does⟩ := tells
    by_cases alive : outcome = .error .cancelled
    · apply Duty.of_kill
      rw [Floor.step, Board.notified, does, alive]
    · have told : floor.board.notified own outcome =
          floor.board.tellNext own kind job event (count + 1) := by
        unfold Board.notified
        rw [does]
        simp only
      exact .of_one told (floor.board.workers_tellNext does job event (count + 1))
        fun after => .told does after
  · refine .aside ?_
    simp only [Floor.step, Board.notified]
    split
    · next does => exact absurd ⟨_, _, _, _, does⟩ tells
    · rfl

/-- A worker takes the job that has waited longest. -/
theorem duty_take (own : Nat) (start : Job → π) : floor.Duty (.take own start) worker := by
  rcases floor.board.take_cases floor.now own start with
    same | ⟨kind, number, rest, job, idle, line, -, taken⟩
  · exact .aside (by rw [Floor.step, same])
  · exact .of_one taken (Board.workers_advanced floor.board idle _ _)
      fun after => .took rfl idle line after

/-- A handler goes on. -/
theorem duty_goOn (own : Nat) (next : π) (notes : Fields) :
    floor.Duty (.goOn own next notes) worker := by
  by_cases handles : ∃ kind number progress, floor.board.Does own kind (.handling number progress)
  · obtain ⟨kind, number, progress, does⟩ := handles
    exact .of_one (Board.goOn_eq floor.board does next notes)
      (Board.workers_advanced floor.board does _ _) fun after => .wentOn does after
  · refine .aside ?_
    rw [Floor.step, Board.goOn_of_not_handling floor.board fun kind number progress does =>
      handles ⟨kind, number, progress, does⟩]

/-- A worker whose job has its notes revised tells listeners about it with its new notes. -/
theorem duty_revise (jobType : String) (seq : Nat) (change : Fields → Fields) :
    floor.Duty (.revise jobType seq change) worker := by
  have after : (floor.step (.revise jobType seq change)).board.workers[worker]? =
      (floor.board.workers[worker]?).map (·.revised jobType seq change) := List.getElem?_map ..
  cases found : floor.board.workers[worker]? with
  | none => exact .aside (by rw [after, found, Option.map_none])
  | some one =>
    obtain ⟨kind, activity⟩ := one
    rw [found, Option.map_some] at after
    cases activity with
    | notifying job event told =>
      simp only [Worker.revised] at after
      split at after
      · exact .revised change found after
      · exact .aside (after.trans found.symm)
    | _ => exact .aside (after.trans found.symm)

/-- Every step does one of these things to a worker. -/
theorem duty (sound : floor.board.Sound) (step : Step π ℓ) (worker : Nat) :
    floor.Duty step worker := by
  cases step with
  | create kind fingerprint payload skipsSearch =>
    exact .aside (congrArg (·[worker]?) (floor.board.workers_create _ _ _ _ _))
  | know kind =>
    refine .aside ?_
    simp only [Floor.step, Board.ready]
    split <;> rfl
  | register kind concurrency =>
    cases engaged : floor.board.register kind concurrency with
    | error failure => exact .aside (by simp only [Floor.step, engaged])
    | ok more =>
      refine @Duty.of_more _ _ _ _ _ kind concurrency.toNat ?_
      simp only [Floor.step, engaged]
      exact (Board.register_eq engaged).2.2.2.2
  | reinforce kind count => exact Duty.of_more rfl
  | subscribe event listener => exact .aside rfl
  | take own start => exact duty_take own start
  | goOn own progress notes => exact duty_goOn own progress notes
  | finish own outcome => exact duty_finish sound own outcome
  | notified own outcome => exact duty_notified own outcome
  | revise jobType seq change => exact duty_revise jobType seq change
  | kill own => exact Duty.of_kill rfl
  | clean olderThan => exact .aside rfl
  | close => exact .absent rfl
  | pass span => exact .aside rfl

end Duties

/-! ## Starting -/

section Starting

variable {floor : Floor π ℓ} (sound : floor.board.Sound) {step : Step π ℓ} {worker : Nat}
  {jobType : String} {seq : Nat}
include sound

/-- A job is handed to a handler when an idle worker turns to the line of its type, and then it is
the first in line. -/
theorem starts_iff : floor.Starts step worker jobType seq ↔ ∃ start rest,
    step = .take worker start ∧ floor.board.Does worker jobType .idle ∧
      (floor.board.lane jobType).waiting = seq :: rest := by
  constructor
  · rintro ⟨⟨progress, handles⟩, fresh⟩
    cases duty sound step worker with
    | aside same =>
      rw [Board.Does, same] at handles
      exact absurd handles (fresh progress)
    | absent after =>
      rw [Board.Does, after] at handles
      cases handles
    | came before after => cases (handles.unique after).2
    | went after => cases (handles.unique after).2
    | took takes before line after =>
      obtain ⟨rfl, same⟩ := handles.unique after
      cases same
      exact ⟨_, _, takes, before, line⟩
    | wentOn before after =>
      obtain ⟨rfl, same⟩ := handles.unique after
      cases same
      exact absurd before (fresh _)
    | @ended kind job _ outcome _ _ _ _ after =>
      have same := (handles.unique after).2
      rcases floor.board.tellingNext_cases (Board.ended job floor.now outcome)
        (Board.eventOf outcome) 0 with telling | idle
      · cases same.trans telling
      · cases same.trans idle
    | @told kind job event count _ after =>
      have same := (handles.unique after).2
      rcases floor.board.tellingNext_cases job event (count + 1) with telling | idle
      · cases same.trans telling
      · cases same.trans idle
    | revised change before after => cases (handles.unique after).2
  · rintro ⟨start, rest, rfl, idle, line⟩
    obtain ⟨job, found, -⟩ := sound.pending_of_waiting (line ▸ List.mem_cons_self)
    obtain ⟨-, rfl⟩ := Lane.mem_of_job? found
    refine ⟨⟨_, (Board.advance_take sound floor.now start idle line found).does⟩, ?_⟩
    intro progress handles
    cases (idle.unique handles).2

/-- The job that a step hands to a handler was pending, and is being processed from now on. -/
theorem taken_of_starts (starts : floor.Starts step worker jobType seq) :
    ∃ job, floor.board.job? jobType seq = some job ∧ job.status = .pending ∧
      (floor.step step).board.job? jobType seq =
        some { job with processedOn := some floor.now } := by
  obtain ⟨-, rest, -, -, line⟩ := (starts_iff sound).mp starts
  obtain ⟨job, found, pending⟩ := sound.pending_of_waiting (line ▸ List.mem_cons_self)
  obtain ⟨progress, handles⟩ := starts.1
  obtain ⟨after, there, processing⟩ := (sound_step sound step).handled _ _ _ _ handles
  cases turn sound step jobType seq with
  | aside same =>
    rw [same, found] at there
    cases there
    rw [pending] at processing
    cases processing
  | created creates kind number fresh after =>
    rw [sound.job?_of_above (fresh ▸ Nat.lt_succ_self _)] at found
    cases found
  | taken starts before pending after =>
    rw [found] at before
    cases before
    exact ⟨job, found, pending, after⟩
  | revised change before after =>
    rw [after] at there
    rw [found] at before
    cases before
    cases there
    rw [show (job.revised change).status = job.status from rfl, pending] at processing
    cases processing
  | ended ends before processing after =>
    rw [found] at before
    cases before
    rw [pending] at processing
    cases processing
  | left before terminal after =>
    rw [after] at there
    cases there

end Starting

end Floor

end QuestionDesk.Jobs
