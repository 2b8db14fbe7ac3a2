import QuestionDesk.Proofs.Jobs.Soundness

/-!
# Handlers

A worker takes the job that has waited longest, goes on with it and ends it, and then tells the
listeners one after the other, unless it is cut off. Each of these steps replaces the job at most,
and keeps a sound board sound.
-/
namespace QuestionDesk.Jobs.Board

variable {π ℓ : Type}

/-! ## Workers of a sound board -/

/-- What a worker is doing after its activity was replaced on a board with other lanes. -/
theorem workers_advanced (board : Board π ℓ) {worker : Nat} {jobType : String}
    {activity : Activity π} (does : board.Does worker jobType activity) (lane : Lane)
    (next : Activity π) (index : Nat) :
    ((board.withLane jobType lane).withActivity worker next).workers[index]? =
      if index = worker then some { jobType, activity := next } else board.workers[index]? := by
  rw [workers_withActivity]
  split
  · next same =>
    subst same
    change (board.workers[index]?).map _ = _
    rw [does]
    rfl
  · rfl

/-- Taking a job does nothing, or hands the first waiting job to an idle worker. -/
theorem take_cases (board : Board π ℓ) (now : Micros) (worker : Nat) (start : Job → π) :
    board.take now worker start = board ∨ ∃ jobType seq rest job,
      board.Does worker jobType .idle ∧ (board.lane jobType).waiting = seq :: rest ∧
        board.job? jobType seq = some job ∧
          board.take now worker start =
            (board.withLane jobType ({ board.lane jobType with waiting := rest }.update seq
              ({ · with processedOn := some now }))).withActivity worker
                (.handling seq (start { job with processedOn := some now })) := by
  unfold Board.take
  split
  · next jobType idle =>
    dsimp only
    split
    · exact Or.inl rfl
    · next seq rest line =>
      split
      · exact Or.inl rfl
      · next job found => exact Or.inr ⟨jobType, seq, rest, job, idle, line, found, rfl⟩
  · exact Or.inl rfl

/-- An idle worker takes the job that has waited longest. -/
theorem take_eq (board : Board π ℓ) {worker : Nat} {jobType : String} {rest : List Nat} {job : Job}
    (idle : board.Does worker jobType .idle)
    (line : (board.lane jobType).waiting = job.seq :: rest)
    (found : board.job? jobType job.seq = some job) (now : Micros) (start : Job → π) :
    board.take now worker start =
      (board.withLane jobType ({ board.lane jobType with waiting := rest }.update job.seq
        ({ · with processedOn := some now }))).withActivity worker
          (.handling job.seq (start { job with processedOn := some now })) := by
  unfold take
  rw [idle]
  simp only [line]
  rw [show (board.lane jobType).job? job.seq = some job from found]

/-- A worker that takes a job notes when, and turns to it. -/
theorem Sound.replaces_take {board : Board π ℓ} (sound : board.Sound) {worker : Nat}
    {jobType : String} {rest : List Nat} {job : Job} (idle : board.Does worker jobType .idle)
    (line : (board.lane jobType).waiting = job.seq :: rest)
    (found : board.job? jobType job.seq = some job) (now : Micros) (start : Job → π) :
    board.Replaces (board.take now worker start) jobType worker job
      { job with processedOn := some now }
      (.handling job.seq (start { job with processedOn := some now })) := by
  have member := (Lane.mem_of_job? found).1
  obtain ⟨pending, left⟩ := Lane.pending_replace (sound.ordered jobType) member
    ((sound.waiting jobType).symm.trans line)
  have processing : Job.status { job with processedOn := some now } = .processing :=
    Job.status_eq_processing.mpr ⟨rfl, (Job.status_eq_pending.mp pending).2⟩
  have taken := board.take_eq idle line found now start
  have replaced : (board.lane jobType).update job.seq ({ · with processedOn := some now }) =
      (board.lane jobType).update job.seq fun _ => { job with processedOn := some now } :=
    Lane.update_eq_replace (sound.ordered jobType) found
  have lanes : ∀ other, (board.take now worker start).lane other = if other = jobType then
      { board.lane jobType with waiting := rest }.update job.seq
        ({ · with processedOn := some now }) else board.lane other := by
    intro other
    rw [taken]
    exact lane_withLane _ _ _ _
  have jobs : ∀ other, ((board.take now worker start).lane other).jobs = if other = jobType then
      ((board.lane jobType).update job.seq fun _ => { job with processedOn := some now }).jobs
      else (board.lane other).jobs := by
    intro other
    rw [lanes]
    split
    · rw [← replaced]
      rfl
    · rfl
  constructor
  case jobs => exact jobs
  case waiting =>
    intro other
    by_cases same : other = jobType
    · subst same
      rw [if_pos rfl, jobs, if_pos rfl, lanes, if_pos rfl]
      exact (left _ (by rw [processing]; exact nofun)).symm
    · rw [if_neg same, lanes, if_neg same]
  case created =>
    rw [taken]
    rfl
  case workers =>
    intro index
    rw [taken]
    exact workers_advanced board idle _ _ index
  case others => exact fun index _ => sound.not_busy_of_pending found pending
  case found => exact found
  case same => exact ⟨rfl, rfl, rfl, rfl⟩
  case blameless => exact fun open_ => sound.blameless jobType job member open_
  case handles =>
    rintro seq progress ⟨⟩
    exact ⟨rfl, processing⟩
  case tells => rintro told event count ⟨⟩

/-- Taking a job keeps a board sound. -/
theorem Sound.take {board : Board π ℓ} (sound : board.Sound) (now : Micros) (worker : Nat)
    (start : Job → π) : (board.take now worker start).Sound := by
  rcases board.take_cases now worker start with
    same | ⟨jobType, seq, rest, job, idle, line, found, -⟩
  · rw [same]
    exact sound
  · obtain ⟨-, rfl⟩ := Lane.mem_of_job? found
    exact sound.replaced (sound.replaces_take idle line found now start)

/-- What a worker is doing is one thing. -/
theorem Does.unique {board : Board π ℓ} {worker : Nat} {jobType other : String}
    {activity next : Activity π} (first : board.Does worker jobType activity)
    (second : board.Does worker other next) : jobType = other ∧ activity = next := by
  rw [Does, first] at second
  cases second
  exact ⟨rfl, rfl⟩

/-- Nobody else is busy with the job that a worker handles. -/
theorem Sound.not_busy_of_handling {board : Board π ℓ} (sound : board.Sound) {worker : Nat}
    {jobType : String} {seq : Nat} {progress : π}
    (does : board.Does worker jobType (.handling seq progress)) (index : Nat)
    (different : index ≠ worker) : ¬board.Busy index jobType seq :=
  fun busy => different (sound.alone _ _ _ _ busy ⟨_, does, rfl⟩)

/-- A handler that goes on notes something on the job that it handles. -/
theorem goOn_eq (board : Board π ℓ) {worker : Nat} {jobType : String} {seq : Nat} {progress : π}
    (does : board.Does worker jobType (.handling seq progress)) (next : π) (notes : Fields) :
    board.goOn worker next notes =
      (board.withLane jobType ((board.lane jobType).update seq (·.noteAll notes))).withActivity
        worker (.handling seq next) := by
  unfold goOn
  rw [does]
  rfl

/-- A worker that handles nothing does not go on. -/
theorem goOn_of_not_handling (board : Board π ℓ) {worker : Nat}
    (free : ∀ jobType seq progress, ¬board.Does worker jobType (.handling seq progress))
    (next : π) (notes : Fields) : board.goOn worker next notes = board := by
  unfold goOn
  split
  · next does => exact absurd does (free _ _ _)
  · rfl

/-- A handler that goes on notes something on its job, and the worker stays with it. -/
theorem Sound.replaces_goOn {board : Board π ℓ} (sound : board.Sound) {worker : Nat}
    {jobType : String} {job : Job} {progress : π}
    (does : board.Does worker jobType (.handling job.seq progress))
    (found : board.job? jobType job.seq = some job) (next : π) (notes : Fields) :
    board.Replaces (board.goOn worker next notes) jobType worker job (job.noteAll notes)
      (.handling job.seq next) := by
  obtain ⟨_, known, processing⟩ := sound.handled _ _ _ _ does
  cases found.symm.trans known
  have member := (Lane.mem_of_job? found).1
  have ordered := sound.ordered jobType
  have status : (job.noteAll notes).status = .processing :=
    (job.status_noteAll notes).trans processing
  have number : (job.noteAll notes).seq = job.seq := by rw [Job.noteAll_eq]
  rw [goOn_eq _ does, Lane.update_eq_replace ordered found]
  constructor
  case jobs =>
    intro other
    change ((board.withLane _ _).lane other).jobs = _
    rw [lane_withLane]
    split <;> rfl
  case waiting =>
    intro other
    change ((board.withLane _ _).lane other).waiting =
      if other = jobType then (((board.withLane _ _).lane jobType).jobs.filter _).map _ else _
    rw [lane_withLane, lane_withLane, if_pos rfl]
    split
    · rw [Lane.pending_update _ _ (fun _ _ => number)]
      · exact sound.waiting jobType
      · intro other here same
        rw [Lane.eq_of_seq_eq ordered here member same, status, processing]
    · rfl
  case created => rfl
  case workers => exact fun index => workers_advanced board does _ _ index
  case others => exact fun index => sound.not_busy_of_handling does index
  case found => exact found
  case same =>
    rw [Job.noteAll_eq]
    exact ⟨rfl, rfl, rfl, rfl⟩
  case blameless =>
    rw [Job.noteAll_eq]
    exact fun open_ => sound.blameless jobType job member open_
  case handles =>
    rintro seq progress ⟨⟩
    exact ⟨rfl, status⟩
  case tells => rintro told event count ⟨⟩

/-- A handler that goes on keeps a board sound. -/
theorem Sound.goOn {board : Board π ℓ} (sound : board.Sound) (worker : Nat) (next : π)
    (notes : Fields) : (board.goOn worker next notes).Sound := by
  by_cases handles : ∃ jobType seq progress, board.Does worker jobType (.handling seq progress)
  · obtain ⟨jobType, seq, progress, does⟩ := handles
    obtain ⟨job, found, -⟩ := sound.handled _ _ _ _ does
    obtain ⟨-, rfl⟩ := Lane.mem_of_job? found
    exact sound.replaced (sound.replaces_goOn does found next notes)
  · rw [goOn_of_not_handling board fun _ _ _ does => handles ⟨_, _, _, does⟩]
    exact sound

/-- A worker that leaves its job keeps all jobs and all that wait. -/
theorem lane_leave (board : Board π ℓ) (worker : Nat) (jobType : String) (next : Activity π)
    (other : String) :
    ((board.leave worker jobType next).lane other).jobs = (board.lane other).jobs ∧
      ((board.leave worker jobType next).lane other).waiting = (board.lane other).waiting := by
  change ((board.withLane _ _).lane other).jobs = _ ∧ ((board.withLane _ _).lane other).waiting = _
  rw [lane_withLane]
  split
  · next same => exact ⟨by rw [same], by rw [same]⟩
  · exact ⟨rfl, rfl⟩

/-- A worker that tells the next listener, or is done, keeps all jobs and all that wait. -/
theorem lane_tellNext (board : Board π ℓ) (worker : Nat) (jobType : String) (job : Job)
    (event : Event) (told : Nat) (other : String) :
    ((board.tellNext worker jobType job event told).lane other).jobs = (board.lane other).jobs ∧
      ((board.tellNext worker jobType job event told).lane other).waiting =
        (board.lane other).waiting := by
  unfold tellNext
  split
  · exact ⟨rfl, rfl⟩
  · exact lane_leave _ _ _ _ _

/-- What a worker does once it goes on telling listeners, or is done. -/
def tellingNext (board : Board π ℓ) (job : Job) (event : Event) (told : Nat) : Activity π :=
  if told < (board.audience event).length then .notifying job event told else .idle

/-- A worker that tells the next listener, or is done, leaves what other workers are doing. -/
theorem workers_tellNext (board : Board π ℓ) {worker : Nat} {jobType : String}
    {activity : Activity π} (does : board.Does worker jobType activity) (job : Job) (event : Event)
    (told : Nat) (index : Nat) :
    (board.tellNext worker jobType job event told).workers[index]? =
      if index = worker then some { jobType, activity := board.tellingNext job event told }
      else board.workers[index]? := by
  unfold tellNext tellingNext
  split
  · rw [workers_withActivity]
    split
    · next same =>
      subst same
      rw [does]
      rfl
    · rfl
  · exact workers_advanced board does _ _ index

/-- A worker that tells the next listener, or is done, creates no job. -/
theorem created_tellNext (board : Board π ℓ) (worker : Nat) (jobType : String) (job : Job)
    (event : Event) (told : Nat) :
    (board.tellNext worker jobType job event told).created = board.created := by
  unfold tellNext
  split <;> rfl

/-- A worker that goes for good, or is not there, leaves what the others are doing. -/
theorem workers_kill (board : Board π ℓ) (worker index : Nat) :
    (board.kill worker).workers[index]? =
      if index = worker then (board.workers[index]?).map ({ · with activity := .gone })
      else board.workers[index]? := by
  unfold kill
  split
  · exact workers_withActivity _ _ _ _
  · exact workers_withActivity _ _ _ _
  · exact workers_withActivity _ _ _ _
  · next busy notified idle =>
    split
    · next same =>
      subst same
      cases here : board.workers[index]? with
      | none => rfl
      | some worker =>
        obtain ⟨jobType, activity⟩ := worker
        cases activity with
        | idle => exact absurd here (idle _)
        | handling seq progress => exact absurd here (busy _ _ _)
        | notifying job event count => exact absurd here (notified _ _ _ _)
        | gone => rfl
    · rfl

/-- A worker that goes for good leaves all jobs and all that wait. -/
theorem lane_kill (board : Board π ℓ) (worker : Nat) (other : String) :
    ((board.kill worker).lane other).jobs = (board.lane other).jobs ∧
      ((board.kill worker).lane other).waiting = (board.lane other).waiting := by
  unfold kill
  split
  · exact lane_leave _ _ _ _ _
  · exact lane_leave _ _ _ _ _
  · exact ⟨rfl, rfl⟩
  · exact ⟨rfl, rfl⟩

/-- A worker that goes for good creates no job. -/
theorem created_kill (board : Board π ℓ) (worker : Nat) :
    (board.kill worker).created = board.created := by
  unfold kill
  split <;> rfl

/-- Sending a worker away keeps a board sound. -/
theorem Sound.kill {board : Board π ℓ} (sound : board.Sound) (worker : Nat) :
    (board.kill worker).Sound := by
  apply sound.of_workers (fun other => (board.lane_kill worker other).1)
    (fun other => (board.lane_kill worker other).2) (board.created_kill worker)
  intro index jobType activity does
  rw [Does, workers_kill] at does
  split at does
  · obtain ⟨_, _, gone⟩ := Option.map_eq_some_iff.mp does
    cases gone
    exact Or.inl rfl
  · exact Or.inr (Or.inl does)

/-- The handler of a worker ends: its job ends with the outcome, and the worker starts telling. -/
theorem finish_eq (board : Board π ℓ) {worker : Nat} {jobType : String} {seq : Nat} {progress : π}
    {job : Job} (does : board.Does worker jobType (.handling seq progress))
    (found : board.job? jobType seq = some job) (now : Micros) {outcome : Except Failure Value}
    (ends : outcome ≠ .error .cancelled) :
    board.finish now worker outcome =
      (board.update jobType seq fun _ => ended job now outcome).tellNext worker jobType
        (ended job now outcome) (eventOf outcome) 0 := by
  unfold finish
  rw [does]
  dsimp only
  split
  · exact absurd rfl ends
  · rw [found]

/-- A cancelled handler takes its worker with it. -/
theorem finish_cancelled (board : Board π ℓ) {worker : Nat} {jobType : String} {seq : Nat}
    {progress : π} (does : board.Does worker jobType (.handling seq progress)) (now : Micros) :
    board.finish now worker (.error .cancelled) = board.kill worker := by
  unfold finish
  rw [does]

/-- A worker that handles nothing does not finish. -/
theorem finish_of_not_handling (board : Board π ℓ) {worker : Nat}
    (free : ∀ jobType seq progress, ¬board.Does worker jobType (.handling seq progress))
    (now : Micros) (outcome : Except Failure Value) : board.finish now worker outcome = board := by
  unfold finish
  split
  · next does => exact absurd does (free _ _ _)
  · rfl

/-- A job that ends keeps everything by which it is known. -/
theorem ended_same (job : Job) (now : Micros) (outcome : Except Failure Value) :
    (ended job now outcome).seq = job.seq ∧ (ended job now outcome).jobType = job.jobType ∧
      (ended job now outcome).id = job.id ∧
        (ended job now outcome).fingerprint = job.fingerprint := by
  cases outcome <;> exact ⟨rfl, rfl, rfl, rfl⟩

/-- A job that ends has ended. -/
theorem isTerminal_ended (job : Job) (now : Micros) (outcome : Except Failure Value) :
    (ended job now outcome).isTerminal = true := by
  cases outcome <;> rfl

/-- A job that has ended is not pending. -/
theorem status_ne_pending_of_terminal {job : Job} (terminal : job.isTerminal = true) :
    job.status ≠ .pending := by
  intro pending
  rw [Job.isTerminal_of_pending pending] at terminal
  cases terminal

/-- The end of a handler ends its job, and the worker starts telling. -/
theorem Sound.replaces_finish {board : Board π ℓ} (sound : board.Sound) {worker : Nat}
    {jobType : String} {job : Job} {progress : π}
    (does : board.Does worker jobType (.handling job.seq progress))
    (found : board.job? jobType job.seq = some job) (now : Micros)
    {outcome : Except Failure Value} (alive : outcome ≠ .error .cancelled) :
    board.Replaces (board.finish now worker outcome) jobType worker job (ended job now outcome)
      (board.tellingNext (ended job now outcome) (eventOf outcome) 0) := by
  obtain ⟨_, known, processing⟩ := sound.handled _ _ _ _ does
  cases found.symm.trans known
  have member := (Lane.mem_of_job? found).1
  have same := ended_same job now outcome
  have terminal := isTerminal_ended job now outcome
  have after := fun other => lane_tellNext
    (board.update jobType job.seq fun _ => ended job now outcome) worker jobType
    (ended job now outcome) (eventOf outcome) 0 other
  rw [finish_eq board does found now alive]
  constructor
  case jobs =>
    intro other
    rw [(after other).1]
    change ((board.withLane _ _).lane other).jobs = _
    rw [lane_withLane]
    split <;> rfl
  case waiting =>
    intro other
    rw [(after other).2, (after jobType).1]
    change ((board.withLane _ _).lane other).waiting =
      if other = jobType then (((board.withLane _ _).lane jobType).jobs.filter _).map _ else _
    rw [lane_withLane, lane_withLane, if_pos rfl]
    split
    · rw [Lane.pending_update _ _ (fun _ _ => same.1)]
      · exact sound.waiting jobType
      · intro other here number
        rw [Lane.eq_of_seq_eq (sound.ordered jobType) here member number]
        exact ⟨fun now => absurd now (status_ne_pending_of_terminal terminal),
          fun now => by rw [processing] at now; cases now⟩
    · rfl
  case created =>
    rw [created_tellNext]
    rfl
  case workers =>
    exact fun index => workers_tellNext (board.update jobType job.seq _) does _ _ _ index
  case others => exact fun index => sound.not_busy_of_handling does index
  case found => exact found
  case same => exact same
  case blameless =>
    intro open_
    rw [terminal] at open_
    cases open_
  case handles =>
    intro seq progress handling
    unfold tellingNext at handling
    split at handling <;> cases handling
  case tells =>
    intro told event count telling
    unfold tellingNext at telling
    split at telling
    · cases telling
      exact ⟨rfl, terminal⟩
    · cases telling

/-- The end of a handler keeps a board sound. -/
theorem Sound.finish {board : Board π ℓ} (sound : board.Sound) (now : Micros) (worker : Nat)
    (outcome : Except Failure Value) : (board.finish now worker outcome).Sound := by
  by_cases handles : ∃ jobType seq progress, board.Does worker jobType (.handling seq progress)
  · obtain ⟨jobType, seq, progress, does⟩ := handles
    by_cases ends : outcome = .error .cancelled
    · rw [ends, finish_cancelled board does]
      exact sound.kill worker
    · obtain ⟨job, found, -⟩ := sound.handled _ _ _ _ does
      obtain ⟨-, rfl⟩ := Lane.mem_of_job? found
      exact sound.replaced (sound.replaces_finish does found now ends)
  · rw [finish_of_not_handling board fun _ _ _ does => handles ⟨_, _, _, does⟩]
    exact sound

/-- A worker whose handler has ended handles nothing, and the other workers go on. -/
theorem Sound.workers_finish {board : Board π ℓ} (sound : board.Sound) {worker : Nat}
    {jobType : String} {seq : Nat} {progress : π}
    (does : board.Does worker jobType (.handling seq progress)) (now : Micros)
    (outcome : Except Failure Value) :
    ∃ next : Activity π, (∀ seq progress, next ≠ .handling seq progress) ∧
      ∀ index, (board.finish now worker outcome).workers[index]? =
        if index = worker then some { jobType, activity := next } else board.workers[index]? := by
  by_cases ends : outcome = .error .cancelled
  · refine ⟨.gone, by simp, fun index => ?_⟩
    rw [ends, finish_cancelled board does, workers_kill]
    split
    · next same => rw [same, does, Option.map_some]
    · rfl
  · obtain ⟨job, found, processing⟩ := sound.handled _ _ _ _ does
    refine ⟨tellingNext (board.update jobType seq fun _ => ended job now outcome)
      (ended job now outcome) (eventOf outcome) 0, ?_, fun index => ?_⟩
    · intro other next
      unfold tellingNext
      split <;> simp
    · rw [finish_eq board does found now ends]
      exact workers_tellNext (board.update jobType seq _) does _ _ _ index

/-- A worker that was told of handles nothing, and the other workers go on. -/
theorem notified_cases (board : Board π ℓ) (worker : Nat) (outcome : Except Failure Unit) :
    board.notified worker outcome = board ∨ ∃ (jobType : String) (job : Job) (event : Event)
      (told : Nat) (next : Activity π), board.Does worker jobType (.notifying job event told) ∧
        (∀ seq progress, next ≠ .handling seq progress) ∧
          ∀ index, (board.notified worker outcome).workers[index]? =
            if index = worker then some { jobType, activity := next }
            else board.workers[index]? := by
  unfold Board.notified
  split
  · next jobType job event told does =>
    right
    split
    · refine ⟨jobType, job, event, told, .gone, does, by simp, fun index => ?_⟩
      rw [workers_kill]
      split
      · next same => rw [same, does, Option.map_some]
      · rfl
    · refine ⟨jobType, job, event, told, board.tellingNext job event (told + 1), does, ?_,
        workers_tellNext board does job event (told + 1)⟩
      intro seq progress
      unfold tellingNext
      split <;> simp
  · exact Or.inl rfl

/-- A listener that was told keeps a board sound. -/
theorem Sound.notified {board : Board π ℓ} (sound : board.Sound) (worker : Nat)
    (outcome : Except Failure Unit) : (board.notified worker outcome).Sound := by
  unfold Board.notified
  split
  · next jobType job event told does =>
    split
    · exact sound.kill worker
    · have after := fun other => lane_tellNext board worker jobType job event (told + 1) other
      apply sound.of_workers (fun other => (after other).1) (fun other => (after other).2)
        (created_tellNext _ _ _ _ _ _)
      intro index other activity at_
      rw [Does, workers_tellNext board does] at at_
      split at at_
      · next same =>
        cases at_
        unfold tellingNext
        split
        · exact Or.inr (Or.inr ⟨job, event, told, told + 1, rfl, same ▸ does⟩)
        · exact Or.inl rfl
      · exact Or.inr (Or.inl at_)
  · exact sound

end QuestionDesk.Jobs.Board
