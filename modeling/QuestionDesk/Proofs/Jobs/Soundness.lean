import QuestionDesk.Proofs.Jobs.Lanes

/-!
# Sound boards

On a sound board the jobs of a type stand in the order in which they were created, those that wait
are exactly the pending ones, a worker that handles a job finds it on the board and being processed,
a worker that tells listeners tells them about a job that has ended, and no two workers are busy
with one job. A worker that replaces its job, and turns to what comes next, keeps the board sound.
-/
namespace QuestionDesk.Jobs

variable {π ℓ : Type}

namespace Activity

/-- The number of the job that a worker is busy with. -/
def seq? : Activity π → Option Nat
  | .handling seq _ => some seq
  | .notifying job _ _ => some job.seq
  | .idle | .gone => none

end Activity

namespace Board

/-! ## Views of the operations -/

/-- The lane of a type after one lane was replaced. -/
theorem lane_withLane (board : Board π ℓ) (jobType other : String) (lane : Lane) :
    (board.withLane jobType lane).lane other =
      if other = jobType then lane else board.lane other := by
  by_cases same : other = jobType
  · simp [Board.lane, withLane, same, Keyed.find?_put_self]
  · simp [Board.lane, withLane, same, Keyed.find?_put_ne _ _ same]

/-- Making a type known changes no lane. -/
theorem lane_ready (board : Board π ℓ) (jobType other : String) :
    (board.ready jobType).lane other = board.lane other := by
  unfold ready
  split
  · rfl
  · next unknown =>
    rw [lane_withLane]
    split
    · next same =>
      subst same
      have absent : board.lanes.find? other = none := by simpa [Keyed.has] using unknown
      simp [Board.lane, absent]
    · rfl

/-- The lane of a type after pruning one type. -/
theorem lane_prune (board : Board π ℓ) (jobType other : String) (cutoff : Option Micros) :
    (board.prune jobType cutoff).lane other =
      if other = jobType then (board.lane other).prune cutoff else board.lane other := by
  unfold Board.prune
  split
  · rw [lane_withLane]
    split
    · next same => rw [same]
    · rfl
  · next unknown =>
    split
    · next same =>
      subst same
      have absent : board.lanes.find? other = none := by simpa [Keyed.has] using unknown
      simp [Board.lane, absent, Lane.prune]
    · rfl

/-- Pruning one type leaves the workers as they are. -/
theorem workers_prune (board : Board π ℓ) (jobType : String) (cutoff : Option Micros) :
    (board.prune jobType cutoff).workers = board.workers := by
  unfold Board.prune
  split <;> rfl

/-- Pruning one type leaves the number of jobs ever created as it is. -/
theorem created_prune (board : Board π ℓ) (jobType : String) (cutoff : Option Micros) :
    (board.prune jobType cutoff).created = board.created := by
  unfold Board.prune
  split <;> rfl

/-- The lane of a type after every lane was pruned. -/
theorem lane_clean (board : Board π ℓ) (now : Micros) (olderThan : Option Micros)
    (jobType : String) :
    (board.clean now olderThan).2.lane jobType =
      (board.lane jobType).prune (olderThan.map (now - ·)) := by
  simp only [clean, Board.lane, Keyed.find?]
  generalize board.lanes = lanes
  induction lanes with
  | nil => rfl
  | cons entry rest ih =>
    obtain ⟨name, lane⟩ := entry
    simp only [List.map_cons, List.lookup_cons]
    split
    · rfl
    · exact ih

/-- What a worker is doing after the activity of one worker was replaced. -/
theorem workers_withActivity (board : Board π ℓ) (worker index : Nat) (activity : Activity π) :
    (board.withActivity worker activity).workers[index]? =
      if index = worker then (board.workers[index]?).map ({ · with activity := activity })
      else board.workers[index]? := by
  simp only [withActivity, List.getElem?_modify]
  by_cases same : index = worker
  · subst same
    simp
  · rw [if_neg same]
    simp [Ne.symm same]

/-! ## Soundness -/

/-- A worker takes jobs of a type and is doing something. -/
abbrev Does (board : Board π ℓ) (worker : Nat) (jobType : String) (activity : Activity π) : Prop :=
  board.workers[worker]? = some { jobType, activity }

/-- A worker for jobs of a type is busy with the job of a number. -/
def Busy (board : Board π ℓ) (worker : Nat) (jobType : String) (seq : Nat) : Prop :=
  ∃ activity, board.Does worker jobType activity ∧ activity.seq? = some seq

/-- What holds of every board that its operations lead to. -/
structure Sound (board : Board π ℓ) : Prop where
  /-- The jobs of a type stand in the order in which they were created. -/
  ordered : ∀ jobType, ((board.lane jobType).jobs.map Job.seq).Pairwise (· < ·)
  /-- Every job stands on the lane of its type, under its key, and is numbered. -/
  placed : ∀ jobType, ∀ job ∈ (board.lane jobType).jobs, job.jobType = jobType ∧
    job.id = jobKey jobType job.fingerprint ∧ 0 < job.seq ∧ job.seq ≤ board.created
  /-- Jobs of different types have different numbers. -/
  apart : ∀ left right, ∀ first ∈ (board.lane left).jobs, ∀ second ∈ (board.lane right).jobs,
    first.seq = second.seq → left = right
  /-- The jobs that wait are the pending ones, in their order. -/
  waiting : ∀ jobType, (board.lane jobType).waiting =
    ((board.lane jobType).jobs.filter (·.status = .pending)).map Job.seq
  /-- A job that is handled is on the board and being processed. -/
  handled : ∀ worker jobType seq progress,
    board.Does worker jobType (.handling seq progress) →
      ∃ job, board.job? jobType seq = some job ∧ job.status = .processing
  /-- A job about which listeners are told has ended, and is as it was then. -/
  told : ∀ worker jobType job event count,
    board.Does worker jobType (.notifying job event count) →
      job.isTerminal = true ∧ job.jobType = jobType ∧ job.seq ≤ board.created ∧
        ∀ found, board.job? jobType job.seq = some found → found = job
  /-- No two workers are busy with one job. -/
  alone : ∀ left right jobType seq, board.Busy left jobType seq → board.Busy right jobType seq →
    left = right
  /-- No reason is given for a job that has not ended. -/
  blameless : ∀ jobType, ∀ job ∈ (board.lane jobType).jobs, job.isTerminal = false →
    job.failedReason = none

/-- The job that a worker is busy with, if it is on the board, is the one being processed or the one
that listeners are told about. -/
theorem Sound.busy_job {board : Board π ℓ} (sound : board.Sound) {worker : Nat} {jobType : String}
    {seq : Nat} {job : Job} (busy : board.Busy worker jobType seq)
    (found : board.job? jobType seq = some job) :
    job.status = .processing ∨ job.isTerminal = true := by
  obtain ⟨activity, does, same⟩ := busy
  cases activity with
  | idle => cases same
  | gone => cases same
  | handling number progress =>
    obtain rfl : number = seq := Option.some.inj same
    obtain ⟨known, here, processing⟩ := sound.handled _ _ _ _ does
    rw [found] at here
    cases here
    exact Or.inl processing
  | notifying told event count =>
    obtain rfl : told.seq = seq := Option.some.inj same
    obtain ⟨ended, -, -, unique⟩ := sound.told _ _ _ _ _ does
    exact Or.inr (unique job found ▸ ended)

/-- Nobody is busy with a pending job. -/
theorem Sound.not_busy_of_pending {board : Board π ℓ} (sound : board.Sound) {worker : Nat}
    {jobType : String} {seq : Nat} {job : Job} (found : board.job? jobType seq = some job)
    (pending : job.status = .pending) : ¬board.Busy worker jobType seq := by
  intro busy
  rcases sound.busy_job busy found with processing | ended
  · rw [pending] at processing
    cases processing
  · rw [Job.isTerminal_of_pending pending] at ended
    cases ended

/-- A job that is on the board is found by its number. -/
theorem Sound.job?_of_mem {board : Board π ℓ} (sound : board.Sound) {jobType : String} {job : Job}
    (member : job ∈ (board.lane jobType).jobs) : board.job? jobType job.seq = some job :=
  Lane.job?_of_mem (sound.ordered jobType) member

/-- A board stays sound when its jobs stay and workers only drop what they are busy with. -/
theorem Sound.of_workers {board after : Board π ℓ} (sound : board.Sound)
    (jobs : ∀ jobType, (after.lane jobType).jobs = (board.lane jobType).jobs)
    (waiting : ∀ jobType, (after.lane jobType).waiting = (board.lane jobType).waiting)
    (created : after.created = board.created)
    (workers : ∀ worker jobType activity, after.Does worker jobType activity →
      activity.seq? = none ∨ board.Does worker jobType activity ∨
        ∃ job event count more, activity = .notifying job event more ∧
          board.Does worker jobType (.notifying job event count)) : after.Sound := by
  have search : ∀ jobType seq, after.job? jobType seq = board.job? jobType seq := by
    intro jobType seq
    simp only [Board.job?, Lane.job?, jobs]
  have busy : ∀ worker jobType seq,
      after.Busy worker jobType seq → board.Busy worker jobType seq := by
    rintro worker jobType seq ⟨activity, does, same⟩
    rcases workers _ _ _ does with free | before | ⟨job, event, count, more, rfl, before⟩
    · rw [free] at same
      cases same
    · exact ⟨activity, before, same⟩
    · exact ⟨_, before, same⟩
  constructor
  case ordered => simpa only [jobs] using sound.ordered
  case placed => simpa only [jobs, created] using sound.placed
  case apart => simpa only [jobs] using sound.apart
  case waiting => simpa only [jobs, waiting] using sound.waiting
  case handled =>
    intro worker jobType seq progress does
    rcases workers _ _ _ does with free | before | ⟨job, event, count, more, other, _⟩
    · cases free
    · rw [search]
      exact sound.handled _ _ _ _ before
    · cases other
  case told =>
    intro worker jobType job event count does
    rw [created]
    simp only [search]
    rcases workers _ _ _ does with free | before | ⟨_, _, _, _, same, before⟩
    · cases free
    · exact sound.told _ _ _ _ _ before
    · cases same
      exact sound.told _ _ _ _ _ before
  case alone =>
    exact fun left right jobType seq first second =>
      sound.alone left right jobType seq (busy _ _ _ first) (busy _ _ _ second)
  case blameless => simpa only [jobs] using sound.blameless

/-- What a worker makes of a board when it replaces a job with which nobody else is busy, and turns
to something else. -/
structure Replaces (board after : Board π ℓ) (jobType : String) (worker : Nat) (job changed : Job)
    (next : Activity π) : Prop where
  /-- The job is replaced, and the others stay as they are. -/
  jobs : ∀ other, (after.lane other).jobs = if other = jobType then
    ((board.lane jobType).update job.seq fun _ => changed).jobs else (board.lane other).jobs
  /-- The jobs of the type that wait are the pending ones, and the other lines stay as they are. -/
  waiting : ∀ other, (after.lane other).waiting = if other = jobType then
    ((after.lane jobType).jobs.filter (·.status = .pending)).map Job.seq
    else (board.lane other).waiting
  /-- No job is created. -/
  created : after.created = board.created
  /-- The worker turns to what comes next, and the others go on. -/
  workers : ∀ index, after.workers[index]? =
    if index = worker then some { jobType, activity := next } else board.workers[index]?
  /-- Nobody else is busy with the job. -/
  others : ∀ index, index ≠ worker → ¬board.Busy index jobType job.seq
  /-- The job is on the board. -/
  found : board.job? jobType job.seq = some job
  /-- It keeps everything by which it is known. -/
  same : changed.seq = job.seq ∧ changed.jobType = job.jobType ∧ changed.id = job.id ∧
    changed.fingerprint = job.fingerprint
  /-- No reason is given for it before it has ended. -/
  blameless : changed.isTerminal = false → changed.failedReason = none
  /-- What the worker handles next is the job, which is being processed. -/
  handles : ∀ seq progress, next = .handling seq progress →
    seq = job.seq ∧ changed.status = .processing
  /-- What the worker tells of next is the job, which has ended. -/
  tells : ∀ told event count, next = .notifying told event count →
    told = changed ∧ changed.isTerminal = true

section Replaces

variable {board after : Board π ℓ} {jobType : String} {worker : Nat} {job changed : Job}
  {next : Activity π}

/-- Every job was on the board before, known by the same. -/
theorem Replaces.was (replaces : board.Replaces after jobType worker job changed next)
    {other : String} {one : Job} (member : one ∈ (after.lane other).jobs) :
    ∃ before ∈ (board.lane other).jobs, one.seq = before.seq ∧ one.jobType = before.jobType ∧
      one.id = before.id ∧ one.fingerprint = before.fingerprint := by
  rw [replaces.jobs] at member
  split at member
  · next equal =>
    subst equal
    rcases Lane.mem_update.mp member with ⟨before, _, _, rfl⟩ | ⟨before, _⟩
    · exact ⟨job, (Lane.mem_of_job? replaces.found).1, replaces.same⟩
    · exact ⟨one, before, rfl, rfl, rfl, rfl⟩
  · exact ⟨one, member, rfl, rfl, rfl, rfl⟩

/-- The job that was replaced is found under its number. -/
theorem Replaces.job?_self (replaces : board.Replaces after jobType worker job changed next) :
    after.job? jobType job.seq = some changed := by
  simp only [Board.job?, Lane.job?, replaces.jobs, if_true]
  exact @Lane.job?_update_self _ _ (fun _ => changed) _ (fun _ _ => replaces.same.1) replaces.found

/-- Every other job is found as before. -/
theorem Replaces.job?_ne (replaces : board.Replaces after jobType worker job changed next)
    {other : String} {seq : Nat} (different : ¬(other = jobType ∧ seq = job.seq)) :
    after.job? other seq = board.job? other seq := by
  simp only [Board.job?, Lane.job?, replaces.jobs]
  split
  · next equal =>
    subst equal
    exact Lane.job?_update_ne (fun _ _ => replaces.same.1) fun again => different ⟨rfl, again⟩
  · rfl

/-- The jobs after one of them was replaced. -/
theorem Replaces.job?_eq (replaces : board.Replaces after jobType worker job changed next)
    (other : String) (number : Nat) : after.job? other number =
      if other = jobType ∧ number = job.seq then some changed else board.job? other number := by
  split
  · next own =>
    obtain ⟨rfl, rfl⟩ := own
    exact replaces.job?_self
  · next different => exact replaces.job?_ne different

/-- The worker turns to what comes next, if it is the one. -/
theorem Replaces.does_self (replaces : board.Replaces after jobType worker job changed next)
    {other : String} {activity : Activity π} (does : after.Does worker other activity) :
    other = jobType ∧ activity = next := by
  rw [Does, replaces.workers, if_pos rfl] at does
  cases does
  exact ⟨rfl, rfl⟩

/-- Another worker goes on, and is not busy with the job. -/
theorem Replaces.does_ne (replaces : board.Replaces after jobType worker job changed next)
    {index : Nat} {other : String} {activity : Activity π} (different : index ≠ worker)
    (does : after.Does index other activity) : board.Does index other activity ∧
      ∀ seq, activity.seq? = some seq → ¬(other = jobType ∧ seq = job.seq) := by
  rw [Does, replaces.workers, if_neg different] at does
  refine ⟨does, ?_⟩
  rintro seq number ⟨rfl, rfl⟩
  exact replaces.others index different ⟨activity, does, number⟩

/-- What the worker is busy with afterwards is the job. -/
theorem Replaces.seq_next (replaces : board.Replaces after jobType worker job changed next)
    {seq : Nat} (number : next.seq? = some seq) : seq = job.seq := by
  cases next with
  | idle => cases number
  | gone => cases number
  | handling handled progress =>
    obtain rfl : handled = seq := Option.some.inj number
    exact (replaces.handles _ _ rfl).1
  | notifying told event count =>
    obtain rfl : told.seq = seq := Option.some.inj number
    rw [(replaces.tells _ _ _ rfl).1, replaces.same.1]

/-- Whoever is busy is the worker with the job, or another one that was busy before. -/
theorem Replaces.busy (replaces : board.Replaces after jobType worker job changed next)
    {index : Nat} {other : String} {seq : Nat} (busy : after.Busy index other seq) :
    (index = worker ∧ other = jobType ∧ seq = job.seq) ∨
      (index ≠ worker ∧ board.Busy index other seq) := by
  obtain ⟨activity, does, number⟩ := busy
  by_cases own : index = worker
  · subst own
    obtain ⟨rfl, rfl⟩ := replaces.does_self does
    exact Or.inl ⟨rfl, rfl, replaces.seq_next number⟩
  · exact Or.inr ⟨own, activity, (replaces.does_ne own does).1, number⟩

/-- A board stays sound when a worker replaces a job with which nobody else is busy. -/
theorem Sound.replaced (sound : board.Sound)
    (replaces : board.Replaces after jobType worker job changed next) : after.Sound := by
  constructor
  case ordered =>
    intro other
    rw [replaces.jobs]
    split
    · next equal =>
      rw [Lane.seqs_update _ _ fun _ _ => replaces.same.1]
      exact equal ▸ sound.ordered jobType
    · exact sound.ordered other
  case placed =>
    intro other one member
    obtain ⟨before, earlier, number, kind, key, print⟩ := replaces.was member
    rw [number, kind, key, print, replaces.created]
    exact sound.placed other before earlier
  case apart =>
    intro left right first firstHere second secondHere equal
    obtain ⟨one, oneHere, number, -⟩ := replaces.was firstHere
    obtain ⟨two, twoHere, count, -⟩ := replaces.was secondHere
    exact sound.apart left right one oneHere two twoHere (by rw [← number, ← count, equal])
  case waiting =>
    intro other
    rw [replaces.waiting]
    split
    · next equal => rw [equal]
    · next different =>
      rw [replaces.jobs, if_neg different]
      exact sound.waiting other
  case handled =>
    intro index other seq progress does
    by_cases own : index = worker
    · subst own
      obtain ⟨rfl, handling⟩ := replaces.does_self does
      obtain ⟨rfl, processing⟩ := replaces.handles _ _ handling.symm
      exact ⟨changed, replaces.job?_self, processing⟩
    · obtain ⟨before, apart⟩ := replaces.does_ne own does
      rw [replaces.job?_ne (apart seq rfl)]
      exact sound.handled _ _ _ _ before
  case told =>
    intro index other told event count does
    rw [replaces.created]
    by_cases own : index = worker
    · subst own
      obtain ⟨rfl, telling⟩ := replaces.does_self does
      obtain ⟨rfl, ended⟩ := replaces.tells told event count telling.symm
      have placed := sound.placed other job (Lane.mem_of_job? replaces.found).1
      rw [replaces.same.1]
      refine ⟨ended, replaces.same.2.1.trans placed.1, placed.2.2.2, fun known seen => ?_⟩
      rw [replaces.job?_self] at seen
      exact (Option.some.inj seen).symm
    · obtain ⟨before, apart⟩ := replaces.does_ne own does
      rw [replaces.job?_ne (apart told.seq rfl)]
      exact sound.told _ _ _ _ _ before
  case alone =>
    intro left right other seq first second
    -- Two that are busy with one job: each is the worker with its job, or was busy before.
    rcases replaces.busy first with ⟨rfl, rfl, rfl⟩ | ⟨leftOther, leftBusy⟩
    · rcases replaces.busy second with ⟨rfl, -, -⟩ | ⟨rightOther, rightBusy⟩
      · rfl
      · exact absurd rightBusy (replaces.others right rightOther)
    · rcases replaces.busy second with ⟨rfl, rfl, rfl⟩ | ⟨rightOther, rightBusy⟩
      · exact absurd leftBusy (replaces.others left leftOther)
      · exact sound.alone left right other seq leftBusy rightBusy
  case blameless =>
    intro other one member unended
    rw [replaces.jobs] at member
    split at member
    · next equal =>
      subst equal
      rcases Lane.mem_update.mp member with ⟨_, _, _, rfl⟩ | ⟨before, _⟩
      · exact replaces.blameless unended
      · exact sound.blameless other one before unended
    · exact sound.blameless other one member unended

end Replaces

end Board

end QuestionDesk.Jobs
