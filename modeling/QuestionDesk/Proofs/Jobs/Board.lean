import QuestionDesk.Proofs.Jobs.Handlers

/-!
# Boards

What else is done to a board: old jobs are forgotten and new ones added, and workers and listeners
are engaged and dismissed. With the steps of the workers these are all of its operations, and each
of them keeps a sound board sound.
-/
namespace QuestionDesk.Jobs.Board

variable {π ℓ : Type}

/-! ## Jobs that come and go -/

/-- A board stays sound when lanes are pruned. -/
theorem Sound.of_prune {board after : Board π ℓ} (sound : board.Sound)
    (lanes : ∀ jobType, after.lane jobType = board.lane jobType ∨
      ∃ cutoff, after.lane jobType = (board.lane jobType).prune cutoff)
    (created : after.created = board.created) (workers : after.workers = board.workers) :
    after.Sound := by
  have fewer : ∀ jobType, (after.lane jobType).jobs.Sublist (board.lane jobType).jobs := by
    intro jobType
    rcases lanes jobType with same | ⟨cutoff, pruned⟩
    · exact same ▸ List.Sublist.refl _
    · rw [pruned]
      exact List.filter_sublist
  have processing : ∀ jobType seq job, board.job? jobType seq = some job →
      job.status = .processing → after.job? jobType seq = some job := by
    intro jobType seq job found status
    rcases lanes jobType with same | ⟨cutoff, pruned⟩
    · rw [Board.job?, same]
      exact found
    · rw [Board.job?, pruned]
      exact Lane.job?_prune (sound.ordered jobType) found (Lane.stays_of_processing status)
  constructor
  case ordered => exact fun jobType => (sound.ordered jobType).sublist ((fewer jobType).map _)
  case placed =>
    intro jobType job member
    rw [created]
    exact sound.placed jobType job ((fewer jobType).subset member)
  case apart =>
    exact fun left right first firstHere second secondHere =>
      sound.apart left right first ((fewer left).subset firstHere) second
        ((fewer right).subset secondHere)
  case waiting =>
    intro jobType
    rcases lanes jobType with same | ⟨cutoff, pruned⟩
    · rw [same]
      exact sound.waiting jobType
    · rw [pruned, Lane.pending_prune]
      exact sound.waiting jobType
  case handled =>
    intro worker jobType seq progress does
    rw [Does, workers] at does
    obtain ⟨job, found, status⟩ := sound.handled _ _ _ _ does
    exact ⟨job, processing _ _ _ found status, status⟩
  case told =>
    intro worker jobType job event count does
    rw [Does, workers] at does
    obtain ⟨ended, kind, below, unique⟩ := sound.told _ _ _ _ _ does
    refine ⟨ended, kind, created ▸ below, fun found here => ?_⟩
    obtain ⟨member, number⟩ := Lane.mem_of_job? here
    exact unique found (number ▸ sound.job?_of_mem ((fewer jobType).subset member))
  case alone =>
    intro left right jobType seq first second
    apply sound.alone left right jobType seq
    · simpa only [Busy, Does, workers] using first
    · simpa only [Busy, Does, workers] using second
  case blameless =>
    exact fun jobType job member => sound.blameless jobType job ((fewer jobType).subset member)

/-- Forgetting old jobs keeps a board sound. -/
theorem Sound.forget {board : Board π ℓ} (sound : board.Sound) (now : Micros) (jobType : String) :
    (board.forget now jobType).Sound := by
  unfold Board.forget
  split
  · apply sound.of_prune _ (created_prune _ _ _) (workers_prune _ _ _)
    intro other
    rw [lane_prune]
    split
    · exact Or.inr ⟨_, rfl⟩
    · exact Or.inl rfl
  · exact sound

/-- Removing jobs that have ended keeps a board sound. -/
theorem Sound.clean {board : Board π ℓ} (sound : board.Sound) (now : Micros)
    (olderThan : Option Micros) : (board.clean now olderThan).2.Sound :=
  sound.of_prune (fun _ => Or.inr ⟨_, lane_clean _ _ _ _⟩) rfl rfl

/-- The lane of a type after a job was added. -/
theorem lane_add (board : Board π ℓ) (now : Micros) (jobType fingerprint : String)
    (payload : Fields) (other : String) :
    (board.add now jobType fingerprint payload).2.lane other =
      if other = jobType then
        { jobs := (board.lane jobType).jobs ++ [(board.add now jobType fingerprint payload).1]
          waiting := (board.lane jobType).waiting ++ [board.created + 1]
          unfinished := (board.lane jobType).unfinished + 1 }
      else board.lane other :=
  lane_withLane _ _ _ _

/-- A new job is found under its number, and every other one as before. -/
theorem job?_add (board : Board π ℓ) (now : Micros) (jobType fingerprint : String)
    (payload : Fields) (other : String) (seq : Nat) (old : seq ≤ board.created) :
    (board.add now jobType fingerprint payload).2.job? other seq = board.job? other seq := by
  rw [Board.job?, lane_add]
  split
  · next same =>
    subst same
    have newer : (board.add now other fingerprint payload).1.seq ≠ seq :=
      Nat.ne_of_gt (Nat.lt_succ_of_le old)
    simp [Board.job?, Lane.job?, List.find?_append, newer]
  · rfl

/-- Creating a job keeps a board sound. -/
theorem Sound.add {board : Board π ℓ} (sound : board.Sound) (now : Micros)
    (jobType fingerprint : String) (payload : Fields) :
    (board.add now jobType fingerprint payload).2.Sound := by
  have member : ∀ other, ∀ job ∈
      ((board.add now jobType fingerprint payload).2.lane other).jobs,
      job ∈ (board.lane other).jobs ∨
        (other = jobType ∧ job = (board.add now jobType fingerprint payload).1) := by
    intro other job here
    rw [lane_add] at here
    split at here
    · next same =>
      subst same
      simpa using here
    · exact Or.inl here
  have old : ∀ other, ∀ job ∈ (board.lane other).jobs, job.seq ≠ board.created + 1 :=
    fun other job here => Nat.ne_of_lt (Nat.lt_succ_of_le (sound.placed other job here).2.2.2)
  constructor
  case ordered =>
    intro other
    rw [lane_add]
    split
    · simp only [List.map_append, List.map_cons, List.map_nil, List.pairwise_append]
      refine ⟨sound.ordered jobType, List.pairwise_singleton _ _, ?_⟩
      intro seq here last same
      obtain ⟨job, inside, rfl⟩ := List.mem_map.mp here
      rw [List.mem_singleton.mp same]
      exact Nat.lt_succ_of_le (sound.placed jobType job inside).2.2.2
    · exact sound.ordered other
  case placed =>
    intro other job here
    rcases member other job here with before | ⟨rfl, rfl⟩
    · obtain ⟨kind, key, positive, below⟩ := sound.placed other job before
      exact ⟨kind, key, positive, Nat.le_succ_of_le below⟩
    · exact ⟨rfl, rfl, Nat.succ_pos _, Nat.le_refl _⟩
  case apart =>
    intro left right first firstHere second secondHere same
    rcases member left first firstHere with firstOld | ⟨rfl, rfl⟩
    · rcases member right second secondHere with secondOld | ⟨rfl, rfl⟩
      · exact sound.apart left right first firstOld second secondOld same
      · exact absurd same (old left first firstOld)
    · rcases member right second secondHere with secondOld | ⟨rfl, rfl⟩
      · exact absurd same.symm (old right second secondOld)
      · rfl
  case waiting =>
    intro other
    rw [lane_add]
    split
    · simp only [List.filter_append, List.map_append, sound.waiting jobType]
      congr 1
    · exact sound.waiting other
  case handled =>
    intro worker other seq progress does
    obtain ⟨job, found, status⟩ := sound.handled worker other seq progress does
    obtain ⟨inside, rfl⟩ := Lane.mem_of_job? found
    exact ⟨job, by rw [job?_add _ _ _ _ _ _ _ (sound.placed other job inside).2.2.2, found], status⟩
  case told =>
    intro worker other job event count does
    obtain ⟨ended, kind, below, unique⟩ := sound.told worker other job event count does
    refine ⟨ended, kind, Nat.le_succ_of_le below, fun found here => ?_⟩
    rw [job?_add _ _ _ _ _ _ _ below] at here
    exact unique found here
  case alone => exact sound.alone
  case blameless =>
    intro other job here open_
    rcases member other job here with before | ⟨rfl, rfl⟩
    · exact sound.blameless other job before open_
    · rfl

/-- The creation of a job leaves the workers as they are. -/
theorem workers_create (board : Board π ℓ) (now : Micros) (jobType fingerprint : String)
    (payload : Fields) (skipsSearch : Bool) :
    (board.create now jobType fingerprint payload skipsSearch).2.workers = board.workers := by
  have kept : (board.forget now jobType).workers = board.workers := by
    unfold forget
    split
    · exact workers_prune _ _ _
    · rfl
  simp only [create]
  split
  · exact kept
  · exact kept

/-- Finding or creating a job keeps a board sound. -/
theorem Sound.create {board : Board π ℓ} (sound : board.Sound) (now : Micros)
    (jobType fingerprint : String) (payload : Fields) (skipsSearch : Bool) :
    (board.create now jobType fingerprint payload skipsSearch).2.Sound := by
  have kept := sound.forget now jobType
  unfold Board.create
  dsimp only
  split
  · exact kept
  · exact kept.add _ _ _ _

/-! ## Workers that come and go -/

/-- Sending all workers away keeps a board sound. -/
theorem Sound.close {board : Board π ℓ} (sound : board.Sound) : board.close.Sound := by
  have quiet : ((List.range board.workers.length).foldl Board.kill board).Sound := by
    generalize List.range board.workers.length = workers
    induction workers generalizing board with
    | nil => exact sound
    | cons worker rest ih => exact ih (sound.kill worker)
  exact quiet.of_workers (fun _ => rfl) (fun _ => rfl) rfl nofun

/-- A board with newly engaged workers has the jobs that it had, and the workers are idle. -/
theorem register_eq {board after : Board π ℓ} {jobType : String} {concurrency : Int}
    (engaged : board.register jobType concurrency = .ok after) :
    after.created = board.created ∧ after.retention = board.retention ∧
      after.listeners = board.listeners ∧ (∀ other, after.lane other = board.lane other) ∧
        after.workers =
          board.workers ++ List.replicate concurrency.toNat { jobType := jobType } := by
  unfold Board.register at engaged
  split at engaged
  · cases engaged
  · split at engaged
    · cases engaged
    · cases engaged
      have same : (board.ready jobType).workers = board.workers ∧
          (board.ready jobType).created = board.created ∧
            (board.ready jobType).retention = board.retention ∧
              (board.ready jobType).listeners = board.listeners := by
        unfold Board.ready
        split <;> exact ⟨rfl, rfl, rfl, rfl⟩
      exact ⟨same.2.1, same.2.2.1, same.2.2.2, board.lane_ready jobType, by rw [same.1]⟩

/-- Engaging workers keeps a board sound. -/
theorem Sound.register {board after : Board π ℓ} (sound : board.Sound) {jobType : String}
    {concurrency : Int} (engaged : board.register jobType concurrency = .ok after) :
    after.Sound := by
  obtain ⟨created, _, _, lanes, workers⟩ := register_eq engaged
  refine sound.of_workers (fun other => congrArg Lane.jobs (lanes other))
    (fun other => congrArg Lane.waiting (lanes other)) created ?_
  intro index other activity does
  rw [Does, workers, List.getElem?_append] at does
  split at does
  · exact Or.inr (Or.inl does)
  · obtain ⟨-, fresh⟩ := List.mem_replicate.mp (List.mem_of_getElem? does)
    cases fresh
    exact Or.inl rfl

/-- A new listener keeps a board sound. -/
theorem Sound.subscribe {board : Board π ℓ} (sound : board.Sound) (event : Event) (listener : ℓ) :
    (board.subscribe event listener).Sound :=
  sound.of_workers (fun _ => rfl) (fun _ => rfl) rfl fun _ _ _ does => Or.inr (Or.inl does)

/-- A board without jobs and workers is sound. -/
theorem sound_of_empty {board : Board π ℓ} (lanes : board.lanes = [])
    (workers : board.workers = []) : board.Sound := by
  have lane : ∀ jobType, board.lane jobType = {} := by
    intro jobType
    rw [Board.lane, lanes]
    rfl
  have does : ∀ worker jobType activity, ¬board.Does worker jobType activity := by
    intro worker jobType activity
    rw [Does, workers]
    rintro ⟨⟩
  constructor
  case ordered =>
    intro jobType
    rw [lane]
    exact List.Pairwise.nil
  case placed =>
    intro jobType job inside
    rw [lane] at inside
    cases inside
  case apart =>
    intro left right _ inside
    rw [lane] at inside
    cases inside
  case waiting =>
    intro jobType
    rw [lane]
    rfl
  case handled => exact fun worker jobType seq progress at_ => absurd at_ (does _ _ _)
  case told => exact fun worker jobType job event count at_ => absurd at_ (does _ _ _)
  case alone =>
    rintro left right jobType seq ⟨activity, at_, -⟩
    exact absurd at_ (does _ _ _)
  case blameless =>
    intro jobType job inside
    rw [lane] at inside
    cases inside

end QuestionDesk.Jobs.Board
