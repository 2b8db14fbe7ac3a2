import QuestionDesk.Proofs.Jobs.Board

/-!
# Jobs that have ended

A job that has ended is never changed again: it stays on the board as it is, or leaves it for good.
-/
namespace QuestionDesk.Jobs

variable {π ℓ : Type}

namespace Board

/-! ## The jobs after each operation -/

/-- The jobs after one of them was changed. -/
theorem job?_update (board : Board π ℓ) (jobType : String) (seq : Nat) {change : Job → Job}
    (keeps : ∀ job, job.seq = seq → (change job).seq = seq) (other : String) (number : Nat) :
    (board.update jobType seq change).job? other number =
      if other = jobType ∧ number = seq then (board.job? jobType seq).map change
      else board.job? other number := by
  simp only [update, Board.job?, lane_withLane]
  by_cases here : other = jobType
  · subst here
    rw [if_pos rfl]
    by_cases own : number = seq
    · subst own
      rw [if_pos ⟨rfl, rfl⟩]
      cases found : (board.lane other).job? number with
      | some job => exact Lane.job?_update_self keeps found
      | none =>
        rw [Option.map_none]
        apply List.find?_eq_none.mpr
        intro job member is
        rcases Lane.mem_update.mp member with ⟨old, inside, own, _⟩ | ⟨_, different⟩
        · exact List.find?_eq_none.mp found old inside (by simpa using own)
        · exact different (by simpa using is)
    · rw [if_neg fun both => own both.2, Lane.job?_update_ne keeps own]
  · rw [if_neg here, if_neg fun both => here both.1]

/-- Pruning leaves a job as it is, or takes it away when it has ended. -/
theorem job?_prune {board : Board π ℓ} (sound : board.Sound) (jobType : String)
    (cutoff : Option Micros) (seq : Nat) :
    ((board.lane jobType).prune cutoff).job? seq = board.job? jobType seq ∨
      ∃ job, board.job? jobType seq = some job ∧ job.isTerminal = true ∧
        ((board.lane jobType).prune cutoff).job? seq = none := by
  cases found : board.job? jobType seq with
  | none =>
    left
    apply List.find?_eq_none.mpr
    intro job member
    exact List.find?_eq_none.mp found job (List.mem_filter.mp member).1
  | some job =>
    cases stays : Lane.stays cutoff job with
    | true => exact Or.inl (Lane.job?_prune (sound.ordered jobType) found stays)
    | false =>
      refine Or.inr ⟨job, rfl, ?_, ?_⟩
      · unfold Lane.stays at stays
        unfold Job.isTerminal
        cases ended : job.finishedOn with
        | none =>
          rw [ended] at stays
          cases stays
        | some moment => rfl
      · apply List.find?_eq_none.mpr
        intro other member number
        obtain ⟨inside, kept⟩ := List.mem_filter.mp member
        obtain ⟨here, own⟩ := Lane.mem_of_job? found
        have same := Lane.eq_of_seq_eq (sound.ordered jobType) inside here
          ((show other.seq = seq by simpa using number).trans own.symm)
        rw [same, stays] at kept
        cases kept

/-! ## What has ended -/

/-- Every job that was on one board is on the next one as it was, or had ended and has left, or had
not ended. No job comes back. -/
structure Outlasts (board after : Board π ℓ) : Prop where
  /-- No number is given twice. -/
  created : board.created ≤ after.created
  /-- What becomes of the jobs so far. -/
  jobs : ∀ jobType seq, seq ≤ board.created → after.job? jobType seq = board.job? jobType seq ∨
    ∃ job, board.job? jobType seq = some job ∧
      (job.isTerminal = true → after.job? jobType seq = none)

/-- A board outlasts itself. -/
theorem Outlasts.of_jobs {board after : Board π ℓ} (created : after.created = board.created)
    (jobs : ∀ jobType seq, after.job? jobType seq = board.job? jobType seq) :
    board.Outlasts after :=
  ⟨Nat.le_of_eq created.symm, fun jobType seq _ => Or.inl (jobs jobType seq)⟩

/-- What has ended stays as it is over several operations. -/
theorem Outlasts.trans {board between after : Board π ℓ} (first : board.Outlasts between)
    (second : between.Outlasts after) : board.Outlasts after := by
  refine ⟨Nat.le_trans first.created second.created, fun jobType seq old => ?_⟩
  rcases first.jobs jobType seq old with same | ⟨job, found, gone⟩
  · rw [← same]
    exact second.jobs jobType seq (Nat.le_trans old first.created)
  · refine Or.inr ⟨job, found, fun terminal => ?_⟩
    rcases second.jobs jobType seq (Nat.le_trans old first.created) with same | ⟨other, some, _⟩
    · rw [same, gone terminal]
    · rw [gone terminal] at some
      cases some

/-- A worker that replaces a job that has not ended leaves those that have as they are. -/
theorem Replaces.outlasts {board after : Board π ℓ} {jobType : String} {worker : Nat}
    {job changed : Job} {next : Activity π}
    (replaces : board.Replaces after jobType worker job changed next)
    (running : job.isTerminal = false) : board.Outlasts after := by
  refine ⟨Nat.le_of_eq replaces.created.symm, fun other number _ => ?_⟩
  rw [replaces.job?_eq]
  split
  · next here =>
    obtain ⟨rfl, rfl⟩ := here
    refine Or.inr ⟨job, replaces.found, fun terminal => ?_⟩
    rw [running] at terminal
    cases terminal
  · exact Or.inl rfl

/-- Pruning takes away only what has ended. -/
theorem Outlasts.of_prune {board after : Board π ℓ} (sound : board.Sound)
    (created : after.created = board.created)
    (lanes : ∀ jobType, after.lane jobType = board.lane jobType ∨
      ∃ cutoff, after.lane jobType = (board.lane jobType).prune cutoff) : board.Outlasts after := by
  refine ⟨Nat.le_of_eq created.symm, fun jobType seq _ => ?_⟩
  rcases lanes jobType with same | ⟨cutoff, pruned⟩
  · exact Or.inl (by rw [Board.job?, same, Board.job?])
  · rw [Board.job?, pruned]
    rcases job?_prune sound jobType cutoff seq with same | ⟨job, found, _, gone⟩
    · exact Or.inl same
    · exact Or.inr ⟨job, found, fun _ => gone⟩

/-- Forgetting old jobs takes away only what has ended. -/
theorem outlasts_forget {board : Board π ℓ} (sound : board.Sound) (now : Micros)
    (jobType : String) : board.Outlasts (board.forget now jobType) := by
  unfold forget
  split
  · apply Outlasts.of_prune sound (created_prune _ _ _)
    intro other
    rw [lane_prune]
    split
    · exact Or.inr ⟨_, rfl⟩
    · exact Or.inl rfl
  · exact .of_jobs rfl fun _ _ => rfl

/-- Creating a job leaves what has ended as it is. -/
theorem outlasts_create {board : Board π ℓ} (sound : board.Sound) (now : Micros)
    (jobType fingerprint : String) (payload : Fields) (skipsSearch : Bool) :
    board.Outlasts (board.create now jobType fingerprint payload skipsSearch).2 := by
  have kept := outlasts_forget sound now jobType
  simp only [create]
  split
  · exact kept
  · exact kept.trans ⟨Nat.le_succ _, fun other seq old => Or.inl (job?_add _ _ _ _ _ _ _ old)⟩

/-- Taking a job leaves what has ended as it is. -/
theorem outlasts_take {board : Board π ℓ} (sound : board.Sound) (now : Micros) (worker : Nat)
    (start : Job → π) : board.Outlasts (board.take now worker start) := by
  rcases board.take_cases now worker start with
    same | ⟨jobType, seq, rest, job, idle, line, found, -⟩
  · rw [same]
    exact .of_jobs rfl fun _ _ => rfl
  · obtain ⟨member, rfl⟩ := Lane.mem_of_job? found
    have pending := (Lane.pending_replace (sound.ordered jobType) member
      ((sound.waiting jobType).symm.trans line)).1
    exact (sound.replaces_take idle line found now start).outlasts
      (Job.isTerminal_of_pending pending)

/-- A handler that goes on leaves what has ended as it is. -/
theorem outlasts_goOn {board : Board π ℓ} (sound : board.Sound) (worker : Nat) (next : π)
    (notes : Fields) : board.Outlasts (board.goOn worker next notes) := by
  by_cases handles : ∃ jobType seq progress, board.Does worker jobType (.handling seq progress)
  · obtain ⟨jobType, seq, progress, does⟩ := handles
    obtain ⟨job, found, processing⟩ := sound.handled _ _ _ _ does
    obtain ⟨-, rfl⟩ := Lane.mem_of_job? found
    exact (sound.replaces_goOn does found next notes).outlasts
      (Job.isTerminal_of_processing processing)
  · rw [goOn_of_not_handling board fun jobType seq progress does =>
      handles ⟨jobType, seq, progress, does⟩]
    exact .of_jobs rfl fun _ _ => rfl

/-- A worker that goes leaves all jobs as they are. -/
theorem outlasts_kill (board : Board π ℓ) (worker : Nat) : board.Outlasts (board.kill worker) := by
  apply Outlasts.of_jobs (created_kill _ _)
  intro jobType seq
  rw [Board.job?, Lane.job?, (lane_kill board worker jobType).1]
  rfl

/-- The end of a handler leaves what has ended before as it is. -/
theorem outlasts_finish {board : Board π ℓ} (sound : board.Sound) (now : Micros) (worker : Nat)
    (outcome : Except Failure Value) : board.Outlasts (board.finish now worker outcome) := by
  by_cases handles : ∃ jobType seq progress, board.Does worker jobType (.handling seq progress)
  · obtain ⟨jobType, seq, progress, does⟩ := handles
    by_cases ends : outcome = .error .cancelled
    · rw [ends, finish_cancelled board does]
      exact outlasts_kill board worker
    · obtain ⟨job, found, processing⟩ := sound.handled _ _ _ _ does
      obtain ⟨-, rfl⟩ := Lane.mem_of_job? found
      exact (sound.replaces_finish does found now ends).outlasts
        (Job.isTerminal_of_processing processing)
  · rw [finish_of_not_handling board fun jobType seq progress does =>
      handles ⟨jobType, seq, progress, does⟩]
    exact .of_jobs rfl fun _ _ => rfl

/-- A worker that has told a listener leaves all jobs as they are. -/
theorem outlasts_notified (board : Board π ℓ) (worker : Nat) (outcome : Except Failure Unit) :
    board.Outlasts (board.notified worker outcome) := by
  unfold Board.notified
  split
  · next jobType job event told does =>
    split
    · exact outlasts_kill board worker
    · apply Outlasts.of_jobs (created_tellNext _ _ _ _ _ _)
      intro other seq
      rw [Board.job?, Lane.job?, (lane_tellNext _ _ _ _ _ _ other).1]
      rfl
  · exact .of_jobs rfl fun _ _ => rfl

/-- Cleaning takes away only what has ended. -/
theorem outlasts_clean {board : Board π ℓ} (sound : board.Sound) (now : Micros)
    (olderThan : Option Micros) : board.Outlasts (board.clean now olderThan).2 :=
  .of_prune sound rfl fun _ => Or.inr ⟨_, lane_clean _ _ _ _⟩

end Board

end QuestionDesk.Jobs
