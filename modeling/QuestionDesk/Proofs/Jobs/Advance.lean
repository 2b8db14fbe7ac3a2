import QuestionDesk.Proofs.Jobs.Lasting

/-!
# Advances

Whenever a worker takes a job, goes on with it, ends it, has told a listener or goes for good, it
changes that one job, turns to something else, and leaves the rest of the board alone. `Advance`
says so, and advances after one another are one advance.
-/
namespace QuestionDesk.Jobs.Board

variable {π ℓ : Type}

/-- How a worker changes one job of its type, and nothing else on the board. -/
structure Advance (board after : Board π ℓ) (jobType : String) (worker : Nat) (job changed : Job)
    (next : Activity π) : Prop where
  /-- The board stays sound. -/
  sound : after.Sound
  /-- No job is created. -/
  created : after.created = board.created
  /-- The listeners stay as they are. -/
  listeners : after.listeners = board.listeners
  /-- What is known about the job stays as it is. -/
  same : changed.seq = job.seq ∧ changed.jobType = job.jobType ∧ changed.id = job.id ∧
    changed.fingerprint = job.fingerprint ∧ changed.payload = job.payload
  /-- The job is changed, if it is there, and the other jobs of the type stay as they are. -/
  jobs : ∀ seq, after.job? jobType seq = if seq = job.seq then
    (board.job? jobType seq).map fun _ => changed else board.job? jobType seq
  /-- The other workers go on with what they are doing. -/
  workers : ∀ index : Nat, after.workers[index]? =
    if index = worker then some { jobType, activity := next } else board.workers[index]?
  /-- No other worker is busy with the job. -/
  others : ∀ index, index ≠ worker → ¬board.Busy index jobType job.seq
  /-- The worker was busy with no other job. -/
  own : ∀ activity, board.Does worker jobType activity →
    activity.seq? = none ∨ activity.seq? = some job.seq
  /-- The worker turns to no other job. -/
  stays : ∀ seq, next.seq? = some seq → seq = job.seq
  /-- The worker tells of no other job. -/
  tells : ∀ told event count, next = .notifying told event count → told = changed

section Uses

variable {board between after : Board π ℓ} {jobType : String} {worker : Nat}
  {job changed final : Job} {next last : Activity π}

/-- The worker turns to what comes next. -/
theorem Advance.does (advance : board.Advance after jobType worker job changed next) :
    after.Does worker jobType next := by
  rw [Does, advance.workers, if_pos rfl]

/-- The other workers go on with what they are doing. -/
theorem Advance.does_other (advance : board.Advance after jobType worker job changed next)
    {index : Nat} {other : String} {activity : Activity π} (different : index ≠ worker) :
    after.Does index other activity ↔ board.Does index other activity := by
  rw [Does, advance.workers, if_neg different]

/-- A job that was on the board is there as it was changed. -/
theorem Advance.job?_self (advance : board.Advance after jobType worker job changed next)
    (found : board.job? jobType job.seq = some job) :
    after.job? jobType changed.seq = some changed := by
  rw [advance.jobs, advance.same.1, if_pos rfl, found]
  rfl

/-- Two advances of one worker with one job. -/
theorem Advance.trans (first : board.Advance between jobType worker job changed next)
    (second : between.Advance after jobType worker changed final last) :
    board.Advance after jobType worker job final last := by
  obtain ⟨seq, kind, id, fingerprint, payload⟩ := first.same
  constructor
  case sound => exact second.sound
  case created => exact second.created.trans first.created
  case listeners => exact second.listeners.trans first.listeners
  case same =>
    exact ⟨second.same.1.trans seq, second.same.2.1.trans kind, second.same.2.2.1.trans id,
      second.same.2.2.2.1.trans fingerprint, second.same.2.2.2.2.trans payload⟩
  case jobs =>
    intro number
    rw [second.jobs, first.jobs, seq]
    split
    · rw [Option.map_map]
      rfl
    · rfl
  case workers =>
    intro index
    rw [second.workers, first.workers]
    split <;> rfl
  case others => exact first.others
  case own => exact first.own
  case stays =>
    intro number turned
    rw [← seq]
    exact second.stays number turned
  case tells => exact second.tells

end Uses

/-- A worker that replaces a job, and was busy with no other one, advances it. -/
theorem Replaces.advance {board after : Board π ℓ} {jobType : String} {worker : Nat}
    {job changed : Job} {next : Activity π}
    (replaces : board.Replaces after jobType worker job changed next) (sound : after.Sound)
    (listeners : after.listeners = board.listeners) (payload : changed.payload = job.payload)
    (own : ∀ activity, board.Does worker jobType activity →
      activity.seq? = none ∨ activity.seq? = some job.seq) :
    board.Advance after jobType worker job changed next := by
  obtain ⟨seq, kind, id, fingerprint⟩ := replaces.same
  constructor
  case sound => exact sound
  case created => exact replaces.created
  case listeners => exact listeners
  case same => exact ⟨seq, kind, id, fingerprint, payload⟩
  case jobs =>
    intro number
    by_cases here : number = job.seq
    · subst here
      rw [if_pos rfl, replaces.job?_self, replaces.found]
      rfl
    · rw [if_neg here, replaces.job?_ne fun both => here both.2]
  case workers => exact replaces.workers
  case others => exact replaces.others
  case own => exact own
  case stays => exact fun number turned => replaces.seq_next turned
  case tells => exact fun told event count turned => (replaces.tells told event count turned).1

/-- A worker that tells the next listener, or is done, leaves the listeners as they are. -/
theorem listeners_tellNext (board : Board π ℓ) (worker : Nat) (jobType : String) (job : Job)
    (event : Event) (told : Nat) :
    (board.tellNext worker jobType job event told).listeners = board.listeners := by
  unfold tellNext
  split <;> rfl

/-- What a worker does when it tells the next listener, or is done, has to do with one job. -/
theorem tellingNext_cases (board : Board π ℓ) (job : Job) (event : Event) (told : Nat) :
    board.tellingNext job event told = .notifying job event told ∨
      board.tellingNext job event told = .idle := by
  unfold tellingNext
  split
  · exact Or.inl rfl
  · exact Or.inr rfl

section Operations

variable {board : Board π ℓ} (sound : board.Sound) {worker : Nat} {jobType : String} {job : Job}
include sound

/-- A worker that takes a job advances it. -/
theorem advance_take (now : Micros) (start : Job → π) {rest : List Nat}
    (idle : board.Does worker jobType .idle)
    (line : (board.lane jobType).waiting = job.seq :: rest)
    (found : board.job? jobType job.seq = some job) :
    board.Advance (board.take now worker start) jobType worker job
      { job with processedOn := some now }
      (.handling job.seq (start { job with processedOn := some now })) := by
  refine (sound.replaces_take idle line found now start).advance (sound.take now worker start) ?_
    rfl fun activity does => ?_
  · rw [take_eq board idle line found]
    rfl
  · rw [(does.unique idle).2]
    exact Or.inl rfl

/-- A handler that goes on advances its job. -/
theorem advance_goOn {progress : π} (does : board.Does worker jobType (.handling job.seq progress))
    (found : board.job? jobType job.seq = some job) (next : π) (notes : Fields) :
    board.Advance (board.goOn worker next notes) jobType worker job (job.noteAll notes)
      (.handling job.seq next) := by
  refine (sound.replaces_goOn does found next notes).advance (sound.goOn worker next notes) ?_
    (by rw [Job.noteAll_eq]) fun activity other => ?_
  · rw [goOn_eq board does]
    rfl
  · rw [(other.unique does).2]
    exact Or.inr rfl

/-- The end of a handler advances its job. -/
theorem advance_finish {progress : π}
    (does : board.Does worker jobType (.handling job.seq progress))
    (found : board.job? jobType job.seq = some job) (now : Micros)
    {outcome : Except Failure Value} (alive : outcome ≠ .error .cancelled) :
    board.Advance (board.finish now worker outcome) jobType worker job (ended job now outcome)
      (board.tellingNext (ended job now outcome) (eventOf outcome) 0) := by
  refine (sound.replaces_finish does found now alive).advance (sound.finish now worker outcome) ?_
    (by cases outcome <;> rfl) fun activity other => ?_
  · rw [finish_eq board does found now alive, listeners_tellNext]
    rfl
  · rw [(other.unique does).2]
    exact Or.inr rfl

/-- A worker that drops what it is busy with leaves the job as it is. -/
theorem advance_drop {after : Board π ℓ} {activity next : Activity π} (kept : after.Sound)
    (created : after.created = board.created) (listeners : after.listeners = board.listeners)
    (lanes : ∀ other, (after.lane other).jobs = (board.lane other).jobs)
    (workers : ∀ index : Nat, after.workers[index]? =
      if index = worker then some { jobType, activity := next } else board.workers[index]?)
    (does : board.Does worker jobType activity) (busy : activity.seq? = some job.seq)
    (only : ∀ found, board.job? jobType job.seq = some found → found = job)
    (turns : next = .idle ∨ next = .gone ∨ ∃ event told, next = .notifying job event told) :
    board.Advance after jobType worker job job next := by
  constructor
  case sound => exact kept
  case created => exact created
  case listeners => exact listeners
  case same => exact ⟨rfl, rfl, rfl, rfl, rfl⟩
  case jobs =>
    intro seq
    have same : after.job? jobType seq = board.job? jobType seq := by
      rw [Board.job?, Lane.job?, lanes]
      rfl
    rw [same]
    split
    · next own =>
      cases found : board.job? jobType seq with
      | none => rfl
      | some other =>
        rw [Option.map_some, only other (own ▸ found)]
    · rfl
  case workers => exact workers
  case others =>
    exact fun index different other => different (sound.alone _ _ _ _ other ⟨_, does, busy⟩)
  case own =>
    intro other doing
    rw [(doing.unique does).2]
    exact Or.inr busy
  case stays =>
    intro seq turned
    rcases turns with rfl | rfl | ⟨event, told, rfl⟩ <;> cases turned
    rfl
  case tells =>
    intro told event count turned
    rcases turns with rfl | rfl | ⟨other, told, rfl⟩ <;> cases turned
    rfl

/-- The only job that can stand under the number of a job of which a listener is told. -/
theorem Sound.only_told {event : Event} {told : Nat}
    (does : board.Does worker jobType (.notifying job event told)) (found : Job) :
    board.job? jobType job.seq = some found → found = job :=
  (sound.told _ _ _ _ _ does).2.2.2 found

/-- A worker that has told a listener leaves the job as it is. -/
theorem advance_notified {event : Event} {told : Nat}
    (does : board.Does worker jobType (.notifying job event told))
    {outcome : Except Failure Unit} (alive : outcome ≠ .error .cancelled) :
    board.Advance (board.notified worker outcome) jobType worker job job
      (board.tellingNext job event (told + 1)) := by
  have telling : board.notified worker outcome =
      board.tellNext worker jobType job event (told + 1) := by
    unfold notified
    rw [does]
    simp only
  have lanes := board.lane_tellNext worker jobType job event (told + 1)
  refine advance_drop sound (sound.notified worker outcome) (by rw [telling, created_tellNext])
    (by rw [telling, listeners_tellNext]) (fun other => by rw [telling]; exact (lanes other).1)
    (fun index => by rw [telling]; exact workers_tellNext board does job event (told + 1) index)
    does rfl (sound.only_told does) ?_
  rcases board.tellingNext_cases job event (told + 1) with next | idle
  · exact Or.inr (Or.inr ⟨_, _, next⟩)
  · exact Or.inl idle

/-- A worker that goes for good leaves the job that it was busy with as it is. -/
theorem advance_kill {activity : Activity π} (does : board.Does worker jobType activity)
    (busy : activity.seq? = some job.seq)
    (only : ∀ found, board.job? jobType job.seq = some found → found = job) :
    board.Advance (board.kill worker) jobType worker job job .gone := by
  have listeners : (board.kill worker).listeners = board.listeners := by
    unfold kill
    split <;> rfl
  refine advance_drop sound (sound.kill worker) (created_kill board worker) listeners
    (fun other => (lane_kill board worker other).1) (fun index => ?_) does busy only
    (Or.inr (Or.inl rfl))
  rw [workers_kill]
  split
  · next own =>
    rw [own, does]
    rfl
  · rfl

end Operations

/-! ## Boards that grow and shed -/

/-- A board that has lost nothing but jobs that had ended. -/
structure Sheds (board after : Board π ℓ) : Prop where
  /-- The board is sound. -/
  sound : after.Sound
  /-- No job is created. -/
  created : after.created = board.created
  /-- The listeners stay as they are. -/
  listeners : after.listeners = board.listeners
  /-- The workers go on with what they are doing. -/
  workers : after.workers = board.workers
  /-- A job stays as it is, or has ended and leaves. -/
  jobs : ∀ jobType seq, after.job? jobType seq = board.job? jobType seq ∨
    ∃ job, board.job? jobType seq = some job ∧ job.isTerminal = true ∧
      after.job? jobType seq = none

section Sheds

variable {board after : Board π ℓ}

/-- A board of which some lanes were pruned sheds jobs. -/
theorem Sheds.of_prune (sound : board.Sound) (created : after.created = board.created)
    (listeners : after.listeners = board.listeners) (workers : after.workers = board.workers)
    (lanes : ∀ jobType, after.lane jobType = board.lane jobType ∨
      ∃ cutoff, after.lane jobType = (board.lane jobType).prune cutoff) : board.Sheds after := by
  refine ⟨sound.of_prune lanes created workers, created, listeners, workers, fun jobType seq => ?_⟩
  rcases lanes jobType with same | ⟨cutoff, pruned⟩
  · exact Or.inl (by rw [Board.job?, same, Board.job?])
  · rw [Board.job?, pruned]
    exact job?_prune sound jobType cutoff seq

/-- Forgetting old jobs sheds them. -/
theorem sheds_forget (sound : board.Sound) (now : Micros) (jobType : String) :
    board.Sheds (board.forget now jobType) := by
  unfold forget
  split
  · refine .of_prune sound (created_prune _ _ _) ?_ (workers_prune _ _ _) fun other => ?_
    · unfold Board.prune
      split <;> rfl
    · rw [lane_prune]
      split
      · exact Or.inr ⟨_, rfl⟩
      · exact Or.inl rfl
  · exact ⟨sound, rfl, rfl, rfl, fun _ _ => Or.inl rfl⟩

/-- A job that is forgotten has ended, and the retention is over. -/
theorem forgotten (sound : board.Sound) {now : Micros} {kind jobType : String} {seq : Nat}
    {job : Job} (found : board.job? jobType seq = some job)
    (gone : (board.forget now kind).job? jobType seq = none) : ∃ ended span,
      job.finishedOn = some ended ∧ board.retention = some span ∧ ended + span ≤ now := by
  unfold forget at gone
  cases retention : board.retention with
  | none =>
    rw [retention] at gone
    cases found.symm.trans gone
  | some span =>
    rw [retention, Board.job?, lane_prune] at gone
    split at gone
    · cases stays : Lane.stays (some (now - span)) job with
      | true => cases (Lane.job?_prune (sound.ordered jobType) found stays).symm.trans gone
      | false =>
        unfold Lane.stays at stays
        cases finished : job.finishedOn with
        | none =>
          rw [finished] at stays
          cases stays
        | some ended =>
          simp only [finished, decide_eq_false_iff_not] at stays
          exact ⟨ended, span, rfl, rfl, Int.add_le_of_le_sub_right (Int.not_lt.mp stays)⟩
    · cases found.symm.trans gone

/-- Cleaning sheds jobs. -/
theorem sheds_clean (sound : board.Sound) (now : Micros) (olderThan : Option Micros) :
    board.Sheds (board.clean now olderThan).2 :=
  .of_prune sound rfl rfl rfl fun _ => Or.inr ⟨_, lane_clean _ _ _ _⟩

variable (sound : board.Sound) (now : Micros) (jobType fingerprint : String) (payload : Fields)
include sound

/-- A job that is on a board to which one was added is that one or was there before. -/
theorem found_add {other : String} {seq : Nat} {job : Job}
    (found : (board.add now jobType fingerprint payload).2.job? other seq = some job) :
    board.job? other seq = some job ∨ job = (board.add now jobType fingerprint payload).1 := by
  rcases Nat.lt_or_ge board.created seq with newer | old
  · obtain ⟨member, rfl⟩ := Lane.mem_of_job? found
    rw [lane_add] at member
    split at member
    · next same =>
      rcases List.mem_append.mp member with before | last
      · have below := (sound.placed _ _ before).2.2.2
        omega
      · exact Or.inr (List.mem_singleton.mp last)
    · have below := (sound.placed _ _ member).2.2.2
      omega
  · rw [job?_add _ _ _ _ _ _ _ old] at found
    exact Or.inl found

/-- A job that was added to a board is there. -/
theorem job?_add_self : (board.add now jobType fingerprint payload).2.job? jobType
    (board.created + 1) = some (board.add now jobType fingerprint payload).1 := by
  have member : (board.add now jobType fingerprint payload).1 ∈
      ((board.add now jobType fingerprint payload).2.lane jobType).jobs := by
    rw [lane_add, if_pos rfl]
    exact List.mem_append_right _ List.mem_cons_self
  exact (sound.add now jobType fingerprint payload).job?_of_mem member

end Sheds

end QuestionDesk.Jobs.Board
