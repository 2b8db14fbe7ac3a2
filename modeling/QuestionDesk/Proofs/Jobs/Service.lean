import QuestionDesk.Proofs.Jobs.Lives
import QuestionDesk.Proofs.Jobs.Staff

/-!
# The service of a type

From the registration of a type on no more of its jobs are in hand than workers were engaged, no
worker idles while a job waits, and whoever waits until nothing of the type is unfinished finds that
every job created before was told to all listeners or cut off. Nothing of this depends on what is
done for other types.
-/
namespace QuestionDesk.Jobs

variable {π ℓ : Type}

namespace Floor

/-! ## A busy worker at a step -/

/-- In a step whoever is busy with the job of a number is cut off. -/
inductive CutsOff (floor : Floor π ℓ) (step : Step π ℓ) (worker : Nat) (jobType : String)
    (seq : Nat) : Prop where
  /-- The worker is sent away, alone or with all others. -/
  | dismissed (busy : floor.board.Busy worker jobType seq)
    (away : step = .kill worker ∨ step = .close)
  /-- The handler raises a cancellation. -/
  | handler {progress : π} (does : floor.board.Does worker jobType (.handling seq progress))
    (raises : step = .finish worker (.error .cancelled))
  /-- A listener raises a cancellation. -/
  | listener {job : Job} {event : Event} {told : Nat} (number : job.seq = seq)
    (does : floor.board.Does worker jobType (.notifying job event told))
    (raises : step = .notified worker (.error .cancelled))

/-- In a step a listener that a worker tells about the job of a number returns or fails. -/
def Tells (floor : Floor π ℓ) (step : Step π ℓ) (worker : Nat) (jobType : String) (seq : Nat)
    (event : Event) (index : Nat) : Prop :=
  ∃ job outcome, job.seq = seq ∧ floor.board.Does worker jobType (.notifying job event index) ∧
    step = .notified worker outcome ∧ outcome ≠ .error .cancelled

variable {floor : Floor π ℓ} {step : Step π ℓ} {worker : Nat}

/-- A worker goes on in steps in which it does nothing and not all are sent away, but for the notes
of the job about which it tells listeners. -/
theorem goes_on (sound : floor.board.Sound) (others : step.actor? ≠ some worker)
    (open_ : step ≠ .close) {one : Worker π} (found : floor.board.workers[worker]? = some one) :
    (floor.step step).board.workers[worker]? = some one ∨ ∃ jobType seq change,
      (floor.step step).board.workers[worker]? = some (one.revised jobType seq change) := by
  have more : ∀ {after : List (Worker π)} (fresh : List (Worker π)),
      after = floor.board.workers ++ fresh → after[worker]? = some one := by
    intro after fresh same
    rw [same, List.getElem?_append_left (List.getElem?_eq_some_iff.mp found).1, found]
  cases actor : step.actor? with
  | some own =>
    rcases acted sound actor with ⟨same, -⟩ | ⟨kind, old, next, turned⟩
    · exact Or.inl (same ▸ found)
    · have apart : worker ≠ own := fun same => others (same ▸ actor)
      exact Or.inl ((turned.workers worker).trans ((if_neg apart).trans found))
  | none =>
    cases step with
    | create kind fingerprint payload skipsSearch =>
      exact Or.inl ((congrArg (·[worker]?) (floor.board.workers_create _ _ _ _ _)).trans found)
    | know kind =>
      refine Or.inl (more [] ?_)
      simp only [Floor.step, Board.ready, List.append_nil]
      split <;> rfl
    | register kind concurrency =>
      left
      simp only [Floor.step]
      split
      · next engaged => exact more _ (Board.register_eq engaged).2.2.2.2
      · exact found
    | reinforce kind count => exact Or.inl (more _ rfl)
    | revise kind seq change =>
      refine Or.inr ⟨kind, seq, change, ?_⟩
      exact (List.getElem?_map ..).trans (congrArg (Option.map _) found)
    | close => exact absurd rfl open_
    | subscribe event listener | clean olderThan | pass span => exact Or.inl found
    | _ => cases actor

/-- What becomes of a worker that handles a job: it goes on, the handler ends and the worker turns
to the listeners, or it is cut off. -/
theorem next_of_handling (sound : floor.board.Sound) {jobType : String} {seq : Nat} {progress : π}
    (does : floor.board.Does worker jobType (.handling seq progress)) :
    (∃ next, (floor.step step).board.Does worker jobType (.handling seq next)) ∨
      (∃ job outcome, job.seq = seq ∧ floor.Ends step worker jobType seq outcome ∧
        (floor.step step).board.Does worker jobType
          (floor.board.tellingNext job (Board.eventOf outcome) 0)) ∨
        floor.CutsOff step worker jobType seq := by
  by_cases actor : step.actor? = some worker
  · cases step with
    | take own start =>
      cases actor
      refine Or.inl ⟨progress, ?_⟩
      rw [Floor.step, Board.take, does]
      exact does
    | goOn own next notes =>
      cases actor
      refine Or.inl ⟨next, ?_⟩
      rw [Floor.step, Board.goOn_eq _ does, Board.Does, Board.workers_advanced _ does, if_pos rfl]
    | finish own outcome =>
      cases actor
      by_cases alive : outcome = .error .cancelled
      · subst alive
        exact Or.inr (Or.inr (.handler does rfl))
      · obtain ⟨job, found, -⟩ := sound.handled _ _ _ _ does
        obtain ⟨-, rfl⟩ := Lane.mem_of_job? found
        refine Or.inr (Or.inl ⟨Board.ended job floor.now outcome, outcome,
          (Board.ended_same job floor.now outcome).1, ⟨rfl, alive, progress, does⟩, ?_⟩)
        exact (Board.advance_finish sound does found floor.now alive).does
    | notified own outcome =>
      cases actor
      refine Or.inl ⟨progress, ?_⟩
      rw [Floor.step, Board.notified, does]
      exact does
    | kill own =>
      cases actor
      exact Or.inr (Or.inr (.dismissed ⟨_, does, rfl⟩ (Or.inl rfl)))
    | _ => cases actor
  · by_cases away : step = .close
    · exact Or.inr (Or.inr (.dismissed ⟨_, does, rfl⟩ (Or.inr away)))
    · rcases goes_on sound actor away does with same | ⟨kind, number, change, same⟩
      · exact Or.inl ⟨progress, same⟩
      · exact Or.inl ⟨progress, same⟩

/-- What becomes of a worker that tells a listener about a job: it goes on, the listener returns or
fails and the worker turns to the next one, or it is cut off. -/
theorem next_of_telling (sound : floor.board.Sound) {jobType : String} {job : Job} {event : Event}
    {told : Nat} (does : floor.board.Does worker jobType (.notifying job event told)) :
    (∃ same, same.seq = job.seq ∧
      (floor.step step).board.Does worker jobType (.notifying same event told)) ∨
      (floor.Tells step worker jobType job.seq event told ∧
        (floor.step step).board.Does worker jobType
          (floor.board.tellingNext job event (told + 1))) ∨
        floor.CutsOff step worker jobType job.seq := by
  by_cases actor : step.actor? = some worker
  · cases step with
    | take own start =>
      cases actor
      refine Or.inl ⟨job, rfl, ?_⟩
      rw [Floor.step, Board.take, does]
      exact does
    | goOn own next notes =>
      cases actor
      refine Or.inl ⟨job, rfl, ?_⟩
      rw [Floor.step, Board.goOn, does]
      exact does
    | finish own outcome =>
      cases actor
      refine Or.inl ⟨job, rfl, ?_⟩
      rw [Floor.step, Board.finish, does]
      exact does
    | notified own outcome =>
      cases actor
      by_cases alive : outcome = .error .cancelled
      · subst alive
        exact Or.inr (Or.inr (.listener rfl does rfl))
      · refine Or.inr (Or.inl ⟨⟨job, outcome, rfl, does, rfl, alive⟩, ?_⟩)
        exact (Board.advance_notified sound does alive).does
    | kill own =>
      cases actor
      exact Or.inr (Or.inr (.dismissed ⟨_, does, rfl⟩ (Or.inl rfl)))
    | _ => cases actor
  · by_cases away : step = .close
    · exact Or.inr (Or.inr (.dismissed ⟨_, does, rfl⟩ (Or.inr away)))
    · rcases goes_on sound actor away does with same | ⟨kind, number, change, same⟩
      · exact Or.inl ⟨job, rfl, same⟩
      · simp only [Worker.revised] at same
        split at same
        · exact Or.inl ⟨job.revised change, rfl, same⟩
        · exact Or.inl ⟨job, rfl, same⟩

end Floor

/-- Workers are engaged only for types that nobody serves, and at least one. -/
theorem Board.staff_of_register {board after : Board π ℓ} {jobType : String} {concurrency : Int}
    (accepted : board.register jobType concurrency = .ok after) :
    0 < concurrency.toNat ∧ board.staff jobType = [] := by
  unfold Board.register at accepted
  split at accepted
  · cases accepted
  · next enough =>
    split at accepted
    · cases accepted
    · next free =>
      refine ⟨by omega, List.filter_eq_nil_iff.mpr (List.any_eq_false.mp ?_)⟩
      exact Bool.not_eq_true _ ▸ free

namespace Chronicle

/-! ## Engagements -/

/-- In the step after some steps workers are engaged for a type, which nobody served. -/
def Engages (chronicle : Chronicle π ℓ) (count : Nat) (jobType : String) (limit : Nat) : Prop :=
  chronicle.steps count = .register jobType limit ∧
    ∃ staffed, (chronicle.board count).register jobType limit = .ok staffed

/-- Between two moments nobody sends all workers away, and nobody comes to a type beside workers that
a close is still waiting for. -/
def Open (chronicle : Chronicle π ℓ) (jobType : String) (earlier later : Nat) : Prop :=
  ∀ count, earlier < count → count < later → chronicle.steps count ≠ .close ∧
    ∀ more, chronicle.steps count ≠ .reinforce jobType more

/-- How many workers for jobs of a type were lost in some steps. -/
def lost (chronicle : Chronicle π ℓ) (jobType : String) : Nat → Nat
  | 0 => 0
  | count + 1 => lost chronicle jobType count +
      (chronicle.floor count).losses jobType (chronicle.steps count)

variable {chronicle : Chronicle π ℓ} {jobType : String} {seq limit registered later : Nat}

/-- A type for which workers are engaged has as many as were asked for, at least one, until all are
sent away, and all of them are there but those that were lost since. -/
theorem Engages.staff (engages : chronicle.Engages registered jobType limit)
    (since : registered < later) (open_ : chronicle.Open jobType registered later) :
    0 < limit ∧ ((chronicle.board later).staff jobType).length = limit ∧
      (chronicle.board later).live jobType + chronicle.lost jobType later =
        limit + chronicle.lost jobType registered := by
  obtain ⟨asks, staffed, accepted⟩ := engages
  obtain ⟨some, free⟩ := Board.staff_of_register accepted
  rw [Int.toNat_natCast] at some
  have step : ∀ count, (chronicle.floor count).Staffs (chronicle.steps count) jobType :=
    fun count => Floor.staffs (chronicle.sound count) (chronicle.steps count) jobType
  refine ⟨some, ?_⟩
  -- Those who are there and those lost since the registration are as many as were asked for.
  induction since with
  | refl =>
    obtain ⟨live, engaged⟩ := step registered
    have arrivals : (chronicle.floor registered).arrivals jobType (chronicle.steps registered) =
        limit := by
      rw [asks]
      simp only [Floor.arrivals, accepted, if_true, Int.toNat_natCast]
    have none : (chronicle.board registered).live jobType = 0 := by rw [Board.live, free]; rfl
    rw [arrivals, none] at live
    rw [arrivals, free] at engaged
    have all := engaged (by simp [asks])
    refine ⟨all.trans (Nat.zero_add limit), ?_⟩
    change ((chronicle.floor registered).step _).board.live jobType + (_ + _) = _
    omega
  | @step count since ih =>
    obtain ⟨all, present⟩ := ih fun between after before =>
      open_ between after (Nat.lt_succ_of_lt before)
    obtain ⟨away, beside⟩ := open_ count since (Nat.lt_succ_self count)
    obtain ⟨live, engaged⟩ := step count
    -- A type that has workers is not registered again, and nobody reinforces it here.
    have nobody : (chronicle.floor count).arrivals jobType (chronicle.steps count) = 0 := by
      cases here : chronicle.steps count with
      | register kind concurrency =>
        simp only [Floor.arrivals]
        split
        · next more again =>
          refine if_neg fun mine => ?_
          subst mine
          rw [(Board.staff_of_register again).2] at all
          exact absurd all (Nat.ne_of_lt some)
        · rfl
      | reinforce kind more =>
        refine if_neg fun mine => ?_
        subst mine
        exact beside more here
      | _ => rfl
    rw [nobody] at live engaged
    refine ⟨(engaged away).trans all, ?_⟩
    change ((chronicle.floor count).step _).board.live jobType + (_ + _) = _
    change (chronicle.floor count).board.live jobType + _ = _ at present
    omega

/-! ## Standings -/

/-- In the step after some steps whoever is busy with the job of a number is cut off. -/
def CutsOff (chronicle : Chronicle π ℓ) (count worker : Nat) (jobType : String) (seq : Nat) : Prop :=
  (chronicle.floor count).CutsOff (chronicle.steps count) worker jobType seq

/-- In the step after some steps a listener that a worker tells about the job of a number returns or
fails. -/
def Tells (chronicle : Chronicle π ℓ) (count worker : Nat) (jobType : String) (seq : Nat)
    (event : Event) (index : Nat) : Prop :=
  (chronicle.floor count).Tells (chronicle.steps count) worker jobType seq event index

/-- By a moment the job of a number has ended, all listeners of the event that ended it have been
told about it, each of which returned or failed, and the worker was free then. -/
structure Heard (chronicle : Chronicle π ℓ) (moment : Nat) (jobType : String) (seq worker : Nat)
    (outcome : Except Failure Value) (ended left : Nat) : Prop where
  /-- The handler returned or failed. -/
  ends : chronicle.Ends ended worker jobType seq outcome
  /-- The worker was done then, or later. -/
  order : ended ≤ left
  /-- The moment came after that. -/
  past : left < moment
  /-- Every listener was told in between. -/
  told : ∀ index < ((chronicle.board left).audience (Board.eventOf outcome)).length,
    ∃ count, ended < count ∧ count ≤ left ∧
      chronicle.Tells count worker jobType seq (Board.eventOf outcome) index
  /-- The worker was free for the next job. -/
  free : (chronicle.board (left + 1)).Does worker jobType .idle

/-- How a job of a type that was created stands at a moment. -/
inductive Standing (chronicle : Chronicle π ℓ) (jobType : String) (seq moment : Nat) : Prop where
  /-- It waits. -/
  | waits (inLine : seq ∈ ((chronicle.board moment).lane jobType).waiting)
  /-- It is handled. -/
  | handled {worker : Nat} {progress : π}
    (does : (chronicle.board moment).Does worker jobType (.handling seq progress))
  /-- It has ended, and some listeners have been told. -/
  | telling {worker ended told : Nat} {job : Job} {outcome : Except Failure Value}
    (number : job.seq = seq)
    (does : (chronicle.board moment).Does worker jobType
      (.notifying job (Board.eventOf outcome) told))
    (ends : chronicle.Ends ended worker jobType seq outcome) (past : ended < moment)
    (before : ∀ index < told, ∃ count, ended < count ∧ count < moment ∧
      chronicle.Tells count worker jobType seq (Board.eventOf outcome) index)
  /-- All listeners have been told. -/
  | heard {worker ended left : Nat} {outcome : Except Failure Value}
    (heard : chronicle.Heard moment jobType seq worker outcome ended left)
  /-- It was cut off in the hands of a worker. -/
  | cutOff {count worker : Nat} (past : count < moment)
    (cuts : chronicle.CutsOff count worker jobType seq)

/-- What was heard by a moment was heard by the next one. -/
theorem Heard.mono {moment worker ended left : Nat} {outcome : Except Failure Value}
    (heard : chronicle.Heard moment jobType seq worker outcome ended left) {after : Nat}
    (order : moment ≤ after) : chronicle.Heard after jobType seq worker outcome ended left :=
  { heard with past := Nat.lt_of_lt_of_le heard.past order }

/-- A job whose handler has returned or failed has ended, and stays so for whoever has it. -/
theorem Ends.terminal {ended worker moment : Nat} {outcome : Except Failure Value}
    (ends : chronicle.Ends ended worker jobType seq outcome) (past : ended < moment) :
    ∃ job, chronicle.seen? jobType seq moment = some job ∧ job.isTerminal = true := by
  obtain ⟨job, -, -, sees⟩ := ends.seen
  obtain ⟨seen, here, -, alike⟩ := seen_later (Nat.succ_le_of_lt past) sees
  have terminal := Board.isTerminal_ended job (chronicle.floor ended).now outcome
  exact ⟨seen, here, (alike terminal).isTerminal.trans terminal⟩

/-- A worker that has turned to the listeners goes on to the next one, or has told all of them. -/
theorem standing_of_turned {moment worker ended told : Nat} {job : Job}
    {outcome : Except Failure Value} (number : job.seq = seq)
    (does : (chronicle.board (moment + 1)).Does worker jobType
      ((chronicle.board moment).tellingNext job (Board.eventOf outcome) told))
    (ends : chronicle.Ends ended worker jobType seq outcome) (past : ended ≤ moment)
    (before : ∀ index < told, ∃ count, ended < count ∧ count ≤ moment ∧
      chronicle.Tells count worker jobType seq (Board.eventOf outcome) index) :
    chronicle.Standing jobType seq (moment + 1) := by
  unfold Board.tellingNext at does
  split at does
  · refine .telling number does ends (Nat.lt_succ_of_le past) fun index below => ?_
    obtain ⟨count, after, within, tells⟩ := before index below
    exact ⟨count, after, Nat.lt_succ_of_le within, tells⟩
  · next all =>
    exact .heard ⟨ends, past, Nat.lt_succ_self moment, fun index below =>
      before index (Nat.lt_of_lt_of_le below (Nat.le_of_not_lt all)), does⟩

/-- How a job stands after a step follows from how it stood before. -/
theorem Standing.next {moment : Nat} (standing : chronicle.Standing jobType seq moment) :
    chronicle.Standing jobType seq (moment + 1) := by
  have sound := chronicle.sound moment
  cases standing with
  | waits inLine =>
    by_cases taken : ∃ worker, chronicle.Starts moment worker jobType seq
    · obtain ⟨worker, ⟨progress, handles⟩, -⟩ := taken
      exact .handled handles
    · obtain ⟨job, found, pending⟩ := sound.pending_of_waiting inLine
      obtain ⟨still, here, alike⟩ := Floor.waits_on sound found pending fun worker starts =>
        taken ⟨worker, starts⟩
      exact .waits ((chronicle.sound (moment + 1)).waiting_of_pending here
        (alike.status.trans pending))
  | handled does =>
    rcases Floor.next_of_handling sound does with
      ⟨next, goesOn⟩ | ⟨job, outcome, number, ends, turns⟩ | cuts
    · exact .handled goesOn
    · exact standing_of_turned number turns ends (Nat.le_refl moment) nofun
    · exact .cutOff (Nat.lt_succ_self moment) cuts
  | @telling worker ended told job outcome number does ends past before =>
    subst number
    rcases Floor.next_of_telling sound does with
      ⟨same, number, goesOn⟩ | ⟨tells, turns⟩ | cuts
    · refine .telling number goesOn ends (Nat.lt_succ_of_lt past) fun index below => ?_
      obtain ⟨count, after, within, told⟩ := before index below
      exact ⟨count, after, Nat.lt_succ_of_lt within, told⟩
    · refine standing_of_turned rfl turns ends (Nat.le_of_lt past) fun index below => ?_
      rcases Nat.lt_succ_iff_lt_or_eq.mp below with earlier | rfl
      · obtain ⟨count, after, within, told⟩ := before index earlier
        exact ⟨count, after, Nat.le_of_lt within, told⟩
      · exact ⟨moment, past, Nat.le_refl moment, tells⟩
    · exact .cutOff (Nat.lt_succ_self moment) cuts
  | heard heard => exact .heard (heard.mono (Nat.le_succ moment))
  | cutOff past cuts => exact .cutOff (Nat.lt_succ_of_lt past) cuts

/-- From its creation on a job waits, is in hand, was heard or was cut off. -/
theorem Creates.standing {created moment : Nat} {job : Job} (creates : chronicle.Creates created job)
    (since : created < moment) : chronicle.Standing job.jobType job.seq moment := by
  induction since with
  | refl =>
    obtain ⟨-, -, pending, found⟩ := Floor.created?_facts (chronicle.sound created) creates
    exact .waits ((chronicle.sound (created + 1)).waiting_of_pending found pending)
  | step since ih => exact ih.next

/-! ## Service -/

/-- No worker for jobs of a type would take one, wherever handlers start. -/
def Quiet (chronicle : Chronicle π ℓ) (count : Nat) (start : Job → π) (jobType : String) : Prop :=
  ∀ worker activity, (chronicle.board count).Does worker jobType activity →
    ((chronicle.floor count).step (.take worker start)).board = chronicle.board count

/-- Somebody waits from one moment until another one for the jobs of a type: there was a moment in
between at which none was unfinished. -/
def Joins (chronicle : Chronicle π ℓ) (jobType : String) (called returned : Nat) : Prop :=
  ∃ done, called ≤ done ∧ done ≤ returned ∧ (chronicle.board done).isDone jobType = true

/-- How the jobs of a type are served. -/
structure Serves (chronicle : Chronicle π ℓ) (jobType : String) : Prop where
  /-- In hand is what a worker handles or tells listeners about. -/
  inHand : ∀ count seq, seq ∈ (chronicle.board count).inHand jobType ↔
    ∃ worker, (chronicle.board count).Busy worker jobType seq
  /-- No job is in hand twice. -/
  alone : ∀ count, ((chronicle.board count).inHand jobType).Nodup
  /-- From the engagement of workers until all are sent away there are never more jobs in hand than
  workers were asked for. -/
  bounded : ∀ registered limit, chronicle.Engages registered jobType limit → ∀ count,
    registered < count → chronicle.Open jobType registered count →
      ((chronicle.board count).inHand jobType).length ≤ limit
  /-- Where jobs wait, and still no worker would take one, every worker that is not gone is busy. -/
  busy : ∀ count start, chronicle.Quiet count start jobType →
    ((chronicle.board count).lane jobType).waiting ≠ [] →
      ∀ worker activity, (chronicle.board count).Does worker jobType activity → activity ≠ .gone →
        ∃ seq, (chronicle.board count).Busy worker jobType seq
  /-- Unfinished is what waits and what is in hand. -/
  unfinished : ∀ count, ((chronicle.board count).lane jobType).unfinished =
    ((chronicle.board count).lane jobType).waiting.length +
      ((chronicle.board count).inHand jobType).length
  /-- Whoever has waited for the jobs of the type finds that each job created before has ended and
  all listeners were told, or that it was cut off while a worker was busy with it. -/
  joined : ∀ called returned, chronicle.Joins jobType called returned → ∀ created job,
    chronicle.Creates created job → job.jobType = jobType → created < called →
      (∃ worker outcome ended left,
        chronicle.Heard returned jobType job.seq worker outcome ended left ∧
          ∃ seen, chronicle.seen? jobType job.seq returned = some seen ∧ seen.isTerminal = true) ∨
        ∃ count worker, count < returned ∧ chronicle.CutsOff count worker jobType job.seq
  /-- Whatever is done for other types leaves what waits, what is unfinished and what the workers of
  the type do. -/
  apart : ∀ earlier later, earlier ≤ later →
    (∀ count, earlier ≤ count → count < later →
      (chronicle.floor count).Elsewhere jobType (chronicle.steps count)) →
      (chronicle.board later).lane jobType = (chronicle.board earlier).lane jobType ∧
        (chronicle.board later).staff jobType = (chronicle.board earlier).staff jobType

/-- An idle worker takes a job if one waits. -/
theorem take_ne {board : Board π ℓ} (sound : board.Sound) (now : Micros) (start : Job → π)
    {worker : Nat} (idle : board.Does worker jobType .idle)
    (waits : (board.lane jobType).waiting ≠ []) : board.take now worker start ≠ board := by
  intro same
  obtain ⟨seq, rest, line⟩ := List.exists_cons_of_ne_nil waits
  obtain ⟨job, found, -⟩ := sound.pending_of_waiting (line ▸ List.mem_cons_self)
  obtain ⟨-, rfl⟩ := Lane.mem_of_job? found
  have handles := (Board.advance_take sound now start idle line found).does
  rw [same] at handles
  cases (idle.unique handles).2

/-- Where nothing of a type is unfinished, every job of the type that was created was heard or cut
off. -/
theorem settled_of_isDone {done created : Nat} {job : Job} (creates : chronicle.Creates created job)
    (since : created < done) (isDone : (chronicle.board done).isDone job.jobType = true) :
    (∃ worker outcome ended left,
      chronicle.Heard done job.jobType job.seq worker outcome ended left) ∨
      ∃ count worker, count < done ∧ chronicle.CutsOff count worker job.jobType job.seq := by
  have none : ((chronicle.board done).lane job.jobType).unfinished = 0 := by
    simpa [Board.isDone] using isDone
  have balanced := chronicle.balanced done job.jobType
  have idle : ∀ worker, ¬(chronicle.board done).Busy worker job.jobType job.seq := by
    intro worker busy
    have := List.length_pos_of_mem (Board.mem_inHand.mpr ⟨worker, busy⟩)
    omega
  cases creates.standing since with
  | waits inLine =>
    have := List.length_pos_of_mem inLine
    omega
  | handled does => exact absurd ⟨_, does, rfl⟩ (idle _)
  | telling number does => exact absurd ⟨_, does, congrArg some number⟩ (idle _)
  | heard heard => exact Or.inl ⟨_, _, _, _, heard⟩
  | cutOff past cuts => exact Or.inr ⟨_, _, past, cuts⟩

/-- In every chronicle the jobs of every type are served so. -/
theorem types_are_served (chronicle : Chronicle π ℓ) (jobType : String) :
    chronicle.Serves jobType where
  inHand _ _ := Board.mem_inHand
  alone count := (chronicle.sound count).nodup_inHand jobType
  bounded := by
    intro registered limit engages count since open_
    obtain ⟨-, all, -⟩ := engages.staff since open_
    calc ((chronicle.board count).inHand jobType).length
        ≤ (chronicle.board count).live jobType := Board.length_inHand_le _ _
      _ ≤ ((chronicle.board count).staff jobType).length := List.countP_le_length
      _ = limit := all
  busy := by
    intro count start quiet waits worker activity does present
    cases activity with
    | idle => exact absurd (quiet worker _ does) (take_ne (chronicle.sound count) _ start does waits)
    | gone => exact absurd rfl present
    | handling seq progress => exact ⟨seq, _, does, rfl⟩
    | notifying job event told => exact ⟨job.seq, _, does, rfl⟩
  unfinished count := chronicle.balanced count jobType
  joined := by
    rintro called returned ⟨done, after, before, isDone⟩ created job creates rfl since
    rcases settled_of_isDone creates (Nat.lt_of_lt_of_le since after) isDone with
      ⟨worker, outcome, ended, left, heard⟩ | ⟨count, worker, past, cuts⟩
    · have still := heard.mono before
      exact Or.inl ⟨worker, outcome, ended, left, still,
        still.ends.terminal (Nat.lt_of_le_of_lt still.order still.past)⟩
    · exact Or.inr ⟨count, worker, Nat.lt_of_lt_of_le past before, cuts⟩
  apart := by
    intro earlier later order elsewhere
    induction order with
    | refl => exact ⟨rfl, rfl⟩
    | @step count order ih =>
      obtain ⟨lane, staff⟩ := ih fun between after before =>
        elsewhere between after (Nat.lt_succ_of_lt before)
      obtain ⟨same, kept⟩ := Floor.same_elsewhere (chronicle.sound count)
        (elsewhere count order (Nat.lt_succ_self count))
      exact ⟨same.trans lane, kept.trans staff⟩

/-- Jobs are asked for before anybody serves them; two workers come, one of which fails, tells a
listener that fails too, and takes the next job, while the other one is cut off; a job of another
type is held all the while. -/
def crowded : Chronicle Unit Unit :=
  .ofList none 0 [.create "ask" "a" [] false, .create "tell" "a" [] false, .create "ask" "b" [] false,
    .create "ask" "c" [] false, .subscribe .failed (), .register "tell" 1, .take 0 fun _ => (),
    .register "ask" 2, .take 1 fun _ => (), .take 2 fun _ => (), .finish 1 (.error .notFinite),
    .notified 1 (.error .notFinite), .finish 2 (.error .cancelled), .take 1 fun _ => (),
    .finish 1 (.ok .null)]

/-- There both workers are busy while the third job waits; once nothing is unfinished, the first job
was heard and the second one was cut off, though the job of the other type is still in hand. -/
theorem types_are_served_crowded : crowded.Engages 7 "ask" 2 ∧
    crowded.Quiet 10 (fun _ => ()) "ask" ∧ (crowded.board 10).inHand "ask" = [1, 3] ∧
      ((crowded.board 10).lane "ask").waiting = [4] ∧ ((crowded.board 10).lane "ask").unfinished = 3 ∧
        crowded.Joins "ask" 10 15 ∧ crowded.Heard 15 "ask" 1 1 (.error .notFinite) 10 11 ∧
          crowded.CutsOff 12 2 "ask" 3 ∧ (crowded.board 15).inHand "tell" = [2] ∧
            crowded.Serves "ask" := by
  have quiet : crowded.Quiet 10 (fun _ => ()) "ask" := by
    intro worker activity does
    have three : (crowded.board 10).workers.length = 3 := by decide +kernel
    have each : ∀ worker < 3, ((crowded.floor 10).step (.take worker fun _ => ())).board =
        crowded.board 10 := by decide +kernel
    exact each worker (three ▸ (List.getElem?_eq_some_iff.mp does).1)
  have heard : crowded.Heard 15 "ask" 1 1 (.error .notFinite) 10 11 := by
    refine ⟨⟨rfl, nofun, (), by decide +kernel⟩, by decide, by decide, fun index below => ?_,
      by decide +kernel⟩
    have one : ((crowded.board 11).audience (Board.eventOf (.error .notFinite))).length = 1 := by
      decide +kernel
    obtain rfl : index = 0 := by omega
    exact ⟨11, by decide, by decide, (((crowded.board 11).telling? 1).get (by decide +kernel)).2,
      .error .notFinite, by decide +kernel, by decide +kernel, rfl, nofun⟩
  have does : (crowded.board 12).Does 2 "ask" (.handling 3 ()) := by decide +kernel
  have cut : crowded.CutsOff 12 2 "ask" 3 := .handler does rfl
  refine ⟨⟨rfl, _, rfl⟩, quiet, by decide +kernel, by decide +kernel, by decide +kernel,
    ⟨15, by decide, by decide, by decide +kernel⟩, heard, cut, by decide +kernel,
    types_are_served crowded "ask"⟩

end Chronicle

end QuestionDesk.Jobs
