import QuestionDesk.Proofs.Jobs.Endurance

/-!
# Announcements

A job that has ended is announced once: the worker that handled it calls the listeners of the event
that ended it one after the other, in the order in which they subscribed, and each of them once,
whichever of them fail. Only then does the worker take another job. Whoever cuts the worker off cuts
the announcement short, and nobody takes it up again.
-/
namespace QuestionDesk.Jobs

variable {π ℓ : Type}

/-! ## Audiences -/

/-- In a step those who listen to an event stay in their places, and new ones come behind them. -/
theorem Floor.audience_step (floor : Floor π ℓ) (step : Step π ℓ) (event : Event) :
    floor.board.audience event <+: (floor.step step).board.audience event := by
  rw [Board.audience, Board.audience, floor.listeners_step step, List.filter_append,
    List.map_append]
  exact List.prefix_append _ _

namespace Chronicle

variable {chronicle : Chronicle π ℓ} {jobType : String} {seq count earlier later worker : Nat}

/-- Those who listen to an event stay in their places, and new ones come behind them. -/
theorem audience_mono (chronicle : Chronicle π ℓ) (event : Event) (order : earlier ≤ later) :
    (chronicle.board earlier).audience event <+: (chronicle.board later).audience event := by
  induction order with
  | refl => exact List.prefix_refl _
  | @step later order ih =>
    exact ih.trans ((chronicle.floor later).audience_step (chronicle.steps later) event)

end Chronicle

/-! ## One step -/

namespace Board

/-- A worker tells the listener at a place among those of an event about the job of a number. -/
def Telling (board : Board π ℓ) (worker : Nat) (jobType : String) (seq : Nat) (event : Event)
    (index : Nat) : Prop :=
  ∃ job, job.seq = seq ∧ board.Does worker jobType (.notifying job event index)

variable {board : Board π ℓ} {jobType : String} {seq worker index : Nat} {event : Event}

/-- Who tells a listener about a job is busy with the job. -/
theorem Telling.busy (telling : board.Telling worker jobType seq event index) :
    board.Busy worker jobType seq := by
  obtain ⟨job, rfl, does⟩ := telling
  exact ⟨_, does, rfl⟩

/-- One worker at a time tells one listener about a job. -/
theorem Sound.telling_unique (sound : board.Sound) {other place : Nat} {about : Event}
    (first : board.Telling worker jobType seq event index)
    (second : board.Telling other jobType seq about place) :
    worker = other ∧ event = about ∧ index = place := by
  obtain rfl := sound.alone _ _ _ _ first.busy second.busy
  obtain ⟨job, -, does⟩ := first
  obtain ⟨known, -, tells⟩ := second
  cases (does.unique tells).2
  exact ⟨rfl, rfl, rfl⟩

/-- The number of a job that a worker is busy with was given. -/
theorem Sound.given_of_busy (sound : board.Sound) (busy : board.Busy worker jobType seq) :
    seq ≤ board.created := by
  obtain ⟨activity, does, number⟩ := busy
  cases activity with
  | handling =>
    cases number
    obtain ⟨job, found, -⟩ := sound.handled _ _ _ _ does
    exact sound.seq_le found
  | notifying =>
    cases number
    exact (sound.told _ _ _ _ _ does).2.2.1
  | idle | gone => cases number

end Board

namespace Floor

variable {floor : Floor π ℓ} {step : Step π ℓ} {jobType : String} {seq worker index : Nat}
  {event : Event}

/-- In a step a worker calls the listener at a place among those of an event, about the job of a
number: it tells that listener after the step, and did not before. -/
def Calls (floor : Floor π ℓ) (step : Step π ℓ) (worker : Nat) (jobType : String) (seq : Nat)
    (event : Event) (index : Nat) : Prop :=
  (floor.step step).board.Telling worker jobType seq event index ∧
    ¬floor.board.Telling worker jobType seq event index

/-- A worker that is cut off in a step is not busy with the job after it. -/
theorem CutsOff.not_busy (cuts : floor.CutsOff step worker jobType seq) (kind : String)
    (number : Nat) : ¬(floor.step step).board.Busy worker kind number := by
  -- However it is cut off, it is gone, or nobody is there any more.
  have killed : (floor.step step).board = floor.board.kill worker →
      ¬(floor.step step).board.Busy worker kind number := by
    rintro same ⟨activity, does, number⟩
    rw [same, Board.Does, Board.workers_kill, if_pos rfl, Option.map_eq_some_iff] at does
    obtain ⟨other, -, gone⟩ := does
    cases gone
    cases number
  cases cuts with
  | dismissed busy away =>
    rcases away with rfl | rfl
    · exact killed rfl
    · rintro ⟨activity, does, -⟩
      cases does
  | handler does raises =>
    subst raises
    exact killed (floor.board.finish_cancelled does floor.now)
  | listener number does raises =>
    subst raises
    refine killed ?_
    rw [Floor.step, Board.notified, does]

/-- Who is cut off in a step was busy with the job. -/
theorem CutsOff.busy (cuts : floor.CutsOff step worker jobType seq) :
    floor.board.Busy worker jobType seq := by
  cases cuts with
  | dismissed busy away => exact busy
  | handler does raises => exact ⟨_, does, rfl⟩
  | listener number does raises => exact ⟨_, does, congrArg some number⟩

/-- A listener is called when the job ends, if it is the first one, or else when the one before has
returned or failed. -/
theorem calls_iff (sound : floor.board.Sound) :
    floor.Calls step worker jobType seq event index ↔
      index < (floor.board.audience event).length ∧
        ((index = 0 ∧ ∃ outcome, floor.Ends step worker jobType seq outcome ∧
          event = Board.eventOf outcome) ∨
          ∃ before, index = before + 1 ∧ floor.Tells step worker jobType seq event before) := by
  -- A worker that turns to a listener finds him in his place.
  have place : ∀ {job other : Job} {about : Event} {told : Nat},
      floor.board.tellingNext other about told = .notifying job event index →
        other = job ∧ about = event ∧ told = index ∧
          index < (floor.board.audience event).length := by
    intro job other about told turns
    unfold Board.tellingNext at turns
    split at turns
    · next present =>
      cases turns
      exact ⟨rfl, rfl, rfl, present⟩
    · cases turns
  constructor
  · rintro ⟨⟨job, rfl, tells⟩, fresh⟩
    cases duty sound step worker with
    | aside same => exact absurd ⟨job, rfl, same.symm.trans tells⟩ fresh
    | absent after => cases after.symm.trans tells
    | came before after => cases (after.unique tells).2
    | went after => cases (after.unique tells).2
    | took takes before line after => cases (after.unique tells).2
    | wentOn before after => cases (after.unique tells).2
    | @ended kind known progress outcome finishes alive before found after =>
      obtain ⟨rfl, same⟩ := after.unique tells
      obtain ⟨rfl, rfl, rfl, present⟩ := place same
      refine ⟨present, Or.inl ⟨rfl, outcome, ⟨finishes, alive, progress, ?_⟩, rfl⟩⟩
      rw [(Board.ended_same known floor.now outcome).1]
      exact before
    | @told kind known about count before after =>
      obtain ⟨rfl, same⟩ := after.unique tells
      obtain ⟨rfl, rfl, rfl, present⟩ := place same
      rcases @next_of_telling _ _ floor step worker sound _ _ _ _ before with
        ⟨other, number, stays⟩ | ⟨told, -⟩ | cuts
      · cases (stays.unique tells).2
      · exact ⟨present, Or.inr ⟨count, rfl, told⟩⟩
      · exact absurd ⟨_, tells, rfl⟩ (cuts.not_busy kind known.seq)
    | @revised kind known about count change before after =>
      obtain ⟨rfl, same⟩ := after.unique tells
      cases same
      exact absurd ⟨known, rfl, before⟩ fresh
  · rintro ⟨present, ⟨rfl, outcome, ⟨rfl, alive, progress, does⟩, rfl⟩ |
      ⟨before, rfl, job, outcome, rfl, does, rfl, alive⟩⟩
    · obtain ⟨job, found, -⟩ := sound.handled _ _ _ _ does
      obtain ⟨-, rfl⟩ := Lane.mem_of_job? found
      have turns := (Board.advance_finish sound does found floor.now alive).does
      rw [Board.tellingNext, if_pos present] at turns
      refine ⟨⟨_, (Board.ended_same job floor.now outcome).1, turns⟩, ?_⟩
      rintro ⟨other, -, tells⟩
      cases (does.unique tells).2
    · have turns := (Board.advance_notified sound does alive).does
      rw [Board.tellingNext, if_pos present] at turns
      refine ⟨⟨job, rfl, turns⟩, ?_⟩
      rintro ⟨other, -, tells⟩
      cases (does.unique tells).2

end Floor

/-! ## Whoever is released -/

/-- Nobody is busy with a job that was created, and nobody will take it: it does not wait. -/
structure Board.Released (board : Board π ℓ) (jobType : String) (seq : Nat) : Prop where
  /-- The number of the job was given. -/
  given : seq ≤ board.created
  /-- The job does not wait. -/
  outside : seq ∉ (board.lane jobType).waiting
  /-- No worker is busy with it. -/
  free : ∀ worker, ¬board.Busy worker jobType seq

namespace Chronicle

variable {chronicle : Chronicle π ℓ} {jobType : String} {seq count earlier later worker index : Nat}
  {event : Event} {outcome : Except Failure Value}

/-- A job whose number was given waits only if it waited before. -/
theorem waiting_before (given : seq ≤ (chronicle.board count).created)
    (waits : seq ∈ ((chronicle.board (count + 1)).lane jobType).waiting) :
    seq ∈ ((chronicle.board count).lane jobType).waiting := by
  obtain ⟨job, found, pending⟩ := (chronicle.sound (count + 1)).pending_of_waiting waits
  obtain ⟨before, here, waited⟩ := Floor.found_before (chronicle.sound count) found given
  exact (chronicle.sound count).waiting_of_pending here (waited pending)

/-- Nobody becomes busy with a job that is released. -/
theorem released_later (released : (chronicle.board earlier).Released jobType seq)
    (order : earlier ≤ later) : (chronicle.board later).Released jobType seq := by
  induction order with
  | refl => exact released
  | @step later order ih =>
    refine ⟨Nat.le_trans ih.given (created_mono (Nat.le_succ later)),
      fun waits => ih.outside (waiting_before ih.given waits), fun worker busy => ?_⟩
    rcases busy_before busy with before | waits
    · exact ih.free worker before
    · exact ih.outside waits

/-- Once whoever is busy with a job is cut off, the job is released. -/
theorem CutsOff.released (cuts : chronicle.CutsOff count worker jobType seq)
    (past : count < later) : (chronicle.board later).Released jobType seq := by
  have sound := chronicle.sound count
  have busy := cuts.busy
  have outside : seq ∉ ((chronicle.board count).lane jobType).waiting := by
    intro waits
    obtain ⟨job, found, pending⟩ := sound.pending_of_waiting waits
    exact sound.not_busy_of_pending found pending busy
  have given : seq ≤ (chronicle.board count).created := sound.given_of_busy busy
  refine released_later ⟨Nat.le_trans given (created_mono (Nat.le_succ count)),
    fun waits => outside (waiting_before given waits), fun other still => ?_⟩ past
  rcases busy_before still with before | waits
  · obtain rfl := sound.alone _ _ _ _ before busy
    exact cuts.not_busy _ _ still
  · exact outside waits

/-! ## Calls -/

/-- In the step after some steps a worker calls the listener at a place among those of an event,
about the job of a number. -/
def Calls (chronicle : Chronicle π ℓ) (count worker : Nat) (jobType : String) (seq : Nat)
    (event : Event) (index : Nat) : Prop :=
  (chronicle.floor count).Calls (chronicle.steps count) worker jobType seq event index

/-- Who was called in a step is told after it. -/
theorem Calls.telling (calls : chronicle.Calls count worker jobType seq event index) :
    (chronicle.board (count + 1)).Telling worker jobType seq event index :=
  calls.1

/-- A job about which a listener is told has ended, with the event of which he is told. -/
theorem ends_of_telling
    (telling : (chronicle.board count).Telling worker jobType seq event index) :
    ∃ ended outcome, ended < count ∧ chronicle.Ends ended worker jobType seq outcome ∧
      event = Board.eventOf outcome := by
  obtain ⟨job, rfl, does⟩ := telling
  obtain ⟨ended, outcome, -, past, ends, about, -⟩ := ended_of_tells does
  exact ⟨ended, outcome, past, ends, about⟩

/-- Whoever is told about a job was called before. -/
theorem called_of_telling
    (telling : (chronicle.board count).Telling worker jobType seq event index) :
    ∃ earlier < count, chronicle.Calls earlier worker jobType seq event index := by
  induction count with
  | zero =>
    obtain ⟨job, -, does⟩ := telling
    cases does
  | succ count ih =>
    by_cases before : (chronicle.board count).Telling worker jobType seq event index
    · obtain ⟨earlier, past, calls⟩ := ih before
      exact ⟨earlier, Nat.lt_succ_of_lt past, calls⟩
    · exact ⟨count, Nat.lt_succ_self count, telling, before⟩

/-- Those who are told about a job later stand no further ahead. -/
theorem telling_mono {other place : Nat} {about : Event} (order : earlier ≤ later)
    (first : (chronicle.board earlier).Telling worker jobType seq event index)
    (second : (chronicle.board later).Telling other jobType seq about place) : index ≤ place := by
  induction order generalizing place other about with
  | refl => exact Nat.le_of_eq ((chronicle.sound earlier).telling_unique first second).2.2
  | @step later order ih =>
    by_cases before : (chronicle.board later).Telling other jobType seq about place
    · exact ih before
    · rcases ((Floor.calls_iff (chronicle.sound later)).mp ⟨second, before⟩).2 with
        ⟨-, outcome, ends, -⟩ | ⟨previous, rfl, job, outcome, number, does, -⟩
      · -- The job had ended already.
        obtain ⟨ended, result, past, own, -⟩ := ends_of_telling first
        obtain ⟨rfl, -⟩ := own.unique ends
        exact absurd past (Nat.not_lt_of_le order)
      · exact Nat.le_succ_of_le (ih ⟨job, number, does⟩)

/-- Of two listeners that are called about a job the one that is called later stands behind the
other one. -/
theorem Calls.lt {other place : Nat} {about : Event}
    (first : chronicle.Calls earlier worker jobType seq event index)
    (second : chronicle.Calls later other jobType seq about place) (order : earlier < later) :
    index < place := by
  rcases ((Floor.calls_iff (chronicle.sound later)).mp second).2 with
    ⟨-, outcome, ends, -⟩ | ⟨previous, rfl, job, outcome, number, does, -⟩
  · obtain ⟨ended, result, past, own, -⟩ := ends_of_telling first.telling
    obtain ⟨rfl, -⟩ := own.unique ends
    exact absurd past (Nat.not_lt_of_le order)
  · exact Nat.lt_succ_of_le (telling_mono order first.telling ⟨job, number, does⟩)

/-! ## Announcements -/

/-- How far the announcement of a job that has ended has come at a moment. -/
inductive Course (chronicle : Chronicle π ℓ) (ended worker : Nat) (jobType : String) (seq : Nat)
    (outcome : Except Failure Value) (moment : Nat) : Prop where
  /-- A listener is being told, and those before him have returned or failed. -/
  | underway {told : Nat}
    (telling : (chronicle.board moment).Telling worker jobType seq (Board.eventOf outcome) told)
    (called : ∀ index ≤ told, ∃ count, ended ≤ count ∧ count < moment ∧
      chronicle.Calls count worker jobType seq (Board.eventOf outcome) index)
    (returned : ∀ index < told, ∃ count, ended < count ∧ count < moment ∧
      chronicle.Tells count worker jobType seq (Board.eventOf outcome) index)
  /-- All who listened have been called, and have returned or failed, and the worker was free. -/
  | complete {left : Nat} (heard : chronicle.Heard moment jobType seq worker outcome ended left)
    (called : ∀ index < ((chronicle.board left).audience (Board.eventOf outcome)).length,
      ∃ count, ended ≤ count ∧ count ≤ left ∧
        chronicle.Calls count worker jobType seq (Board.eventOf outcome) index)
  /-- The worker was cut off. -/
  | cutShort {count : Nat} (after : ended < count) (past : count < moment)
    (cuts : chronicle.CutsOff count worker jobType seq)

/-- A listener that has returned or failed was called since the job ended. -/
theorem called_of_tells (ends : chronicle.Ends earlier worker jobType seq outcome)
    (tells : chronicle.Tells count worker jobType seq (Board.eventOf outcome) index) :
    ∃ before, earlier ≤ before ∧ before < count ∧
      chronicle.Calls before worker jobType seq (Board.eventOf outcome) index := by
  obtain ⟨job, result, number, does, -⟩ := tells
  obtain ⟨before, past, calls⟩ := called_of_telling ⟨job, number, does⟩
  obtain ⟨ended, known, sooner, own, -⟩ := ends_of_telling calls.telling
  obtain ⟨rfl, -⟩ := own.unique ends
  exact ⟨before, Nat.le_of_lt_succ sooner, past, calls⟩

/-- A worker that is cut off with a job that has ended was telling about it, and ended it itself. -/
theorem CutsOff.after_end {other : Nat} (cuts : chronicle.CutsOff count other jobType seq)
    (ends : chronicle.Ends earlier worker jobType seq outcome) :
    earlier < count ∧ other = worker := by
  have handles : (chronicle.board earlier).Busy worker jobType seq := by
    obtain ⟨-, -, progress, does⟩ := ends
    exact ⟨_, does, rfl⟩
  rcases Nat.lt_trichotomy earlier count with before | rfl | after
  · obtain ⟨job, sees, terminal⟩ := ends.terminal before
    obtain ⟨activity, does, number⟩ := cuts.busy
    cases activity with
    | idle | gone => cases number
    | handling seq progress =>
      -- What is handled has not ended.
      cases number
      obtain ⟨known, found, processing⟩ := (chronicle.sound count).handled _ _ _ _ does
      cases (seen?_of_found found).symm.trans sees
      rw [Job.isTerminal_of_processing processing] at terminal
      cases terminal
    | notifying known event told =>
      cases number
      obtain ⟨ended, result, -, own, -⟩ := ends_of_telling ⟨known, rfl, does⟩
      exact ⟨before, (own.unique ends).2.1⟩
  · -- The step in which the handler returns or fails cuts nobody off.
    obtain rfl := (chronicle.sound earlier).alone _ _ _ _ cuts.busy handles
    obtain ⟨finishes, alive, progress, does⟩ := ends
    cases cuts with
    | dismissed busy away => rcases away with away | away <;> cases finishes.symm.trans away
    | handler _ raises =>
      cases finishes.symm.trans raises
      exact absurd rfl alive
    | listener number tells => cases (does.unique tells).2
  · exact absurd handles ((cuts.released after).free worker)

/-- From the end of its handler on a job is announced, was announced, or its worker was cut off. -/
theorem Ends.course (ends : chronicle.Ends earlier worker jobType seq outcome)
    (past : earlier < count) : chronicle.Course earlier worker jobType seq outcome count := by
  obtain ⟨seen, here, terminal⟩ := ends.terminal past
  obtain ⟨created, born, since, creates, rfl, rfl⟩ : ∃ created born, created < count ∧
      chronicle.Creates created born ∧ born.jobType = jobType ∧ born.seq = seq := by
    obtain ⟨-, -, progress, does⟩ := ends
    obtain ⟨job, found, -⟩ := (chronicle.sound earlier).handled _ _ _ _ does
    obtain ⟨created, born, since, creates, kind, number⟩ := created_before found
    exact ⟨created, born, Nat.lt_trans since past, creates, kind, number⟩
  -- A job that is still on the board stands there as it is seen: it has ended.
  have ended : ∀ {job}, (chronicle.board count).job? born.jobType born.seq = some job →
      job.isTerminal = true := by
    intro job found
    cases (seen?_of_found found).symm.trans here
    exact terminal
  cases creates.standing since with
  | waits inLine =>
    obtain ⟨job, found, pending⟩ := (chronicle.sound count).pending_of_waiting inLine
    cases (Job.isTerminal_of_pending pending).symm.trans (ended found)
  | handled does =>
    obtain ⟨job, found, processing⟩ := (chronicle.sound count).handled _ _ _ _ does
    cases (Job.isTerminal_of_processing processing).symm.trans (ended found)
  | @telling own since told job result number does finished _ before =>
    obtain ⟨rfl, rfl, rfl⟩ := finished.unique ends
    refine .underway ⟨job, number, does⟩ (fun index within => ?_) before
    rcases Nat.lt_or_eq_of_le within with below | rfl
    · obtain ⟨later, -, sooner, tells⟩ := before index below
      obtain ⟨call, after, order, calls⟩ := called_of_tells ends tells
      exact ⟨call, after, Nat.lt_trans order sooner, calls⟩
    · obtain ⟨call, order, calls⟩ := called_of_telling ⟨job, number, does⟩
      obtain ⟨known, result, sooner, own, -⟩ := ends_of_telling calls.telling
      obtain ⟨rfl, -⟩ := own.unique ends
      exact ⟨call, Nat.le_of_lt_succ sooner, order, calls⟩
  | @heard own since left result heard =>
    obtain ⟨rfl, rfl, rfl⟩ := heard.ends.unique ends
    refine .complete heard fun index below => ?_
    obtain ⟨later, -, within, tells⟩ := heard.told index below
    obtain ⟨call, after, order, calls⟩ := called_of_tells ends tells
    exact ⟨call, after, Nat.le_trans (Nat.le_of_lt order) within, calls⟩
  | cutOff sooner cuts =>
    obtain ⟨after, rfl⟩ := cuts.after_end ends
    exact .cutShort after sooner cuts

/-- A job that is seen has ended exactly when its handler has returned or failed before. -/
theorem terminal_iff {job : Job} (sees : chronicle.seen? jobType seq count = some job) :
    job.isTerminal = true ↔
      ∃ ended worker outcome, ended < count ∧ chronicle.Ends ended worker jobType seq outcome := by
  constructor
  · intro terminal
    induction count generalizing job with
    | zero => cases sees
    | succ count ih =>
      have earlier : ∀ {before}, chronicle.seen? jobType seq count = some before →
          before.isTerminal = true → ∃ ended worker outcome, ended < count + 1 ∧
            chronicle.Ends ended worker jobType seq outcome := by
        intro before here finished
        obtain ⟨ended, worker, outcome, past, ends⟩ := ih here finished
        exact ⟨ended, worker, outcome, Nat.lt_succ_of_lt past, ends⟩
      -- Only the end of a handler makes a job terminal; every other step finds it as it was.
      cases chronicle.grows jobType seq count with
      | still same => exact earlier (same.symm.trans sees) terminal
      | born creates _ after =>
        cases after.symm.trans sees
        rw [Job.isTerminal, creates.blank.2.1] at terminal
        cases terminal
      | revised change before after =>
        cases after.symm.trans sees
        exact earlier before terminal
      | @taken known _ _ before _ after =>
        cases after.symm.trans sees
        exact @earlier known before terminal
      | ended ends => exact ⟨count, _, _, Nat.lt_succ_self count, ends⟩
  · rintro ⟨ended, worker, outcome, past, ends⟩
    obtain ⟨seen, here, terminal⟩ := ends.terminal past
    cases here.symm.trans sees
    exact terminal

/-- How a job is announced whose handler has returned or failed. -/
structure Announces (chronicle : Chronicle π ℓ) (ended worker : Nat) (jobType : String) (seq : Nat)
    (outcome : Except Failure Value) : Prop where
  /-- Nobody is called about the job but those who listen to the event of its outcome, each in his
  place, by the worker that handled it, about the job as it has ended. -/
  only : ∀ count other event index, chronicle.Calls count other jobType seq event index →
    other = worker ∧ event = Board.eventOf outcome ∧ ended ≤ count ∧ ∃ listener job known,
      (chronicle.board (count + 1)).telling? worker = some (listener, job) ∧
        ((chronicle.board count).audience event)[index]? = some listener ∧ job.seq = seq ∧
          chronicle.seen? jobType seq (count + 1) = some known ∧ known.isTerminal = true ∧
            known.Alike job
  /-- Nobody is called twice, and all are called in the order in which they subscribed. -/
  inOrder : ∀ earlier later first second,
    chronicle.Calls earlier worker jobType seq (Board.eventOf outcome) first →
      chronicle.Calls later worker jobType seq (Board.eventOf outcome) second →
        (earlier < later ↔ first < second) ∧ (earlier = later ↔ first = second)
  /-- The first listener is called when the job ends, and the next one when the one before returns
  or fails. -/
  prompt : ∀ count index,
    chronicle.Calls count worker jobType seq (Board.eventOf outcome) index ↔
      index < ((chronicle.board count).audience (Board.eventOf outcome)).length ∧
        (index = 0 ∧ count = ended ∨ ∃ before, index = before + 1 ∧
          chronicle.Tells count worker jobType seq (Board.eventOf outcome) before)
  /-- The announcement goes on until all who listen have been told, or the worker is cut off. -/
  course : ∀ moment, ended < moment → chronicle.Course ended worker jobType seq outcome moment
  /-- The worker takes another job only once all who listened have returned or failed, or else it
  was cut off, and another one has taken its place. -/
  next : ∀ later kind other, ended < later → chronicle.Starts later worker kind other →
    (∃ left, chronicle.Heard later jobType seq worker outcome ended left) ∨
      ∃ count, ended < count ∧ count < later ∧ chronicle.CutsOff count worker jobType seq
  /-- Once the worker is cut off, nobody is called about the job any more. -/
  silent : ∀ cut other count someone event index, chronicle.CutsOff cut other jobType seq →
    cut ≤ count → ¬chronicle.Calls count someone jobType seq event index

/-- How jobs are announced. -/
structure Announced (chronicle : Chronicle π ℓ) : Prop where
  /-- A job has ended exactly when its handler has returned or failed. -/
  ended : ∀ count jobType seq job, chronicle.seen? jobType seq count = some job →
    (job.isTerminal = true ↔ ∃ ended worker outcome, ended < count ∧
      chronicle.Ends ended worker jobType seq outcome)
  /-- It does so once, in one way. -/
  once : ∀ earlier later worker other jobType seq outcome result,
    chronicle.Ends earlier worker jobType seq outcome →
      chronicle.Ends later other jobType seq result →
        earlier = later ∧ worker = other ∧ outcome = result
  /-- Nobody is called about a job that has not ended. -/
  calls : ∀ count worker jobType seq event index,
    chronicle.Calls count worker jobType seq event index →
      ∃ ended outcome, ended ≤ count ∧ chronicle.Ends ended worker jobType seq outcome
  /-- Whoever has subscribed keeps his place among those who listen to the event. -/
  places : ∀ earlier later event, earlier ≤ later →
    (chronicle.board earlier).audience event <+: (chronicle.board later).audience event
  /-- A job that has ended is announced so. -/
  announces : ∀ ended worker jobType seq outcome,
    chronicle.Ends ended worker jobType seq outcome →
      chronicle.Announces ended worker jobType seq outcome

/-- A job whose handler has returned or failed is announced so. -/
theorem Ends.announces (ends : chronicle.Ends earlier worker jobType seq outcome) :
    chronicle.Announces earlier worker jobType seq outcome where
  only := by
    intro count other event index calls
    obtain ⟨ended, result, past, own, about⟩ := ends_of_telling calls.telling
    obtain ⟨rfl, rfl, rfl⟩ := own.unique ends
    refine ⟨rfl, about, Nat.le_of_lt_succ past, ?_⟩
    have present := ((Floor.calls_iff (chronicle.sound count)).mp calls).1
    obtain ⟨job, rfl, does⟩ := calls.telling
    obtain ⟨_, _, known, _, _, _, sees, alike⟩ := ended_of_tells does
    obtain ⟨seen, here, terminal⟩ := ends.terminal past
    cases here.symm.trans sees
    obtain ⟨listener, called⟩ : ∃ listener,
        ((chronicle.board count).audience event)[index]? = some listener :=
      ⟨_, List.getElem?_eq_getElem present⟩
    obtain ⟨more, grown⟩ := (chronicle.floor count).audience_step (chronicle.steps count) event
    have still : ((chronicle.board (count + 1)).audience event)[index]? = some listener := by
      rw [board, floor, ← grown, List.getElem?_append_left present, called]
    refine ⟨listener, job, known, ?_, called, rfl, sees, terminal, alike⟩
    rw [Board.telling?, does]
    exact congrArg (Option.map (·, job)) still
  inOrder := by
    intro earlier later first second here there
    rcases Nat.lt_trichotomy earlier later with before | rfl | after
    · have := here.lt there before
      omega
    · have := ((chronicle.sound (earlier + 1)).telling_unique here.telling there.telling).2.2
      omega
    · have := there.lt here after
      omega
  prompt := by
    intro count index
    refine (Floor.calls_iff (chronicle.sound count)).trans (and_congr_right fun _ =>
      or_congr_left (and_congr_right fun _ => ⟨?_, ?_⟩))
    · rintro ⟨result, own, -⟩
      exact (Ends.unique own ends).1
    · rintro rfl
      exact ⟨outcome, ends, rfl⟩
  course _ past := ends.course past
  next := by
    intro later kind other past starts
    obtain ⟨-, -, -, idle, -⟩ := (Floor.starts_iff (chronicle.sound later)).mp starts
    cases ends.course past with
    | underway telling =>
      obtain ⟨job, -, does⟩ := telling
      cases (idle.unique does).2
    | complete heard => exact Or.inl ⟨_, heard⟩
    | cutShort after sooner cuts => exact Or.inr ⟨_, after, sooner, cuts⟩
  silent := by
    intro cut other count someone event index cuts order calls
    exact (cuts.released (Nat.lt_succ_of_le order)).free someone calls.telling.busy

/-- Whatever happens to a board, every job that has ended is announced once, to those who listen to
the event that ended it, one after the other. -/
theorem jobs_announced_once (chronicle : Chronicle π ℓ) : chronicle.Announced where
  ended _ _ _ _ sees := terminal_iff sees
  once _ _ _ _ _ _ _ _ first second := first.unique second
  calls := by
    intro count worker jobType seq event index calls
    obtain ⟨ended, outcome, past, ends, -⟩ := ends_of_telling calls.telling
    exact ⟨ended, outcome, Nat.le_of_lt_succ past, ends⟩
  places _ _ event order := chronicle.audience_mono event order
  announces _ _ _ _ _ ends := ends.announces

/-- Two listeners wait for jobs that are completed, and one for jobs that fail. A job is completed,
the first listener fails, and a third one subscribes while the second one is told. -/
def proclaimed : Chronicle Unit String :=
  .ofList none 0 [.subscribe .completed "first", .subscribe .failed "other",
    .subscribe .completed "second", .register "ask" 1, .create "ask" "a" [] false,
    .create "ask" "b" [] false, .take 0 fun _ => (), .finish 0 (.ok .null),
    .notified 0 (.error .notFinite), .subscribe .completed "third", .notified 0 (.ok ()),
    .notified 0 (.ok ()), .take 0 fun _ => ()]

/-- All three are told of the job in turn, and the worker takes the next job only then. -/
theorem jobs_announced_once_proclaimed : proclaimed.Announced ∧
    proclaimed.Ends 7 0 "ask" 1 (.ok .null) ∧ proclaimed.Calls 7 0 "ask" 1 .completed 0 ∧
      proclaimed.Calls 8 0 "ask" 1 .completed 1 ∧ proclaimed.Calls 10 0 "ask" 1 .completed 2 ∧
        ([8, 9, 11, 12].map fun count => ((proclaimed.board count).telling? 0).map Prod.fst) =
          [some "first", some "second", some "third", none] ∧
          proclaimed.Starts 12 0 "ask" 2 := by
  have announced := jobs_announced_once proclaimed
  have ends : proclaimed.Ends 7 0 "ask" 1 (.ok .null) := ⟨rfl, nofun, (), by decide +kernel⟩
  have prompt := (announced.announces _ _ _ _ _ ends).prompt
  have first : proclaimed.Calls 7 0 "ask" 1 .completed 0 :=
    (prompt 7 0).mpr ⟨by decide +kernel, Or.inl ⟨rfl, rfl⟩⟩
  have second : proclaimed.Calls 8 0 "ask" 1 .completed 1 := by
    obtain ⟨job, number, does⟩ := first.telling
    exact (prompt 8 1).mpr
      ⟨by decide +kernel, Or.inr ⟨0, rfl, job, _, number, does, rfl, nofun⟩⟩
  have third : proclaimed.Calls 10 0 "ask" 1 .completed 2 := by
    obtain ⟨job, number, does⟩ := second.telling
    exact (prompt 10 2).mpr
      ⟨by decide +kernel, Or.inr ⟨1, rfl, job, _, number, does, rfl, nofun⟩⟩
  exact ⟨announced, ends, first, second, third, by decide +kernel, ⟨(), by decide +kernel⟩,
    fun ⟨⟩ => by decide +kernel⟩

end Chronicle

end QuestionDesk.Jobs
