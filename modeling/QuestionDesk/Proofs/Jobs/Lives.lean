import QuestionDesk.Proofs.Jobs.Line

/-!
# Lives of jobs

A job is created, taken, and ends, each at most once and in this order, and once it has ended
nothing but its notes is written any more. This holds of a job as whoever has it sees it, that is,
also after it was removed from the board.
-/
namespace QuestionDesk.Jobs

variable {π ℓ : Type}

/-! ## Stages -/

/-- How far a status has come. -/
def Status.stage : Status → Nat
  | .pending => 0
  | .processing => 1
  | .completed | .failed => 2

/-- A job has ended exactly when it is completed or failed. -/
theorem Job.isTerminal_iff {job : Job} :
    job.isTerminal = true ↔ job.status = .completed ∨ job.status = .failed := by
  unfold Job.isTerminal Job.status statusOf
  cases job.finishedOn with
  | none => cases job.processedOn <;> simp
  | some ended => by_cases reasonless : job.failedReason.getD "" = "" <;> simp [reasonless]

/-- Statuses are pending for a while, then processing for a while, and then the last one for good. -/
def InTurn (last : Status) (statuses : List Status) : Prop :=
  ∃ pending processing ended : Nat, statuses = List.replicate pending .pending ++
    (List.replicate processing .processing ++ List.replicate ended last)

/-- Statuses that never go back, and end in one way only, come in turn. -/
theorem inTurn_of_ordered {last : Status} (terminal : last = .completed ∨ last = .failed)
    {statuses : List Status}
    (among : ∀ status ∈ statuses, status = .pending ∨ status = .processing ∨ status = last)
    (ordered : statuses.Pairwise (·.stage ≤ ·.stage)) : InTurn last statuses := by
  induction statuses with
  | nil => exact ⟨0, 0, 0, rfl⟩
  | cons status rest ih =>
    obtain ⟨above, sorted⟩ := List.pairwise_cons.mp ordered
    obtain ⟨pending, processing, ended, rfl⟩ :=
      ih (fun other member => among other (List.mem_cons_of_mem _ member)) sorted
    -- A status leaves no other behind it that it is ahead of.
    have begun : 0 < status.stage → pending = 0 := by
      intro positive
      cases pending with
      | zero => rfl
      | succ more =>
        exact absurd (above .pending (List.mem_append_left _ List.mem_cons_self))
          (Nat.not_le_of_lt positive)
    have halted : 1 < status.stage → processing = 0 := by
      intro final
      cases processing with
      | zero => rfl
      | succ more =>
        exact absurd (above .processing
          (List.mem_append_right _ (List.mem_append_left _ List.mem_cons_self)))
          (Nat.not_le_of_lt final)
    rcases among status List.mem_cons_self with rfl | rfl | rfl
    · exact ⟨pending + 1, processing, ended, rfl⟩
    · obtain rfl := begun Nat.one_pos
      exact ⟨0, processing + 1, ended, rfl⟩
    · have final : 1 < status.stage := by rcases terminal with rfl | rfl <;> decide
      obtain rfl := begun (Nat.lt_of_succ_lt final)
      obtain rfl := halted final
      exact ⟨0, 0, ended + 1, rfl⟩

/-! ## Jobs as they are seen -/

namespace Chronicle

/-- A job as whoever has it sees it after some steps: as it is on the board or, once removed, as it
was last. -/
def seen? (chronicle : Chronicle π ℓ) (jobType : String) (seq : Nat) : Nat → Option Job
  | 0 => none
  | count + 1 => ((chronicle.board (count + 1)).job? jobType seq).or
      (seen? chronicle jobType seq count)

variable {chronicle : Chronicle π ℓ} {jobType : String} {seq count earlier later : Nat} {job : Job}

/-- A job that is on the board is seen as it is there. -/
theorem seen?_of_found (found : (chronicle.board count).job? jobType seq = some job) :
    chronicle.seen? jobType seq count = some job := by
  cases count with
  | zero => cases found
  | succ count => rw [seen?, found, Option.some_or]

/-- What is known of a job that is seen. -/
structure Seen (chronicle : Chronicle π ℓ) (jobType : String) (seq count : Nat) (job : Job) :
    Prop where
  /-- It has the number. -/
  number : job.seq = seq
  /-- It is of the type. -/
  kind : job.jobType = jobType
  /-- Its number was given. -/
  given : seq ≤ (chronicle.board count).created
  /-- It is on the board, or has ended and is gone. -/
  here : (chronicle.board count).job? jobType seq = some job ∨
    (chronicle.board count).job? jobType seq = none ∧ job.isTerminal = true

/-- A job that is seen is on the board, or has ended. -/
theorem seen_of_seen? (sees : chronicle.seen? jobType seq count = some job) :
    chronicle.Seen jobType seq count job := by
  induction count generalizing job with
  | zero => cases sees
  | succ count ih =>
    rcases Option.or_eq_some_iff.mp sees with found | ⟨gone, before⟩
    · obtain ⟨member, rfl⟩ := Lane.mem_of_job? found
      obtain ⟨kind, -, -, given⟩ := (chronicle.sound (count + 1)).placed _ _ member
      exact ⟨rfl, kind, given, Or.inl found⟩
    · obtain ⟨number, kind, given, here⟩ := ih before
      refine ⟨number, kind, Nat.le_trans given (created_mono (Nat.le_succ count)),
        Or.inr ⟨gone, ?_⟩⟩
      rcases here with found | ⟨-, terminal⟩
      · cases Floor.turn (chronicle.sound count) (chronicle.steps count) jobType seq with
        | aside same => cases (gone.symm.trans same).trans found
        | created _ _ _ _ after => cases gone.symm.trans after
        | taken _ _ _ after => cases gone.symm.trans after
        | revised _ _ after => cases gone.symm.trans after
        | ended _ _ _ after => cases gone.symm.trans after
        | left known terminal => exact Option.some.inj (known.symm.trans found) ▸ terminal
      · exact terminal

/-- In the step after some steps the handler of a job returns or fails. -/
def Ends (chronicle : Chronicle π ℓ) (count worker : Nat) (jobType : String) (seq : Nat)
    (outcome : Except Failure Value) : Prop :=
  (chronicle.floor count).Ends (chronicle.steps count) worker jobType seq outcome

/-- What a step does to a job as it is seen. -/
inductive Grows (chronicle : Chronicle π ℓ) (jobType : String) (seq count : Nat) : Prop where
  /-- It is seen as it was. -/
  | still (same : chronicle.seen? jobType seq (count + 1) = chronicle.seen? jobType seq count)
  /-- It is created. -/
  | born {job : Job} (creates : chronicle.Creates count job)
    (before : chronicle.seen? jobType seq count = none)
    (after : chronicle.seen? jobType seq (count + 1) = some job)
  /-- Its notes are revised. -/
  | revised {job : Job} (change : Fields → Fields)
    (before : chronicle.seen? jobType seq count = some job)
    (after : chronicle.seen? jobType seq (count + 1) = some (job.revised change))
  /-- It is taken. -/
  | taken {job : Job} {worker : Nat} (starts : chronicle.Starts count worker jobType seq)
    (before : chronicle.seen? jobType seq count = some job) (pending : job.status = .pending)
    (after : chronicle.seen? jobType seq (count + 1) =
      some { job with processedOn := some (chronicle.floor count).now })
  /-- It ends. -/
  | ended {job : Job} {worker : Nat} {outcome : Except Failure Value}
    (ends : chronicle.Ends count worker jobType seq outcome)
    (before : chronicle.seen? jobType seq count = some job) (processing : job.status = .processing)
    (after : chronicle.seen? jobType seq (count + 1) =
      some (Board.ended job (chronicle.floor count).now outcome))

/-- Every step does one of these things to a job as it is seen. -/
theorem grows (chronicle : Chronicle π ℓ) (jobType : String) (seq count : Nat) :
    chronicle.Grows jobType seq count := by
  cases Floor.turn (chronicle.sound count) (chronicle.steps count) jobType seq with
  | aside same =>
    refine .still ?_
    rw [seen?, board, floor, same]
    cases found : (chronicle.floor count).board.job? jobType seq with
    | none => rw [Option.none_or]
    | some job => rw [Option.some_or, seen?_of_found found]
  | created creates kind number fresh after =>
    refine .born creates ?_ (seen?_of_found after)
    cases sees : chronicle.seen? jobType seq count with
    | none => rfl
    | some job =>
      have given := (seen_of_seen? sees).given
      exact absurd given (Nat.not_le_of_lt (fresh ▸ Nat.lt_succ_self _))
  | taken starts before pending after =>
    exact .taken starts (seen?_of_found before) pending (seen?_of_found after)
  | revised change before after =>
    exact .revised change (seen?_of_found before) (seen?_of_found after)
  | ended ends before processing after =>
    exact .ended ends (seen?_of_found before) processing (seen?_of_found after)
  | left before terminal after =>
    refine .still ?_
    rw [seen?, board, floor, after, Option.none_or]

/-- A job that is seen is seen after the next step, has come no less far then, and is the same but
for its notes if it has ended. -/
theorem seen_next (sees : chronicle.seen? jobType seq count = some job) :
    ∃ after, chronicle.seen? jobType seq (count + 1) = some after ∧
      job.status.stage ≤ after.status.stage ∧ (job.isTerminal = true → job.Alike after) := by
  cases chronicle.grows jobType seq count with
  | still same => exact ⟨job, same.trans sees, Nat.le_refl _, fun _ => .refl job⟩
  | born creates before after => cases before.symm.trans sees
  | revised change before after =>
    cases before.symm.trans sees
    have alike := job.alike_revised change
    exact ⟨_, after, Nat.le_of_eq (congrArg Status.stage alike.status.symm), fun _ => alike⟩
  | taken starts before pending after =>
    cases before.symm.trans sees
    refine ⟨_, after, pending ▸ Nat.zero_le _, fun terminal => ?_⟩
    rw [Job.isTerminal_of_pending pending] at terminal
    cases terminal
  | ended ends before processing after =>
    cases before.symm.trans sees
    refine ⟨_, after, ?_, fun terminal => ?_⟩
    · rcases Job.isTerminal_iff.mp (Board.isTerminal_ended job (chronicle.floor count).now _) with
        completed | failed
      · rw [processing, completed]
        decide
      · rw [processing, failed]
        decide
    · rw [Job.isTerminal_of_processing processing] at terminal
      cases terminal

/-- A job that is seen is seen at all later moments, has come no less far then, and is the same but
for its notes if it has ended. -/
theorem seen_later (order : earlier ≤ later)
    (sees : chronicle.seen? jobType seq earlier = some job) :
    ∃ after, chronicle.seen? jobType seq later = some after ∧
      job.status.stage ≤ after.status.stage ∧ (job.isTerminal = true → job.Alike after) := by
  induction order with
  | refl => exact ⟨job, sees, Nat.le_refl _, fun _ => .refl job⟩
  | step order ih =>
    obtain ⟨between, there, further, same⟩ := ih
    obtain ⟨after, here, more, alike⟩ := seen_next there
    refine ⟨after, here, Nat.le_trans further more, fun terminal => ?_⟩
    exact (same terminal).trans (alike ((same terminal).isTerminal.trans terminal))

/-- Nothing is written to a job that is created but what it is about. -/
theorem Creates.blank (creates : chronicle.Creates count job) :
    job.processedOn = none ∧ job.finishedOn = none ∧ job.failedReason = none ∧
      job.returnValue = .null := by
  obtain ⟨kind, fingerprint, payload, skipsSearch, -, -, added⟩ :=
    Floor.created?_eq_some.mp creates
  obtain ⟨rfl, -⟩ := Prod.mk.inj added
  exact ⟨rfl, rfl, rfl, rfl⟩

/-- Neither a reason nor a value is written to a job before it ends. -/
theorem blank_of_seen (sees : chronicle.seen? jobType seq count = some job)
    (open_ : job.isTerminal = false) : job.failedReason = none ∧ job.returnValue = .null := by
  induction count generalizing job with
  | zero => cases sees
  | succ count ih =>
    cases chronicle.grows jobType seq count with
    | still same => exact ih (same.symm.trans sees) open_
    | born creates before after =>
      cases after.symm.trans sees
      exact creates.blank.2.2
    | @revised known change before after =>
      cases after.symm.trans sees
      exact @ih known before open_
    | @taken known worker starts before pending after =>
      cases after.symm.trans sees
      exact @ih known before open_
    | ended ends before processing after =>
      cases after.symm.trans sees
      rw [Board.isTerminal_ended] at open_
      cases open_

/-! ## Ends -/

/-- A job whose handler returns or fails is being processed, and has ended after the step. -/
theorem Ends.seen {worker : Nat} {outcome : Except Failure Value}
    (ends : chronicle.Ends count worker jobType seq outcome) :
    ∃ job, chronicle.seen? jobType seq count = some job ∧ job.status = .processing ∧
      chronicle.seen? jobType seq (count + 1) =
        some (Board.ended job (chronicle.floor count).now outcome) := by
  obtain ⟨finishes, alive, progress, does⟩ := ends
  obtain ⟨job, found, processing⟩ := (chronicle.sound count).handled _ _ _ _ does
  obtain ⟨-, rfl⟩ := Lane.mem_of_job? found
  refine ⟨job, seen?_of_found found, processing, seen?_of_found ?_⟩
  rw [board, floor, finishes, Floor.step]
  exact ((chronicle.sound count).replaces_finish does found _ alive).job?_self

/-- A job ends once, in one way, and in the hands of one worker. -/
theorem Ends.unique {worker other : Nat} {outcome result : Except Failure Value}
    (first : chronicle.Ends earlier worker jobType seq outcome)
    (second : chronicle.Ends later other jobType seq result) :
    earlier = later ∧ worker = other ∧ outcome = result := by
  have apart : ∀ {earlier later worker other outcome result},
      chronicle.Ends earlier worker jobType seq outcome →
        chronicle.Ends later other jobType seq result → ¬earlier < later := by
    intro earlier later worker other outcome result first second order
    obtain ⟨job, -, -, ended⟩ := first.seen
    obtain ⟨known, there, processing, -⟩ := second.seen
    obtain ⟨after, here, -, alike⟩ := seen_later order ended
    have terminal := Board.isTerminal_ended job (chronicle.floor earlier).now outcome
    cases here.symm.trans there
    rw [← (alike terminal).isTerminal, Job.isTerminal_of_processing processing] at terminal
    cases terminal
  rcases Nat.lt_trichotomy earlier later with before | rfl | after
  · exact absurd before (apart first second)
  · obtain ⟨finishes, -, -⟩ := first
    obtain ⟨ends, -, -⟩ := second
    cases finishes.symm.trans ends
    exact ⟨rfl, rfl, rfl⟩
  · exact absurd after (apart second first)

/-- A worker that tells listeners about a job has seen it end, with the outcome of which the event
tells, and tells them about the job as everybody sees it, but for its notes. -/
theorem ended_of_tells {worker told : Nat} {event : Event}
    (tells : (chronicle.board count).Does worker jobType (.notifying job event told)) :
    ∃ earlier outcome known, earlier < count ∧
      chronicle.Ends earlier worker jobType job.seq outcome ∧ event = Board.eventOf outcome ∧
        chronicle.seen? jobType job.seq count = some known ∧ known.Alike job := by
  induction count generalizing job told event with
  | zero => cases tells
  | succ count ih =>
    -- Whoever told listeners about the job before goes on, and the job does not change any more.
    have goesOn : ∀ {before event told}, before.Alike job →
        (chronicle.board count).Does worker jobType (.notifying before event told) →
          ∃ earlier outcome known, earlier < count + 1 ∧
            chronicle.Ends earlier worker jobType job.seq outcome ∧ event = Board.eventOf outcome ∧
              chronicle.seen? jobType job.seq (count + 1) = some known ∧ known.Alike job := by
      intro before event told change does
      obtain ⟨earlier, outcome, known, order, ends, about, sees, alike⟩ := ih does
      obtain ⟨after, here, -, still⟩ := seen_next sees
      have terminal := alike.isTerminal.symm.trans ((chronicle.sound count).told _ _ _ _ _ does).1
      rw [← change.seq] at ends here
      exact ⟨earlier, outcome, after, Nat.lt_succ_of_lt order, ends, about, here,
        (still terminal).symm.trans (alike.trans change)⟩
    cases Floor.duty (chronicle.sound count) (chronicle.steps count) worker with
    | aside same => exact goesOn (.refl job) (same.symm.trans tells)
    | absent after => cases after.symm.trans tells
    | came before after => cases (after.unique tells).2
    | went after => cases (after.unique tells).2
    | took takes before line after => cases (after.unique tells).2
    | wentOn before after => cases (after.unique tells).2
    | @ended kind known progress outcome finishes alive before found after =>
      obtain ⟨rfl, same⟩ := after.unique tells
      rcases Board.tellingNext_cases (chronicle.floor count).board
        (Board.ended known (chronicle.floor count).now outcome) (Board.eventOf outcome) 0 with
        telling | idle
      · cases telling.symm.trans same
        have ends : chronicle.Ends count worker kind known.seq outcome :=
          ⟨finishes, alive, progress, before⟩
        obtain ⟨seen, sees, -, after⟩ := ends.seen
        cases sees.symm.trans (seen?_of_found found)
        rw [(Board.ended_same known (chronicle.floor count).now outcome).1]
        exact ⟨count, outcome, _, Nat.lt_succ_self count, ends, rfl, after, .refl _⟩
      · cases idle.symm.trans same
    | @told kind known event count before after =>
      obtain ⟨rfl, same⟩ := after.unique tells
      rcases Board.tellingNext_cases (chronicle.floor _).board known event (count + 1) with
        telling | idle
      · cases telling.symm.trans same
        exact goesOn (.refl job) before
      · cases idle.symm.trans same
    | @revised kind known event count change before after =>
      obtain ⟨rfl, same⟩ := after.unique tells
      cases same
      exact goesOn (known.alike_revised change) before

/-! ## Moments -/

/-- Where the clock does not go back, no moment is before those that were. -/
theorem now_le (forward : chronicle.Forward) (count : Nat) :
    (chronicle.floor count).now ≤ (chronicle.floor (count + 1)).now :=
  Floor.now_step (forward count)

/-- The moments that are written on a job by a moment: none, or when it was taken, or that and, not
before it, when it ended. -/
inductive Timely (now : Micros) (job : Job) : Prop where
  /-- It was not taken. -/
  | waiting (untaken : job.processedOn = none) (unended : job.finishedOn = none)
  /-- It was taken. -/
  | underway {taken : Micros} (processed : job.processedOn = some taken)
    (unended : job.finishedOn = none) (past : taken ≤ now)
  /-- It ended. -/
  | settled {taken ended : Micros} (processed : job.processedOn = some taken)
    (finished : job.finishedOn = some ended) (order : taken ≤ ended)

/-- What is written on a job by a moment is so later. -/
theorem Timely.mono {now after : Micros} (timely : Timely now job) (order : now ≤ after) :
    Timely after job := by
  cases timely with
  | waiting untaken unended => exact .waiting untaken unended
  | underway processed unended past =>
    exact .underway processed unended (Int.le_trans past order)
  | settled processed finished before => exact .settled processed finished before

/-- A job that is being processed was taken by the moment. -/
theorem Timely.taken {now : Micros} (timely : Timely now job)
    (processing : job.status = .processing) :
    ∃ taken, job.processedOn = some taken ∧ taken ≤ now := by
  obtain ⟨begun, unended⟩ := Job.status_eq_processing.mp processing
  cases timely with
  | waiting untaken _ =>
    rw [untaken] at begun
    cases begun
  | underway processed _ past => exact ⟨_, processed, past⟩
  | settled _ finished _ => cases unended.symm.trans finished

/-- Where the clock does not go back, jobs are taken before they end. -/
theorem timely_of_seen (forward : chronicle.Forward)
    (sees : chronicle.seen? jobType seq count = some job) :
    Timely (chronicle.floor count).now job := by
  induction count generalizing job with
  | zero => cases sees
  | succ count ih =>
    refine Timely.mono ?_ (now_le forward count)
    cases chronicle.grows jobType seq count with
    | still same => exact ih (same.symm.trans sees)
    | born creates before after =>
      cases after.symm.trans sees
      exact .waiting creates.blank.1 creates.blank.2.1
    | revised change before after =>
      cases after.symm.trans sees
      cases ih before with
      | waiting untaken unended => exact .waiting untaken unended
      | underway processed unended past => exact .underway processed unended past
      | settled processed finished order => exact .settled processed finished order
    | taken starts before pending after =>
      cases after.symm.trans sees
      exact .underway rfl (Job.status_eq_pending.mp pending).2 (Int.le_refl _)
    | @ended known worker outcome ends before processing after =>
      cases after.symm.trans sees
      obtain ⟨taken, processed, past⟩ := (ih before).taken processing
      cases outcome <;> exact .settled processed rfl past

/-! ## Lives -/

/-- All terminal jobs that are seen under a number have one status. -/
theorem status_final {other : Job} (first : chronicle.seen? jobType seq earlier = some job)
    (second : chronicle.seen? jobType seq later = some other) (ended : job.isTerminal = true)
    (closed : other.isTerminal = true) : other.status = job.status := by
  rcases Nat.le_total earlier later with order | order
  · obtain ⟨after, here, -, alike⟩ := seen_later order first
    cases here.symm.trans second
    exact (alike ended).status
  · obtain ⟨after, here, -, alike⟩ := seen_later order second
    cases here.symm.trans first
    exact (alike closed).status.symm

/-- Whenever somebody looks at a job, he sees it pending for a while, then being processed for a
while, and then, for good, in one of the two statuses in which a job has ended. -/
theorem statuses_of_seen (chronicle : Chronicle π ℓ) (jobType : String) (seq : Nat) :
    ∃ last : Status, (last = .completed ∨ last = .failed) ∧ ∀ moments : List Nat,
      moments.Pairwise (· ≤ ·) → InTurn last
        (moments.filterMap fun count => (chronicle.seen? jobType seq count).map Job.status) := by
  obtain ⟨last, terminal, only⟩ : ∃ last : Status, (last = .completed ∨ last = .failed) ∧
      ∀ count job, chronicle.seen? jobType seq count = some job → job.isTerminal = true →
        job.status = last := by
    by_cases ends : ∃ count job, chronicle.seen? jobType seq count = some job ∧
        job.isTerminal = true
    · obtain ⟨count, job, sees, terminal⟩ := ends
      exact ⟨job.status, Job.isTerminal_iff.mp terminal,
        fun later other there closed => status_final sees there terminal closed⟩
    · exact ⟨.completed, Or.inl rfl,
        fun count job sees terminal => absurd ⟨count, job, sees, terminal⟩ ends⟩
  refine ⟨last, terminal, fun moments ordered => inTurn_of_ordered terminal ?_ ?_⟩
  · intro status member
    obtain ⟨count, -, same⟩ := List.mem_filterMap.mp member
    obtain ⟨job, sees, rfl⟩ := Option.map_eq_some_iff.mp same
    cases status : job.status with
    | pending => exact Or.inl rfl
    | processing => exact Or.inr (Or.inl rfl)
    | completed =>
      exact Or.inr (Or.inr (status ▸ only count job sees (Job.isTerminal_iff.mpr (Or.inl status))))
    | failed =>
      exact Or.inr (Or.inr (status ▸ only count job sees (Job.isTerminal_iff.mpr (Or.inr status))))
  · refine List.pairwise_filterMap.mpr (ordered.imp fun order => ?_)
    intro status same other alike
    obtain ⟨job, sees, rfl⟩ := Option.map_eq_some_iff.mp same
    obtain ⟨after, there, rfl⟩ := Option.map_eq_some_iff.mp alike
    obtain ⟨known, here, further, -⟩ := seen_later order sees
    cases here.symm.trans there
    exact further

/-- What a step makes of a job that is seen. -/
inductive Moves (chronicle : Chronicle π ℓ) (jobType : String) (seq count : Nat) (job : Job) :
    Job → Prop where
  /-- Nothing but its notes changes. -/
  | noted {after : Job} (alike : job.Alike after) : Moves chronicle jobType seq count job after
  /-- It is taken. -/
  | taken {worker : Nat} (starts : chronicle.Starts count worker jobType seq)
    (untaken : job.processedOn = none) (unended : job.finishedOn = none) :
    Moves chronicle jobType seq count job
      { job with processedOn := some (chronicle.floor count).now }
  /-- It ends, and nothing of its end was written before. -/
  | ended {worker : Nat} {outcome : Except Failure Value} {taken : Micros}
    (ends : chronicle.Ends count worker jobType seq outcome)
    (processed : job.processedOn = some taken) (past : taken ≤ (chronicle.floor count).now)
    (unended : job.finishedOn = none) (reasonless : job.failedReason = none)
    (valueless : job.returnValue = .null) :
    Moves chronicle jobType seq count job
      (Board.ended job (chronicle.floor count).now outcome)

/-- The life of the job of a number, as whoever has the job sees it. -/
structure Life (chronicle : Chronicle π ℓ) (jobType : String) (seq : Nat) : Prop where
  /-- A job that is on the board is seen as it is there. -/
  board : ∀ count job, (chronicle.board count).job? jobType seq = some job →
    chronicle.seen? jobType seq count = some job
  /-- A job that is seen under a number has that number, and is on the board unless it has ended. -/
  seen : ∀ count job, chronicle.seen? jobType seq count = some job →
    chronicle.Seen jobType seq count job
  /-- A job is first seen when it is created, and nothing is written to it then. -/
  born : ∀ count job, chronicle.seen? jobType seq count = none →
    chronicle.seen? jobType seq (count + 1) = some job → chronicle.Creates count job ∧
      job.processedOn = none ∧ job.finishedOn = none ∧ job.failedReason = none ∧
        job.returnValue = .null
  /-- In one step nothing but the notes of a job changes, or else it is taken, or it ends. -/
  moves : ∀ count job, chronicle.seen? jobType seq count = some job →
    ∃ after, chronicle.seen? jobType seq (count + 1) = some after ∧
      chronicle.Moves jobType seq count job after
  /-- A job is taken at most once. -/
  takenOnce : ∀ earlier later worker other, chronicle.Starts earlier worker jobType seq →
    chronicle.Starts later other jobType seq → earlier = later
  /-- A job ends at most once. -/
  endedOnce : ∀ earlier later worker other outcome result,
    chronicle.Ends earlier worker jobType seq outcome →
      chronicle.Ends later other jobType seq result → earlier = later ∧ outcome = result
  /-- The moments on a job are none, or when it was taken, or that and when it ended. -/
  timely : ∀ count job, chronicle.seen? jobType seq count = some job →
    Timely (chronicle.floor count).now job
  /-- Once a job has ended, nothing but its notes changes any more. -/
  final : ∀ earlier later job, earlier ≤ later →
    chronicle.seen? jobType seq earlier = some job → job.finishedOn.isSome = true →
      ∃ after, chronicle.seen? jobType seq later = some after ∧ job.Alike after
  /-- Listeners are told about a job as everybody sees it, but for its notes. -/
  told : ∀ count worker job event told, job.seq = seq →
    (chronicle.board count).Does worker jobType (.notifying job event told) →
      ∃ known, chronicle.seen? jobType seq count = some known ∧ known.Alike job
  /-- A job is seen pending, then being processed, then in one status in which it has ended. -/
  statuses : ∃ last : Status, (last = .completed ∨ last = .failed) ∧ ∀ moments : List Nat,
    moments.Pairwise (· ≤ ·) → InTurn last
      (moments.filterMap fun count => (chronicle.seen? jobType seq count).map Job.status)

/-- Where the clock does not go back, a job that is seen moves so in every step. -/
theorem moves_of_seen (forward : chronicle.Forward)
    (sees : chronicle.seen? jobType seq count = some job) :
    ∃ after, chronicle.seen? jobType seq (count + 1) = some after ∧
      chronicle.Moves jobType seq count job after := by
  cases chronicle.grows jobType seq count with
  | still same => exact ⟨job, same.trans sees, .noted (.refl job)⟩
  | born creates before after => cases before.symm.trans sees
  | revised change before after =>
    cases before.symm.trans sees
    exact ⟨_, after, .noted (job.alike_revised change)⟩
  | taken starts before pending after =>
    cases before.symm.trans sees
    obtain ⟨untaken, unended⟩ := Job.status_eq_pending.mp pending
    exact ⟨_, after, .taken starts untaken unended⟩
  | ended ends before processing after =>
    cases before.symm.trans sees
    have unended := (Job.status_eq_processing.mp processing).2
    obtain ⟨reasonless, valueless⟩ := blank_of_seen sees (Job.isTerminal_of_processing processing)
    obtain ⟨taken, processed, past⟩ := (timely_of_seen forward sees).taken processing
    exact ⟨_, after, .ended ends processed past unended reasonless valueless⟩

/-- Where the clock does not go back, every job is created, taken and ended at most once each, in
this order, and stays as it has ended. -/
theorem jobs_live_once (chronicle : Chronicle π ℓ) (forward : chronicle.Forward)
    (jobType : String) (seq : Nat) : chronicle.Life jobType seq where
  board _ _ := seen?_of_found
  seen _ _ := seen_of_seen?
  born := by
    intro count job before after
    cases chronicle.grows jobType seq count with
    | still same => cases (before.symm.trans same.symm).trans after
    | born creates _ there =>
      cases there.symm.trans after
      exact ⟨creates, creates.blank⟩
    | revised _ known _ => cases before.symm.trans known
    | taken _ known _ _ => cases before.symm.trans known
    | ended _ known _ _ => cases before.symm.trans known
  moves _ _ := moves_of_seen forward
  takenOnce _ _ _ _ first second := (first.unique second).1
  endedOnce _ _ _ _ _ _ first second := ⟨(first.unique second).1, (first.unique second).2.2⟩
  timely _ _ := timely_of_seen forward
  final := by
    intro earlier later job order sees ended
    obtain ⟨after, here, -, alike⟩ := seen_later order sees
    exact ⟨after, here, alike ended⟩
  told := by
    rintro count worker job event told rfl tells
    obtain ⟨_, _, known, _, _, _, sees, alike⟩ := ended_of_tells tells
    exact ⟨known, sees, alike⟩
  statuses := chronicle.statuses_of_seen jobType seq

/-- A chronicle in which a job fails, another one is created for its fingerprint, ends and is
removed with it. -/
def succeeded : Chronicle Unit Unit :=
  .ofList (some 10) 0 [.create "ask" "a" [] false, .register "ask" 1, .take 0 fun _ => (), .pass 5,
    .finish 0 (.error .notFinite), .create "ask" "a" [] false, .take 0 fun _ => (),
    .finish 0 (.ok .null), .clean none]

/-- The clock of that chronicle does not go back, and the job that failed is the same after the one
that succeeded it is gone. -/
theorem jobs_live_once_succeeded : succeeded.Forward ∧ succeeded.Life "ask" 1 ∧
    (succeeded.board 9).job? "ask" 1 = none ∧
      (succeeded.seen? "ask" 1 9).map (fun job => (job.processedOn, job.finishedOn, job.status)) =
        some (some 0, some 5, .failed) := by
  have forward : succeeded.Forward := forward_ofList (by simp [Step.Onward])
  exact ⟨forward, succeeded.jobs_live_once forward "ask" 1, by decide +kernel, by decide +kernel⟩

end Chronicle

end QuestionDesk.Jobs
