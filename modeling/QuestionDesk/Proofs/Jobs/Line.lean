import QuestionDesk.Proofs.Jobs.Effects

/-!
# The line

The jobs of a type wait in one line and are taken in the order in which they were created, each at
most once; a job that no worker has taken is never lost, whoever cleans up, closes, or engages new
workers.
-/
namespace QuestionDesk.Jobs

variable {π ℓ : Type}

/-! ## One step -/

namespace Floor

variable {floor : Floor π ℓ} (sound : floor.board.Sound) {step : Step π ℓ} {jobType : String}
  {seq : Nat} {job : Job}

/-- No step takes back a number that was given. -/
theorem created_le (floor : Floor π ℓ) (sound : floor.board.Sound) (step : Step π ℓ) :
    floor.board.created ≤ (floor.step step).board.created := by
  cases step with
  | create kind fingerprint payload skipsSearch =>
    exact (Board.outlasts_create sound _ _ _ _ _).created
  | know kind =>
    simp only [Floor.step, Board.ready]
    split <;> exact Nat.le_refl _
  | register kind concurrency =>
    simp only [Floor.step]
    split
    · next engaged => exact Nat.le_of_eq (Board.register_eq engaged).1.symm
    · exact Nat.le_refl _
  | reinforce kind count =>
    simp only [Floor.step, Board.reinforce, Board.ready]
    split <;> exact Nat.le_refl _
  | subscribe event listener => exact Nat.le_refl _
  | take worker start => exact (Board.outlasts_take sound _ worker start).created
  | goOn worker progress notes => exact (Board.outlasts_goOn sound worker progress notes).created
  | finish worker outcome => exact (Board.outlasts_finish sound _ worker outcome).created
  | notified worker outcome => exact (Board.outlasts_notified _ worker outcome).created
  | revise kind number change => exact Nat.le_refl _
  | kill worker => exact (Board.outlasts_kill _ worker).created
  | clean olderThan => exact (Board.outlasts_clean sound _ olderThan).created
  | close => exact Nat.le_of_eq (Board.created_close floor.board).symm
  | pass span => exact Nat.le_refl _

/-- A job that a step creates is given the next number, and waits. -/
theorem created?_facts (sound : floor.board.Sound) (creates : floor.created? step = some job) :
    job.seq = floor.board.created + 1 ∧ (floor.step step).board.created = job.seq ∧
      job.status = .pending ∧ (floor.step step).board.job? job.jobType job.seq = some job := by
  obtain ⟨kind, fingerprint, payload, skipsSearch, -, -, added⟩ := created?_eq_some.mp creates
  obtain ⟨rfl, after⟩ := Prod.mk.inj added
  have kept := Board.sheds_forget sound floor.now kind
  refine ⟨congrArg (· + 1) kept.created, by rw [after], rfl, ?_⟩
  rw [after]
  exact Board.job?_add_self kept.sound floor.now kind fingerprint payload

include sound

/-- A job that is on the board after a step was there before, unless the step created it; and a
pending one was pending. -/
theorem found_before (after : (floor.step step).board.job? jobType seq = some job)
    (old : seq ≤ floor.board.created) :
    ∃ before, floor.board.job? jobType seq = some before ∧
      (job.status = .pending → before.status = .pending) := by
  cases turn sound step jobType seq with
  | aside same => exact ⟨job, same ▸ after, id⟩
  | created creates kind number fresh there =>
    exact absurd old (Nat.not_le_of_lt (fresh ▸ Nat.lt_succ_self _))
  | taken starts before pending there => exact ⟨_, before, fun _ => pending⟩
  | revised change before there =>
    rw [there] at after
    cases after
    exact ⟨_, before, id⟩
  | ended ends before processing there =>
    rw [there] at after
    cases after
    exact ⟨_, before, fun pending => absurd pending
      (Board.status_ne_pending_of_terminal (Board.isTerminal_ended _ _ _))⟩
  | left before terminal there =>
    rw [there] at after
    cases after

/-- A pending job stays pending, unless a worker takes it. -/
theorem waits_on (before : floor.board.job? jobType seq = some job)
    (pending : job.status = .pending)
    (untaken : ∀ worker, ¬floor.Starts step worker jobType seq) :
    ∃ still, (floor.step step).board.job? jobType seq = some still ∧ job.Alike still := by
  cases turn sound step jobType seq with
  | aside same => exact ⟨job, same.trans before, .refl job⟩
  | created creates kind number fresh there =>
    rw [sound.job?_of_above (fresh ▸ Nat.lt_succ_self _)] at before
    cases before
  | taken starts => exact absurd starts (untaken _)
  | revised change earlier there =>
    rw [before] at earlier
    cases earlier
    exact ⟨_, there, job.alike_revised change⟩
  | ended ends earlier processing there =>
    rw [before] at earlier
    cases earlier
    rw [pending] at processing
    cases processing
  | left earlier terminal there =>
    rw [before] at earlier
    cases earlier
    exact absurd pending (Board.status_ne_pending_of_terminal terminal)

end Floor

/-! ## Chronicles -/

namespace Chronicle

variable (chronicle : Chronicle π ℓ)

/-- In the step after some steps a job is created. -/
def Creates (count : Nat) (job : Job) : Prop :=
  (chronicle.floor count).created? (chronicle.steps count) = some job

/-- In the step after some steps a worker is handed the job of a number. -/
def Starts (count worker : Nat) (jobType : String) (seq : Nat) : Prop :=
  (chronicle.floor count).Starts (chronicle.steps count) worker jobType seq

variable {chronicle} {earlier later count : Nat} {jobType : String} {seq : Nat} {job : Job}

/-- Numbers that were given are not taken back. -/
theorem created_mono (order : earlier ≤ later) :
    (chronicle.board earlier).created ≤ (chronicle.board later).created := by
  induction order with
  | refl => exact Nat.le_refl _
  | step order ih =>
    exact Nat.le_trans ih (Floor.created_le _ (chronicle.sound _) (chronicle.steps _))

/-- A job that is on the board, and had its number already at an earlier moment, was there then; and
a pending one was pending. -/
theorem found_since (order : earlier ≤ later)
    (found : (chronicle.board later).job? jobType seq = some job)
    (old : seq ≤ (chronicle.board earlier).created) :
    ∃ before, (chronicle.board earlier).job? jobType seq = some before ∧
      (job.status = .pending → before.status = .pending) := by
  induction order generalizing job with
  | refl => exact ⟨job, found, id⟩
  | step order ih =>
    obtain ⟨between, there, waited⟩ := Floor.found_before (chronicle.sound _) found
      (Nat.le_trans old (created_mono order))
    obtain ⟨before, here, waits⟩ := ih there
    exact ⟨before, here, fun pending => waits (waited pending)⟩

/-- A pending job stays pending for as long as no worker takes it. -/
theorem waits_until (order : earlier ≤ later)
    (found : (chronicle.board earlier).job? jobType seq = some job)
    (pending : job.status = .pending)
    (untaken : ∀ count worker, earlier ≤ count → count < later →
      ¬chronicle.Starts count worker jobType seq) :
    ∃ still, (chronicle.board later).job? jobType seq = some still ∧ job.Alike still := by
  induction order with
  | refl => exact ⟨job, found, .refl job⟩
  | @step later order ih =>
    obtain ⟨between, there, same⟩ := ih fun count worker above below =>
      untaken count worker above (Nat.lt_succ_of_lt below)
    obtain ⟨still, here, alike⟩ := Floor.waits_on (chronicle.sound _) there
      (same.status.trans pending) fun worker => untaken later worker order (Nat.lt_succ_self _)
    exact ⟨still, here, same.trans alike⟩

/-- Jobs are numbered in the order in which they are created. -/
theorem Creates.lt {first second : Job} (left : chronicle.Creates earlier first)
    (right : chronicle.Creates later second) (order : earlier < later) :
    first.seq < second.seq := by
  have given := (Floor.created?_facts (chronicle.sound _) left).2.1
  have next := (Floor.created?_facts (chronicle.sound _) right).1
  have grows : (chronicle.board (earlier + 1)).created ≤ (chronicle.board later).created :=
    created_mono order
  rw [next, ← given]
  exact Nat.lt_succ_of_le grows

/-- The job that a worker takes was the first in line, and is not pending any more. -/
theorem Starts.taken {worker : Nat} (starts : chronicle.Starts count worker jobType seq) :
    ∃ job, (chronicle.board count).job? jobType seq = some job ∧ job.status = .pending ∧
      ∃ after, (chronicle.board (count + 1)).job? jobType seq = some after ∧
        after.status ≠ .pending := by
  obtain ⟨job, found, pending, after⟩ := Floor.taken_of_starts (chronicle.sound _) starts
  refine ⟨job, found, pending, _, after, fun still => ?_⟩
  have taken := (Job.status_eq_pending.mp still).1
  cases taken

/-- No worker takes a job that a worker has taken before. -/
theorem Starts.not_again {worker other : Nat} {kind : String}
    (first : chronicle.Starts earlier worker jobType seq)
    (again : chronicle.Starts later other kind seq) : ¬earlier < later := by
  intro order
  obtain ⟨_, -, -, taken, here, started⟩ := first.taken
  obtain ⟨job, there, pending, -⟩ := again.taken
  have sound := chronicle.sound (earlier + 1)
  obtain ⟨before, known, waits⟩ := found_since order there (sound.seq_le here)
  obtain rfl := sound.jobType_eq here known
  rw [known] at here
  cases here
  exact started (waits pending)

/-- A job is taken once, by one worker. -/
theorem Starts.unique {worker other : Nat} {kind : String}
    (first : chronicle.Starts earlier worker jobType seq)
    (second : chronicle.Starts later other kind seq) :
    earlier = later ∧ worker = other ∧ jobType = kind := by
  rcases Nat.lt_trichotomy earlier later with before | rfl | after
  · exact absurd before (first.not_again second)
  · obtain ⟨_, left, -, -⟩ := first.taken
    obtain ⟨_, right, -, -⟩ := second.taken
    obtain rfl := (chronicle.sound earlier).jobType_eq left right
    obtain ⟨⟨progress, handles⟩, -⟩ := first
    obtain ⟨⟨more, works⟩, -⟩ := second
    have alone := (chronicle.sound (earlier + 1)).alone worker other jobType seq
    exact ⟨rfl, alone ⟨_, handles, rfl⟩ ⟨_, works, rfl⟩, rfl⟩
  · exact absurd after (second.not_again first)

/-- Numbers grow along the line. -/
theorem line_ordered (chronicle : Chronicle π ℓ) (count : Nat) (jobType : String) :
    ((chronicle.board count).lane jobType).waiting.Pairwise (· < ·) := by
  rw [(chronicle.sound count).waiting]
  exact ((chronicle.sound count).ordered jobType).sublist (List.filter_sublist.map _)

/-- Of two jobs of a type the one that is taken first was created first. -/
theorem Starts.lt {worker other first second : Nat}
    (starts : chronicle.Starts earlier worker jobType first)
    (follows : chronicle.Starts later other jobType second) (order : earlier < later) :
    first < second := by
  obtain ⟨-, rest, -, -, line⟩ := (Floor.starts_iff (chronicle.sound _)).mp starts
  obtain ⟨job, found, pending, -⟩ := follows.taken
  rcases Nat.lt_or_ge (chronicle.board earlier).created second with new | old
  · obtain ⟨known, here, -, -⟩ := starts.taken
    exact Nat.lt_of_le_of_lt ((chronicle.sound _).seq_le here) new
  · obtain ⟨before, there, waits⟩ := found_since (Nat.le_of_lt order) found old
    have member := (chronicle.sound earlier).waiting_of_pending there (waits pending)
    have ordered := chronicle.line_ordered earlier jobType
    rw [line] at member ordered
    rcases List.mem_cons.mp member with rfl | behind
    · exact absurd order (starts.not_again follows)
    · exact List.rel_of_pairwise_cons ordered behind

/-- Every job on the board was created at some earlier moment. -/
theorem created_before (found : (chronicle.board count).job? jobType seq = some job) :
    ∃ earlier born, earlier < count ∧ chronicle.Creates earlier born ∧ born.jobType = jobType ∧
      born.seq = seq := by
  induction count generalizing job with
  | zero => cases found
  | succ count ih =>
    have known : ∀ before, (chronicle.board count).job? jobType seq = some before →
        ∃ earlier born, earlier < count + 1 ∧ chronicle.Creates earlier born ∧
          born.jobType = jobType ∧ born.seq = seq := by
      intro before here
      obtain ⟨earlier, born, order, creates⟩ := ih here
      exact ⟨earlier, born, Nat.lt_succ_of_lt order, creates⟩
    cases Floor.turn (chronicle.sound count) (chronicle.steps count) jobType seq with
    | aside same => exact known job (same.symm.trans found)
    | created creates kind number fresh after =>
      exact ⟨count, _, Nat.lt_succ_self count, creates, kind, number⟩
    | taken starts before pending after => exact known _ before
    | revised change before after => exact known _ before
    | ended ends before processing after => exact known _ before
    | left before terminal after => exact known _ before

/-- Jobs are numbered once, wait in one line for each type, and leave it for a handler only. -/
structure InLine (chronicle : Chronicle π ℓ) : Prop where
  /-- No number is given twice, and later jobs have larger ones, whatever their types. -/
  numbered : ∀ earlier later first second, chronicle.Creates earlier first →
    chronicle.Creates later second → earlier < later → first.seq < second.seq
  /-- Every job on the board was created, with its number. -/
  born : ∀ count jobType, ∀ job ∈ ((chronicle.board count).lane jobType).jobs,
    ∃ earlier first, earlier < count ∧ chronicle.Creates earlier first ∧
      first.jobType = jobType ∧ first.seq = job.seq
  /-- The jobs of a type stand in the order of their numbers. -/
  ordered : ∀ count jobType,
    (((chronicle.board count).lane jobType).jobs.map Job.seq).Pairwise (· < ·)
  /-- No two jobs on the board have one number. -/
  apart : ∀ count left right, ∀ first ∈ ((chronicle.board count).lane left).jobs,
    ∀ second ∈ ((chronicle.board count).lane right).jobs, first.seq = second.seq →
      left = right ∧ first = second
  /-- The line of a type is its pending jobs, in their order. -/
  line : ∀ count jobType, ((chronicle.board count).lane jobType).waiting =
    (((chronicle.board count).lane jobType).jobs.filter (·.status = .pending)).map Job.seq
  /-- A worker that turns to the line takes the first in it, and no handler is handed a job
  otherwise. -/
  first : ∀ count worker jobType seq, chronicle.Starts count worker jobType seq ↔
    ∃ start rest, chronicle.steps count = .take worker start ∧
      (chronicle.board count).Does worker jobType .idle ∧
        ((chronicle.board count).lane jobType).waiting = seq :: rest
  /-- A job is handed to a handler at most once. -/
  once : ∀ earlier later worker other jobType kind seq,
    chronicle.Starts earlier worker jobType seq → chronicle.Starts later other kind seq →
      earlier = later ∧ worker = other ∧ jobType = kind
  /-- The jobs of a type are handed to handlers in the order of their numbers. -/
  inOrder : ∀ earlier later worker other jobType first second,
    chronicle.Starts earlier worker jobType first → chronicle.Starts later other jobType second →
      earlier < later → first < second
  /-- A job that no handler was handed is on the board and in line. -/
  kept : ∀ earlier later job, chronicle.Creates earlier job → earlier < later →
    (∀ count worker, count < later → ¬chronicle.Starts count worker job.jobType job.seq) →
      ∃ still ∈ ((chronicle.board later).lane job.jobType).jobs, job.Alike still ∧
        still.status = .pending ∧ job.seq ∈ ((chronicle.board later).lane job.jobType).waiting

/-- Whatever happens to a board, its jobs are numbered once, wait in line, are taken in the order in
which they were created and at most once, and are not lost before. -/
theorem jobs_wait_in_line (chronicle : Chronicle π ℓ) : chronicle.InLine where
  numbered _ _ _ _ left right order := left.lt right order
  born count _ _ member := created_before ((chronicle.sound count).job?_of_mem member)
  ordered count := (chronicle.sound count).ordered
  apart := by
    intro count left right first here second there same
    have sound := chronicle.sound count
    obtain rfl := sound.apart _ _ _ here _ there same
    exact ⟨rfl, Lane.eq_of_seq_eq (sound.ordered left) here there same⟩
  line count := (chronicle.sound count).waiting
  first count _ _ _ := Floor.starts_iff (chronicle.sound count)
  once _ _ _ _ _ _ _ first second := first.unique second
  inOrder _ _ _ _ _ _ _ first second order := first.lt second order
  kept := by
    intro earlier later job creates order untaken
    obtain ⟨-, -, pending, found⟩ := Floor.created?_facts (chronicle.sound earlier) creates
    obtain ⟨still, here, alike⟩ := waits_until order found pending fun count worker _ below =>
      untaken count worker below
    have waits := alike.status.trans pending
    exact ⟨still, (Lane.mem_of_job? here).1, alike, waits,
      (chronicle.sound later).waiting_of_pending here waits⟩

/-- A chronicle in which everybody is sent away while one job is handled and one waits, the board
is cleaned, and new workers are engaged. -/
def reopened : Chronicle Unit Unit :=
  .ofList (some 0) 0 [.register "ask" 1, .create "ask" "a" [] false, .create "tell" "a" [] false,
    .create "ask" "b" [] false, .take 0 fun _ => (), .close, .clean none, .register "ask" 2,
    .take 1 fun _ => ()]

/-- The job that waited while everybody was away is taken afterwards, and never again. -/
theorem jobs_wait_in_line_reopened : reopened.Starts 4 0 "ask" 1 ∧ reopened.Starts 8 1 "ask" 3 ∧
    ∀ later worker kind, reopened.Starts later worker kind 3 → later = 8 ∧ worker = 1 := by
  have first : reopened.Starts 4 0 "ask" 1 :=
    ⟨⟨(), by decide +kernel⟩, fun ⟨⟩ => by decide +kernel⟩
  have taken : reopened.Starts 8 1 "ask" 3 :=
    ⟨⟨(), by decide +kernel⟩, fun ⟨⟩ => by decide +kernel⟩
  refine ⟨first, taken, fun later worker kind again => ?_⟩
  have same := (jobs_wait_in_line reopened).once _ _ _ _ _ _ _ again taken
  exact ⟨same.1, same.2.1⟩

end Chronicle

end QuestionDesk.Jobs
