import QuestionDesk.Proofs.Jobs.Advance

/-!
# Chronicles

A chronicle is what becomes of a board once it is put up: jobs are created, workers are engaged,
take jobs, go on, end and tell listeners, jobs that have ended are removed, everybody is sent away,
and time goes by, in any order. `Turn` says all that a step can do to one job and `Duty` all that it
can do to one worker; every statement about chronicles is an induction over the two.
-/
namespace QuestionDesk.Jobs

variable {π ℓ : Type}

/-! ## Notes -/

/-- A job whose notes were revised. -/
def Job.revised (job : Job) (change : Fields → Fields) : Job :=
  { job with notes := change job.notes }

namespace Job

/-- One job is the other but for its notes. -/
def Alike (job other : Job) : Prop := other = job.revised fun _ => other.notes

/-- A job is itself but for its notes. -/
theorem Alike.refl (job : Job) : job.Alike job := rfl

/-- What is a job but for its notes is so over several revisions. -/
theorem Alike.trans {first second third : Job} (before : first.Alike second)
    (after : second.Alike third) : first.Alike third := by
  unfold Alike at before after ⊢
  rw [after, before]
  rfl

/-- A job is the other but for its notes when the other is so. -/
theorem Alike.symm {job other : Job} (alike : job.Alike other) : other.Alike job := by
  unfold Alike at alike ⊢
  rw [alike]
  rfl

/-- A job whose notes were revised is the job but for its notes. -/
theorem alike_revised (job : Job) (change : Fields → Fields) : job.Alike (job.revised change) := rfl

/-- A job keeps its status when its notes are revised. -/
theorem Alike.status {job other : Job} (alike : job.Alike other) : other.status = job.status := by
  rw [alike]
  rfl

/-- A job keeps its number when its notes are revised. -/
theorem Alike.seq {job other : Job} (alike : job.Alike other) : other.seq = job.seq := by
  rw [alike]
  rfl

/-- A job keeps its end when its notes are revised. -/
theorem Alike.isTerminal {job other : Job} (alike : job.Alike other) :
    other.isTerminal = job.isTerminal := by
  rw [alike]
  rfl

end Job

/-! ## What may happen at a board -/

/-- A worker once the notes of a job were revised. One that tells listeners about the job tells
them about it with its new notes. -/
def Worker.revised (worker : Worker π) (jobType : String) (seq : Nat)
    (change : Fields → Fields) : Worker π :=
  match worker with
  | ⟨kind, .notifying job event told⟩ =>
    if kind = jobType ∧ job.seq = seq then ⟨kind, .notifying (job.revised change) event told⟩
    else worker
  | _ => worker

namespace Board

/-- The board once the notes of a job were revised. -/
def revise (board : Board π ℓ) (jobType : String) (seq : Nat) (change : Fields → Fields) :
    Board π ℓ :=
  { board.update jobType seq (·.revised change) with
    workers := board.workers.map (·.revised jobType seq change) }

/-- The board with more workers for a type, whoever serves it already. -/
def reinforce (board : Board π ℓ) (jobType : String) (count : Nat) : Board π ℓ :=
  { board.ready jobType with
    workers := board.workers ++ List.replicate count { jobType := jobType } }

end Board

/-- Something that happens at a board. -/
inductive Step (π ℓ : Type) where
  /-- Somebody asks for the job of a fingerprint. -/
  | create (jobType fingerprint : String) (payload : Fields) (skipsSearch : Bool)
  /-- A type is made known. -/
  | know (jobType : String)
  /-- Somebody engages workers for a type, which is refused where the type is staffed. -/
  | register (jobType : String) (concurrency : Int)
  /-- Workers come to a type beside those that a close is still waiting for. -/
  | reinforce (jobType : String) (count : Nat)
  /-- Somebody subscribes a listener. -/
  | subscribe (event : Event) (listener : ℓ)
  /-- A worker takes the job that has waited longest. -/
  | take (worker : Nat) (start : Job → π)
  /-- A handler goes on. -/
  | goOn (worker : Nat) (progress : π) (notes : Fields)
  /-- A handler returns, fails, or is cut off. -/
  | finish (worker : Nat) (outcome : Except Failure Value)
  /-- A listener returns, fails, or is cut off. -/
  | notified (worker : Nat) (outcome : Except Failure Unit)
  /-- Whoever has a job revises its notes. -/
  | revise (jobType : String) (seq : Nat) (change : Fields → Fields)
  /-- A worker is cut off in what it is doing, or while it waits. -/
  | kill (worker : Nat)
  /-- Jobs that have ended are removed. -/
  | clean (olderThan : Option Micros)
  /-- All workers are sent away at once. -/
  | close
  /-- The clock moves. -/
  | pass (span : Micros)

/-- In a step the clock does not go back. -/
def Step.Onward : Step π ℓ → Prop
  | .pass span => 0 ≤ span
  | _ => True

/-- A board and the moment. -/
structure Floor (π ℓ : Type) where
  /-- The moment. -/
  now : Micros
  /-- The board. -/
  board : Board π ℓ

namespace Floor

/-- What a step brings about. -/
def step (floor : Floor π ℓ) : Step π ℓ → Floor π ℓ
  | .create jobType fingerprint payload skipsSearch =>
    { floor with
      board := (floor.board.create floor.now jobType fingerprint payload skipsSearch).2 }
  | .know jobType => { floor with board := floor.board.ready jobType }
  | .register jobType concurrency =>
    match floor.board.register jobType concurrency with
    | .ok engaged => { floor with board := engaged }
    | .error _ => floor
  | .reinforce jobType count => { floor with board := floor.board.reinforce jobType count }
  | .subscribe event listener => { floor with board := floor.board.subscribe event listener }
  | .take worker start => { floor with board := floor.board.take floor.now worker start }
  | .goOn worker progress notes => { floor with board := floor.board.goOn worker progress notes }
  | .finish worker outcome => { floor with board := floor.board.finish floor.now worker outcome }
  | .notified worker outcome => { floor with board := floor.board.notified worker outcome }
  | .revise jobType seq change => { floor with board := floor.board.revise jobType seq change }
  | .kill worker => { floor with board := floor.board.kill worker }
  | .clean olderThan => { floor with board := (floor.board.clean floor.now olderThan).2 }
  | .close => { floor with board := floor.board.close }
  | .pass span => { floor with now := floor.now + span }

end Floor

/-- What happens to a board that is put up without jobs, workers and listeners. -/
structure Chronicle (π ℓ : Type) where
  /-- How long a job that has ended stays, when it does not stay for ever. -/
  retention : Option Micros
  /-- When the board is put up. -/
  began : Micros
  /-- The steps, one after the other. -/
  steps : Nat → Step π ℓ

namespace Chronicle

/-- The board and the moment after some steps. -/
def floor (chronicle : Chronicle π ℓ) : Nat → Floor π ℓ
  | 0 => ⟨chronicle.began, { retention := chronicle.retention }⟩
  | count + 1 => (floor chronicle count).step (chronicle.steps count)

/-- The board after some steps. -/
abbrev board (chronicle : Chronicle π ℓ) (count : Nat) : Board π ℓ := (chronicle.floor count).board

/-- The chronicle of some steps, after which nothing happens any more. -/
def ofList (retention : Option Micros) (began : Micros) (steps : List (Step π ℓ)) :
    Chronicle π ℓ where
  retention := retention
  began := began
  steps count := steps.getD count (.pass 0)

/-- In the chronicle of some steps those that have been made are the first ones. -/
theorem floor_ofList (retention : Option Micros) (began : Micros) (steps : List (Step π ℓ))
    {count : Nat} (within : count ≤ steps.length) : (ofList retention began steps).floor count =
      (steps.take count).foldl Floor.step ⟨began, { retention := retention }⟩ := by
  induction count with
  | zero => rfl
  | succ count ih =>
    rw [List.take_add_one, List.getElem?_eq_getElem within, List.foldl_append, floor,
      ih (Nat.le_of_succ_le within)]
    simp [ofList, List.getD_eq_getElem?_getD, List.getElem?_eq_getElem within]

/-- The clock of a chronicle does not go back. -/
def Forward (chronicle : Chronicle π ℓ) : Prop := ∀ count, (chronicle.steps count).Onward

/-- The clock of the chronicle of some steps does not go back if it does in none of them. -/
theorem forward_ofList {retention : Option Micros} {began : Micros} {steps : List (Step π ℓ)}
    (onward : ∀ step ∈ steps, step.Onward) : (ofList retention began steps).Forward := by
  intro count
  simp only [ofList, List.getD_eq_getElem?_getD]
  cases found : steps[count]? with
  | none => exact Int.le_refl 0
  | some step => exact onward step (List.mem_of_getElem? found)

end Chronicle

/-! ## Soundness -/

namespace Board

/-- A worker that does something once notes were revised did it before, but for the notes. -/
theorem does_revise {board : Board π ℓ} {jobType kind : String} {seq worker : Nat}
    {change : Fields → Fields} {activity : Activity π}
    (does : (board.revise jobType seq change).Does worker kind activity) :
    (board.Does worker kind activity ∧ ∀ job event told, activity = .notifying job event told →
      ¬(kind = jobType ∧ job.seq = seq)) ∨ ∃ job event told, kind = jobType ∧ job.seq = seq ∧
        board.Does worker kind (.notifying job event told) ∧
          activity = .notifying (job.revised change) event told := by
  rw [Does, revise, List.getElem?_map, Option.map_eq_some_iff] at does
  obtain ⟨⟨other, before⟩, found, same⟩ := does
  cases before with
  | notifying job event told =>
    simp only [Worker.revised] at same
    split at same
    · next own =>
      cases same
      exact Or.inr ⟨job, event, told, own.1, own.2, found, rfl⟩
    · next apart =>
      cases same
      refine Or.inl ⟨found, ?_⟩
      rintro _ _ _ ⟨⟩
      exact apart
  | _ =>
    cases same
    refine Or.inl ⟨found, fun job event told telling => ?_⟩
    cases telling

/-- The number of the job that a worker is busy with is the same once notes were revised. -/
theorem busy_of_revise {board : Board π ℓ} {jobType kind : String} {seq worker number : Nat}
    {change : Fields → Fields} (busy : (board.revise jobType seq change).Busy worker kind number) :
    board.Busy worker kind number := by
  obtain ⟨activity, does, same⟩ := busy
  rcases does_revise does with ⟨before, -⟩ | ⟨job, event, told, -, -, before, rfl⟩
  · exact ⟨activity, before, same⟩
  · exact ⟨_, before, same⟩

/-- The jobs once the notes of one of them were revised. -/
theorem job?_revise (board : Board π ℓ) (jobType : String) (seq : Nat)
    (change : Fields → Fields) (other : String) (number : Nat) :
    (board.revise jobType seq change).job? other number =
      if other = jobType ∧ number = seq then (board.job? jobType seq).map (·.revised change)
      else board.job? other number :=
  @job?_update _ _ board jobType seq (·.revised change) (fun _ same => same) other number

/-- The lane of a type once the notes of a job were revised. -/
theorem lane_revise (board : Board π ℓ) (jobType : String) (seq : Nat)
    (change : Fields → Fields) (other : String) :
    (board.revise jobType seq change).lane other =
      if other = jobType then (board.lane jobType).update seq (·.revised change)
      else board.lane other :=
  lane_withLane _ _ _ _

/-- A job that is on a board once notes were revised was there before, but for its notes. -/
theorem mem_revise {board : Board π ℓ} {jobType other : String} {seq : Nat}
    {change : Fields → Fields} {job : Job}
    (member : job ∈ ((board.revise jobType seq change).lane other).jobs) :
    ∃ before ∈ (board.lane other).jobs, before.Alike job := by
  rw [lane_revise] at member
  split at member
  · next same =>
    subst same
    rcases Lane.mem_update.mp member with ⟨before, here, _, rfl⟩ | ⟨here, _⟩
    · exact ⟨before, here, before.alike_revised change⟩
    · exact ⟨job, here, .refl job⟩
  · exact ⟨job, member, .refl job⟩

/-- Revising notes keeps a board sound. -/
theorem Sound.revise {board : Board π ℓ} (sound : board.Sound) (jobType : String) (seq : Nat)
    (change : Fields → Fields) : (board.revise jobType seq change).Sound where
  ordered other := by
    rw [lane_revise]
    split
    · next same =>
      rw [Lane.seqs_update]
      · exact same ▸ sound.ordered jobType
      · exact fun _ number => number
    · exact sound.ordered other
  placed other job member := by
    obtain ⟨before, here, alike⟩ := mem_revise member
    rw [alike]
    exact sound.placed other before here
  apart left right first firstHere second secondHere equal := by
    obtain ⟨one, oneHere, same⟩ := mem_revise firstHere
    obtain ⟨two, twoHere, alike⟩ := mem_revise secondHere
    rw [same.seq, alike.seq] at equal
    exact sound.apart left right one oneHere two twoHere equal
  waiting other := by
    rw [lane_revise]
    split
    · exact (sound.waiting jobType).trans (@Lane.pending_update _ seq (·.revised change)
        (fun _ number => number) fun _ _ _ => Iff.rfl).symm
    · exact sound.waiting other
  handled worker other number progress does := by
    rcases does_revise does with ⟨before, -⟩ | ⟨_, _, _, _, _, _, notifying⟩
    · obtain ⟨job, found, processing⟩ := sound.handled _ _ _ _ before
      rw [job?_revise]
      split
      · next own =>
        obtain ⟨rfl, rfl⟩ := own
        exact ⟨job.revised change, by rw [found, Option.map_some], processing⟩
      · exact ⟨job, found, processing⟩
    · cases notifying
  told worker other job event count does := by
    rcases does_revise does with ⟨before, apart⟩ | ⟨old, event, told, rfl, rfl, before, same⟩
    · obtain ⟨ended, kind, below, only⟩ := sound.told _ _ _ _ _ before
      refine ⟨ended, kind, below, fun found here => only found ?_⟩
      rwa [job?_revise, if_neg (apart _ _ _ rfl)] at here
    · cases same
      obtain ⟨ended, kind, below, only⟩ := sound.told _ _ _ _ _ before
      refine ⟨ended, kind, below, fun found here => ?_⟩
      rw [job?_revise, if_pos ⟨rfl, rfl⟩] at here
      obtain ⟨known, there, rfl⟩ := Option.map_eq_some_iff.mp here
      rw [only known there]
  alone left right other number first second :=
    sound.alone left right other number (busy_of_revise first) (busy_of_revise second)
  blameless other job member unended := by
    obtain ⟨before, here, alike⟩ := mem_revise member
    rw [alike.isTerminal] at unended
    rw [alike]
    exact sound.blameless other before here unended

/-- A board that has more workers than before, all of them idle. -/
theorem does_of_more {board after : Board π ℓ} {jobType : String} {count : Nat}
    (workers : after.workers = board.workers ++ List.replicate count { jobType := jobType })
    {worker : Nat} {kind : String} {activity : Activity π}
    (does : after.Does worker kind activity) :
    board.Does worker kind activity ∨ activity = .idle := by
  rw [Does, workers, List.getElem?_append] at does
  split at does
  · exact Or.inl does
  · obtain ⟨-, fresh⟩ := List.mem_replicate.mp (List.mem_of_getElem? does)
    cases fresh
    exact Or.inr rfl

/-- More workers keep a board sound. -/
theorem Sound.reinforce {board : Board π ℓ} (sound : board.Sound) (jobType : String)
    (count : Nat) : (board.reinforce jobType count).Sound := by
  have lanes : ∀ other, (board.reinforce jobType count).lane other = board.lane other :=
    board.lane_ready jobType
  have created : (board.reinforce jobType count).created = board.created := by
    unfold Board.reinforce ready
    split <;> rfl
  refine sound.of_workers (fun other => congrArg Lane.jobs (lanes other))
    (fun other => congrArg Lane.waiting (lanes other)) created fun worker kind activity does => ?_
  rcases does_of_more rfl does with before | rfl
  · exact Or.inr (Or.inl before)
  · exact Or.inl rfl

/-- Making a type known keeps a board sound. -/
theorem Sound.ready {board : Board π ℓ} (sound : board.Sound) (jobType : String) :
    (board.ready jobType).Sound := by
  have same : (board.ready jobType).workers = board.workers ∧
      (board.ready jobType).created = board.created := by
    unfold Board.ready
    split <;> exact ⟨rfl, rfl⟩
  refine sound.of_workers (fun other => congrArg Lane.jobs (board.lane_ready jobType other))
    (fun other => congrArg Lane.waiting (board.lane_ready jobType other)) same.2 ?_
  intro worker kind activity does
  rw [Does, same.1] at does
  exact Or.inr (Or.inl does)

/-- Sending all workers away creates no job. -/
theorem created_close (board : Board π ℓ) : board.close.created = board.created := by
  change ((List.range board.workers.length).foldl kill board).created = _
  generalize List.range board.workers.length = workers
  induction workers generalizing board with
  | nil => rfl
  | cons worker rest ih => exact (ih (board.kill worker)).trans (board.created_kill worker)

/-- For how long a board keeps jobs that have ended, and who listens. -/
def rules (board : Board π ℓ) : Option Micros × List (Event × ℓ) :=
  (board.retention, board.listeners)

/-- A worker that goes for good does not change the rules. -/
theorem rules_kill (board : Board π ℓ) (worker : Nat) : (board.kill worker).rules = board.rules := by
  unfold kill
  split <;> rfl

/-- Nor does a worker that tells the next listener, or is done. -/
theorem rules_tellNext (board : Board π ℓ) (worker : Nat) (jobType : String) (job : Job)
    (event : Event) (told : Nat) :
    (board.tellNext worker jobType job event told).rules = board.rules := by
  unfold tellNext
  split <;> rfl

/-- Nor does sending all workers away. -/
theorem rules_close (board : Board π ℓ) : board.close.rules = board.rules := by
  change ((List.range board.workers.length).foldl kill board).rules = _
  generalize List.range board.workers.length = workers
  induction workers generalizing board with
  | nil => rfl
  | cons worker rest ih => exact (ih (board.kill worker)).trans (board.rules_kill worker)

/-- Nor does making a type known. -/
theorem rules_ready (board : Board π ℓ) (jobType : String) :
    (board.ready jobType).rules = board.rules := by
  unfold ready
  split <;> rfl

/-- Nor does forgetting old jobs. -/
theorem rules_forget (board : Board π ℓ) (now : Micros) (jobType : String) :
    (board.forget now jobType).rules = board.rules := by
  unfold forget prune
  split
  · split <;> rfl
  · rfl

/-- Sending all workers away leaves all jobs as they are. -/
theorem jobs_close (board : Board π ℓ) (jobType : String) :
    (board.close.lane jobType).jobs = (board.lane jobType).jobs := by
  change (((List.range board.workers.length).foldl kill board).lane jobType).jobs = _
  generalize List.range board.workers.length = workers
  induction workers generalizing board with
  | nil => rfl
  | cons worker rest ih => exact (ih (board.kill worker)).trans (board.lane_kill worker jobType).1

end Board

/-- Every step keeps a board sound. -/
theorem Floor.sound_step {floor : Floor π ℓ} (sound : floor.board.Sound) (step : Step π ℓ) :
    (floor.step step).board.Sound := by
  cases step with
  | create jobType fingerprint payload skipsSearch => exact sound.create _ _ _ _ _
  | know jobType => exact sound.ready jobType
  | register jobType concurrency =>
    simp only [Floor.step]
    split
    · next engaged => exact sound.register engaged
    · exact sound
  | reinforce jobType count => exact sound.reinforce jobType count
  | subscribe event listener => exact sound.subscribe event listener
  | take worker start => exact sound.take _ worker start
  | goOn worker progress notes => exact sound.goOn worker progress notes
  | finish worker outcome => exact sound.finish _ worker outcome
  | notified worker outcome => exact sound.notified worker outcome
  | revise jobType seq change => exact sound.revise jobType seq change
  | kill worker => exact sound.kill worker
  | clean olderThan => exact sound.clean _ olderThan
  | close => exact sound.close
  | pass span => exact sound

/-- In a step that goes on the clock does not go back. -/
theorem Floor.now_step {floor : Floor π ℓ} {step : Step π ℓ} (onward : step.Onward) :
    floor.now ≤ (floor.step step).now := by
  cases step with
  | pass span => exact Int.le_add_of_nonneg_right onward
  | register jobType concurrency =>
    simp only [Floor.step]
    split <;> exact Int.le_refl _
  | _ => exact Int.le_refl _

/-- The listeners that are subscribed in a step. -/
def Step.subscribed : Step π ℓ → List (Event × ℓ)
  | .subscribe event listener => [(event, listener)]
  | _ => []

/-- No step changes the rules, but that new listeners come behind those that are there. -/
theorem Floor.rules_step (floor : Floor π ℓ) (step : Step π ℓ) :
    (floor.step step).board.rules =
      (floor.board.retention, floor.board.listeners ++ step.subscribed) := by
  have same : ∀ {board : Board π ℓ}, board.rules = floor.board.rules →
      board.rules = (floor.board.retention, floor.board.listeners ++ []) := by
    intro board rules
    rw [rules, List.append_nil]
    rfl
  cases step with
  | create jobType fingerprint payload skipsSearch =>
    refine same ?_
    simp only [Floor.step, Board.create]
    split <;> exact floor.board.rules_forget floor.now jobType
  | know jobType => exact same (floor.board.rules_ready jobType)
  | register jobType concurrency =>
    refine same ?_
    simp only [Floor.step]
    split
    · next engaged =>
      obtain ⟨-, retention, listeners, -⟩ := Board.register_eq engaged
      exact Prod.ext retention listeners
    · rfl
  | reinforce jobType count => exact same (floor.board.rules_ready jobType)
  | take worker start =>
    refine same ?_
    simp only [Floor.step, Board.take]
    split
    · split
      · rfl
      · split <;> rfl
    · rfl
  | goOn worker progress notes =>
    refine same ?_
    simp only [Floor.step, Board.goOn]
    split <;> rfl
  | finish worker outcome =>
    refine same ?_
    simp only [Floor.step, Board.finish]
    split
    · split
      · exact floor.board.rules_kill worker
      · split
        · rfl
        · exact Board.rules_tellNext _ _ _ _ _ _
    · rfl
  | notified worker outcome =>
    refine same ?_
    simp only [Floor.step, Board.notified]
    split
    · split
      · exact floor.board.rules_kill worker
      · exact Board.rules_tellNext _ _ _ _ _ _
    · rfl
  | kill worker => exact same (floor.board.rules_kill worker)
  | close => exact same floor.board.rules_close
  | subscribe event listener => rfl
  | revise jobType seq change | clean olderThan | pass span => exact same rfl

/-- No step changes for how long jobs that have ended are kept. -/
theorem Floor.retention_step (floor : Floor π ℓ) (step : Step π ℓ) :
    (floor.step step).board.retention = floor.board.retention :=
  congrArg Prod.fst (floor.rules_step step)

/-- Listeners stay, and new ones come behind them. -/
theorem Floor.listeners_step (floor : Floor π ℓ) (step : Step π ℓ) :
    (floor.step step).board.listeners = floor.board.listeners ++ step.subscribed :=
  congrArg Prod.snd (floor.rules_step step)

/-- The board of a chronicle is sound at every moment. -/
theorem Chronicle.sound (chronicle : Chronicle π ℓ) (count : Nat) :
    (chronicle.board count).Sound := by
  induction count with
  | zero => exact Board.sound_of_empty rfl rfl
  | succ count ih => exact Floor.sound_step ih (chronicle.steps count)

/-! ## Creating -/

namespace Board

/-- A job that waits is on the board and pending. -/
theorem Sound.pending_of_waiting {board : Board π ℓ} (sound : board.Sound) {jobType : String}
    {seq : Nat} (waits : seq ∈ (board.lane jobType).waiting) :
    ∃ job, board.job? jobType seq = some job ∧ job.status = .pending := by
  rw [sound.waiting] at waits
  obtain ⟨job, member, rfl⟩ := List.mem_map.mp waits
  obtain ⟨inside, pending⟩ := List.mem_filter.mp member
  exact ⟨job, sound.job?_of_mem inside, by simpa using pending⟩

/-- A pending job waits. -/
theorem Sound.waiting_of_pending {board : Board π ℓ} (sound : board.Sound) {jobType : String}
    {seq : Nat} {job : Job} (found : board.job? jobType seq = some job)
    (pending : job.status = .pending) : seq ∈ (board.lane jobType).waiting := by
  obtain ⟨member, rfl⟩ := Lane.mem_of_job? found
  rw [sound.waiting]
  exact List.mem_map_of_mem (List.mem_filter.mpr ⟨member, by simpa using pending⟩)

/-- The number of a job that is on a sound board was given. -/
theorem Sound.seq_le {board : Board π ℓ} (sound : board.Sound) {jobType : String} {seq : Nat}
    {job : Job} (found : board.job? jobType seq = some job) : seq ≤ board.created := by
  obtain ⟨member, rfl⟩ := Lane.mem_of_job? found
  exact (sound.placed jobType job member).2.2.2

/-- A job of which a number was not given yet is not on a sound board. -/
theorem Sound.job?_of_above {board : Board π ℓ} (sound : board.Sound) {seq : Nat}
    (above : board.created < seq) (jobType : String) : board.job? jobType seq = none := by
  cases found : board.job? jobType seq with
  | none => rfl
  | some job => exact absurd (sound.seq_le found) (Nat.not_le_of_lt above)

/-- Jobs of one number are of one type. -/
theorem Sound.jobType_eq {board : Board π ℓ} (sound : board.Sound) {left right : String} {seq : Nat}
    {job other : Job} (first : board.job? left seq = some job)
    (second : board.job? right seq = some other) : left = right := by
  obtain ⟨here, rfl⟩ := Lane.mem_of_job? first
  obtain ⟨there, same⟩ := Lane.mem_of_job? second
  exact sound.apart _ _ _ here _ there same.symm

/-- Whoever asks for a job is given one that can be used, or else a new one. -/
theorem create_cases (board : Board π ℓ) (now : Micros) (jobType fingerprint : String)
    (payload : Fields) (skipsSearch : Bool) :
    (∃ job, skipsSearch = false ∧
      (board.forget now jobType).findUsable? jobType fingerprint = some job ∧
        board.create now jobType fingerprint payload skipsSearch =
          (job, board.forget now jobType)) ∨
      ((skipsSearch = true ∨
        (board.forget now jobType).findUsable? jobType fingerprint = none) ∧
          board.create now jobType fingerprint payload skipsSearch =
            (board.forget now jobType).add now jobType fingerprint payload) := by
  unfold create
  dsimp only
  cases skipsSearch with
  | true => exact Or.inr ⟨Or.inl rfl, rfl⟩
  | false =>
    cases found : (board.forget now jobType).findUsable? jobType fingerprint with
    | none => exact Or.inr ⟨Or.inr rfl, rfl⟩
    | some job => exact Or.inl ⟨job, rfl, rfl, rfl⟩

end Board

namespace Floor

/-- The job that a step creates, if it creates one. -/
def created? (floor : Floor π ℓ) : Step π ℓ → Option Job
  | .create jobType fingerprint payload skipsSearch =>
    let (job, after) := floor.board.create floor.now jobType fingerprint payload skipsSearch
    if after.created = floor.board.created then none else some job
  | _ => none

/-- A step that creates a job adds it to what is left on the board. -/
theorem created?_eq_some {floor : Floor π ℓ} {step : Step π ℓ} {job : Job} :
    floor.created? step = some job ↔ ∃ jobType fingerprint payload skipsSearch,
      step = .create jobType fingerprint payload skipsSearch ∧
        (skipsSearch = true ∨
          (floor.board.forget floor.now jobType).findUsable? jobType fingerprint = none) ∧
          (job, (floor.step step).board) =
            (floor.board.forget floor.now jobType).add floor.now jobType fingerprint payload := by
  have kept : ∀ jobType, (floor.board.forget floor.now jobType).created = floor.board.created := by
    intro jobType
    unfold Board.forget
    split
    · exact Board.created_prune _ _ _
    · rfl
  constructor
  · intro creates
    cases step with
    | create jobType fingerprint payload skipsSearch =>
      refine ⟨jobType, fingerprint, payload, skipsSearch, rfl, ?_⟩
      simp only [created?, Option.ite_none_left_eq_some, Option.some.injEq] at creates
      rcases floor.board.create_cases floor.now jobType fingerprint payload skipsSearch with
        ⟨known, -, -, found⟩ | ⟨fails, added⟩
      · rw [found] at creates
        exact absurd (kept jobType) creates.1
      · refine ⟨fails, ?_⟩
        rw [← creates.2, Floor.step, added]
    | _ => cases creates
  · rintro ⟨jobType, fingerprint, payload, skipsSearch, rfl, fails, added⟩
    rcases floor.board.create_cases floor.now jobType fingerprint payload skipsSearch with
      ⟨known, searches, usable, -⟩ | ⟨-, same⟩
    · rcases fails with skips | none
      · rw [searches] at skips
        cases skips
      · rw [usable] at none
        cases none
    · have more : ((floor.board.forget floor.now jobType).add floor.now jobType fingerprint
          payload).2.created ≠ floor.board.created :=
        kept jobType ▸ Nat.succ_ne_self _
      simp only [created?, same, if_neg more]
      rw [← added]

end Floor

end QuestionDesk.Jobs
