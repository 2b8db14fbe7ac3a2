import Mathlib.Data.List.Nodup
import QuestionDesk.Proofs.Jobs.Endurance

/-!
# Expiry

Jobs that have ended are removed from a board when they are old enough: on purpose, from all types
at once, or from one type when somebody asks for a job of that type. What is removed is exactly what
is over, the rest keeps its order, and no job is removed before it has ended.
-/
namespace QuestionDesk

namespace Keyed

variable {α : Type}

/-- The names once a thing was written under one of them. -/
theorem names_put (things : Keyed α) (name : String) (thing : α) :
    (things.put name thing).map Prod.fst =
      if name ∈ things.map Prod.fst then things.map Prod.fst
      else things.map Prod.fst ++ [name] := by
  induction things with
  | nil => simp [put]
  | cons entry rest ih =>
    by_cases same : entry.1 = name
    · simp [put, same]
    · have apart : name ≠ entry.1 := fun equal => same equal.symm
      rw [put, if_neg same, List.map_cons, ih, List.map_cons]
      by_cases known : name ∈ rest.map Prod.fst
      · rw [if_pos known, if_pos (List.mem_cons_of_mem _ known)]
      · rw [if_neg known, if_neg (List.not_mem_cons_of_ne_of_not_mem apart known), List.cons_append]

/-- Names stay distinct when a thing is written. -/
theorem nodup_put {things : Keyed α} (distinct : (things.map Prod.fst).Nodup) (name : String)
    (thing : α) : ((things.put name thing).map Prod.fst).Nodup := by
  rw [names_put]
  split
  · exact distinct
  · next fresh =>
    exact List.Nodup.append distinct (List.nodup_singleton name) (by simpa using fresh)

/-- Where names are distinct, what is found under a name is what stands there. -/
theorem find?_eq_some_iff {things : Keyed α} (distinct : (things.map Prod.fst).Nodup)
    {name : String} {thing : α} : things.find? name = some thing ↔ (name, thing) ∈ things := by
  constructor
  · intro found
    obtain ⟨before, after, rfl, -⟩ := List.lookup_eq_some_iff.mp found
    exact List.mem_append_right _ List.mem_cons_self
  · intro member
    obtain ⟨before, after, rfl⟩ := List.append_of_mem member
    refine List.lookup_eq_some_iff.mpr ⟨before, after, rfl, fun entry inside => ?_⟩
    rw [List.map_append, List.map_cons, List.nodup_append] at distinct
    exact bne_iff_ne.mpr fun same => distinct.2.2 entry.1 (List.mem_map_of_mem inside) name
      List.mem_cons_self same.symm

end Keyed

namespace Jobs

variable {π ℓ : Type}

/-! ## What is over -/

/-- A job is over: it has ended, and did so a span ago or earlier, if one is given. -/
def Job.Over (job : Job) (now : Micros) (span : Option Micros) : Prop :=
  ∃ ended, job.finishedOn = some ended ∧ ∀ least, span = some least → ended ≤ now - least

/-- A job stays when a lane is pruned exactly when it is not over. -/
theorem Lane.stays_eq_false {job : Job} {now : Micros} {span : Option Micros} :
    Lane.stays (span.map (now - ·)) job = false ↔ job.Over now span := by
  unfold Lane.stays Job.Over
  cases job.finishedOn with
  | none => simp
  | some ended => cases span <;> simp

/-- Whether a job is over can be told. -/
instance (job : Job) (now : Micros) (span : Option Micros) : Decidable (job.Over now span) :=
  decidable_of_iff _ Lane.stays_eq_false

/-- A job that is over has ended. -/
theorem Job.Over.terminal {job : Job} {now : Micros} {span : Option Micros}
    (late : job.Over now span) : job.isTerminal = true := by
  obtain ⟨ended, finished, -⟩ := late
  rw [Job.isTerminal, finished, Option.isSome_some]

/-- Pruning a lane leaves the jobs that are not over, in their order. -/
theorem Lane.jobs_prune (lane : Lane) (now : Micros) (span : Option Micros) :
    (lane.prune (span.map (now - ·))).jobs = lane.jobs.filter fun job => ¬job.Over now span := by
  refine List.filter_congr fun job _ => ?_
  rw [Bool.eq_iff_iff, decide_eq_true_iff, ← Lane.stays_eq_false, Bool.not_eq_false]

/-- Pruning a lane twice is pruning it once. -/
theorem Lane.prune_prune (lane : Lane) (cutoff : Option Micros) :
    (lane.prune cutoff).prune cutoff = lane.prune cutoff := by
  simp only [Lane.prune, List.filter_filter, Bool.and_self]

/-- Of a lane of which some jobs were left, and to which others came, the job of a number is gone
exactly when it was not left. -/
theorem Lane.find?_left {lane : Lane} (ordered : (lane.jobs.map Job.seq).Pairwise (· < ·))
    {job : Job} (member : job ∈ lane.jobs) (left : Job → Bool) {fresh : List Job}
    (new : ∀ other ∈ fresh, other.seq ≠ job.seq) :
    (lane.jobs.filter left ++ fresh).find? (·.seq = job.seq) = none ↔ left job = false := by
  rw [List.find?_eq_none]
  constructor
  · intro none
    refine Bool.eq_false_iff.mpr fun stays => none job ?_ (decide_eq_true rfl)
    exact List.mem_append_left _ (List.mem_filter.mpr ⟨member, stays⟩)
  · intro gone other among same
    rw [decide_eq_true_iff] at same
    rcases List.mem_append.mp among with old | came
    · obtain ⟨inside, stays⟩ := List.mem_filter.mp old
      obtain rfl := Lane.eq_of_seq_eq ordered inside member same
      cases gone.symm.trans stays
    · exact new other came same

/-! ## All jobs of a board -/

namespace Board

/-- All jobs on a board, type by type. -/
def jobs (board : Board π ℓ) : List Job := board.lanes.flatMap (·.2.jobs)

/-- Every type has one lane. -/
def Tidy (board : Board π ℓ) : Prop := (board.lanes.map Prod.fst).Nodup

variable {board : Board π ℓ}

/-- Every type still has one lane once one was written. -/
theorem Tidy.withLane (tidy : board.Tidy) (jobType : String) (lane : Lane) :
    (board.withLane jobType lane).Tidy :=
  Keyed.nodup_put tidy jobType lane

/-- Every type still has one lane once one was made known. -/
theorem Tidy.ready (tidy : board.Tidy) (jobType : String) : (board.ready jobType).Tidy := by
  unfold Board.ready
  split
  · exact tidy
  · exact tidy.withLane jobType {}

/-- Every type still has one lane once old jobs of one were forgotten. -/
theorem Tidy.forget (tidy : board.Tidy) (now : Micros) (jobType : String) :
    (board.forget now jobType).Tidy := by
  unfold Board.forget Board.prune
  split
  · split
    · exact tidy.withLane jobType _
    · exact tidy
  · exact tidy

/-- Every type still has one lane once a worker has told a listener. -/
theorem Tidy.tellNext (tidy : board.Tidy) (worker : Nat) (jobType : String) (job : Job)
    (event : Event) (told : Nat) : (board.tellNext worker jobType job event told).Tidy := by
  unfold Board.tellNext
  split
  · exact tidy
  · exact tidy.withLane jobType _

/-- Every type still has one lane once a worker is gone. -/
theorem Tidy.kill (tidy : board.Tidy) (worker : Nat) : (board.kill worker).Tidy := by
  unfold Board.kill
  split
  · exact tidy.withLane _ _
  · exact tidy.withLane _ _
  · exact tidy
  · exact tidy

/-- Every type still has one lane once several workers are gone. -/
theorem Tidy.killAll (tidy : board.Tidy) (workers : List Nat) :
    (workers.foldl Board.kill board).Tidy := by
  induction workers generalizing board with
  | nil => exact tidy
  | cons worker rest ih => exact ih (tidy.kill worker)

/-- Every step leaves one lane for every type. -/
theorem tidy_step {floor : Floor π ℓ} (tidy : floor.board.Tidy) (step : Step π ℓ) :
    (floor.step step).board.Tidy := by
  cases step with
  | create jobType fingerprint payload skipsSearch =>
    have kept := tidy.forget floor.now jobType
    simp only [Floor.step, Board.create]
    split
    · exact kept
    · exact kept.withLane jobType _
  | know jobType => exact tidy.ready jobType
  | register jobType concurrency =>
    simp only [Floor.step]
    split
    · next engaged =>
      unfold Board.register at engaged
      split at engaged
      · cases engaged
      · split at engaged
        · cases engaged
        · cases engaged
          exact tidy.ready jobType
    · exact tidy
  | reinforce jobType count => exact tidy.ready jobType
  | take worker start =>
    simp only [Floor.step, Board.take]
    split
    · split
      · exact tidy
      · split
        · exact tidy
        · exact tidy.withLane _ _
    · exact tidy
  | goOn worker progress notes =>
    simp only [Floor.step, Board.goOn]
    split
    · exact tidy.withLane _ _
    · exact tidy
  | finish worker outcome =>
    simp only [Floor.step, Board.finish]
    split
    · split
      · exact tidy.kill worker
      · split
        · exact tidy
        · exact (tidy.withLane _ _).tellNext _ _ _ _ _
    · exact tidy
  | notified worker outcome =>
    simp only [Floor.step, Board.notified]
    split
    · split
      · exact tidy.kill worker
      · exact tidy.tellNext _ _ _ _ _
    · exact tidy
  | revise jobType seq change => exact tidy.withLane _ _
  | kill worker => exact tidy.kill worker
  | clean olderThan =>
    simp only [Floor.step, Board.clean, Tidy, List.map_map]
    exact tidy
  | close => exact tidy.killAll (List.range floor.board.workers.length)
  | subscribe event listener | pass span => exact tidy

/-- A job is on a board exactly when it stands in the lane of a type. -/
theorem Tidy.mem_jobs (tidy : board.Tidy) {job : Job} :
    job ∈ board.jobs ↔ ∃ jobType, job ∈ (board.lane jobType).jobs := by
  rw [jobs, List.mem_flatMap]
  constructor
  · rintro ⟨⟨jobType, lane⟩, held, member⟩
    refine ⟨jobType, ?_⟩
    rw [Board.lane, (Keyed.find?_eq_some_iff tidy).mpr held]
    exact member
  · rintro ⟨jobType, member⟩
    cases found : board.lanes.find? jobType with
    | none =>
      rw [Board.lane, found] at member
      cases member
    | some lane =>
      rw [Board.lane, found] at member
      exact ⟨(jobType, lane), (Keyed.find?_eq_some_iff tidy).mp found, member⟩

/-- No number stands twice on a sound board. -/
theorem Tidy.nodup_jobs (tidy : board.Tidy) (sound : board.Sound) :
    (board.jobs.map Job.seq).Nodup := by
  have lane : ∀ entry ∈ board.lanes, board.lane entry.1 = entry.2 := by
    intro entry held
    rw [Board.lane, (Keyed.find?_eq_some_iff tidy).mpr held, Option.getD_some]
  rw [jobs, List.map_flatMap, List.nodup_flatMap]
  refine ⟨fun entry held => ?_, (List.pairwise_map.mp tidy).imp_of_mem ?_⟩
  · rw [← lane entry held]
    exact (sound.ordered entry.1).imp fun below => Nat.ne_of_lt below
  · intro first second here there apart
    refine List.disjoint_left.mpr fun seq inside within => apart ?_
    obtain ⟨job, member, rfl⟩ := List.mem_map.mp inside
    obtain ⟨other, among, same⟩ := List.mem_map.mp within
    exact sound.apart _ _ job (lane first here ▸ member) other (lane second there ▸ among) same.symm

/-! ## Cleaning -/

/-- What is left once all lanes were pruned is what is not over, in its order. -/
theorem jobs_clean (board : Board π ℓ) (now : Micros) (olderThan : Option Micros) :
    (board.clean now olderThan).2.jobs = board.jobs.filter fun job => ¬job.Over now olderThan := by
  rw [jobs, jobs, clean, List.flatMap_map, List.filter_flatMap]
  exact congrArg (List.flatMap · board.lanes)
    (funext fun entry => Lane.jobs_prune entry.2 now olderThan)

/-- What was removed is counted. -/
theorem count_clean (board : Board π ℓ) (now : Micros) (olderThan : Option Micros) :
    (board.clean now olderThan).1 = board.jobs.countP fun job => job.Over now olderThan := by
  have total : ∀ board : Board π ℓ,
      board.lanes.foldl (fun total entry => total + entry.2.jobs.length) 0 = board.jobs.length := by
    intro board
    rw [jobs, List.length_flatMap, List.sum_eq_foldl, List.foldl_map]
  have split := board.jobs.length_eq_countP_add_countP fun job => decide (job.Over now olderThan)
  have left : (board.clean now olderThan).2.jobs.length =
      board.jobs.countP fun job => ¬job.Over now olderThan := by
    rw [jobs_clean, List.countP_eq_length_filter]
  change board.lanes.foldl _ 0 - (board.clean now olderThan).2.lanes.foldl _ 0 = _
  rw [total, total, left, split]
  simp

/-- Removing once more what was removed leaves everything as it is. -/
theorem clean_clean (board : Board π ℓ) (now : Micros) (olderThan : Option Micros) :
    (board.clean now olderThan).2.clean now olderThan = (0, (board.clean now olderThan).2) := by
  refine Prod.ext ?_ ?_
  · rw [count_clean, jobs_clean, List.countP_filter]
    simp
  · simp only [clean, List.map_map, Function.comp_def, Lane.prune_prune]

/-- What removing jobs that have ended does to a board. -/
structure Cleans (board : Board π ℓ) (now : Micros) (olderThan : Option Micros)
    (after : Board π ℓ) (removed : Nat) : Prop where
  /-- Of every type the jobs that are not over are left, in their order. -/
  left : ∀ jobType, (after.lane jobType).jobs =
    (board.lane jobType).jobs.filter fun job => ¬job.Over now olderThan
  /-- So they are of all types together. -/
  all : after.jobs = board.jobs.filter fun job => ¬job.Over now olderThan
  /-- What was removed is counted. -/
  counted : removed = board.jobs.countP fun job => job.Over now olderThan
  /-- The lines stay as they are. -/
  lines : ∀ jobType, (after.lane jobType).waiting = (board.lane jobType).waiting
  /-- The workers go on with what they are doing. -/
  workers : after.workers = board.workers
  /-- Doing so again at the same moment removes nothing. -/
  again : after.clean now olderThan = (0, after)

/-- Removing jobs that have ended does so. -/
theorem cleans_clean (board : Board π ℓ) (now : Micros) (olderThan : Option Micros) :
    board.Cleans now olderThan (board.clean now olderThan).2 (board.clean now olderThan).1 where
  left jobType := by rw [lane_clean, Lane.jobs_prune]
  all := jobs_clean board now olderThan
  counted := count_clean board now olderThan
  lines jobType := by
    rw [lane_clean]
    rfl
  workers := rfl
  again := clean_clean board now olderThan

/-! ## Forgetting -/

/-- A board forgets a job: jobs are kept for some time only, and the job has ended that long ago. -/
def Forgets (board : Board π ℓ) (now : Micros) (job : Job) : Prop :=
  ∃ span, board.retention = some span ∧ job.Over now (some span)

/-- Whether a board forgets a job can be told. -/
instance (board : Board π ℓ) (now : Micros) (job : Job) : Decidable (board.Forgets now job) :=
  decidable_of_iff (board.retention.any fun span => job.Over now (some span)) (by
    cases kept : board.retention <;> simp [Forgets, kept])

/-- Of the type whose old jobs are forgotten the others are left, in their order. -/
theorem jobs_forget (board : Board π ℓ) (now : Micros) (jobType : String) :
    ((board.forget now jobType).lane jobType).jobs =
      (board.lane jobType).jobs.filter fun job => ¬board.Forgets now job := by
  unfold forget
  cases kept : board.retention with
  | none =>
    refine (List.filter_eq_self.mpr fun job _ => ?_).symm
    simp [Forgets, kept]
  | some span =>
    simp only
    rw [lane_prune, if_pos rfl]
    refine ((board.lane jobType).jobs_prune now (some span)).trans
      (List.filter_congr fun job _ => ?_)
    simp [Forgets, kept]

/-- Forgetting old jobs of a type leaves the other types as they are. -/
theorem lane_forget_other (board : Board π ℓ) (now : Micros) {jobType other : String}
    (apart : other ≠ jobType) : (board.forget now jobType).lane other = board.lane other := by
  unfold forget
  split
  · rw [lane_prune, if_neg apart]
  · rfl

/-- What asking for a job does to the jobs on a board. -/
structure Renews (board : Board π ℓ) (now : Micros) (jobType : String) (after : Board π ℓ)
    (job : Job) : Prop where
  /-- Of the type those that are not forgotten are left, in their order, and a new one may come
  behind them. -/
  own : ∃ fresh, (after.lane jobType).jobs =
    ((board.lane jobType).jobs.filter fun old => ¬board.Forgets now old) ++ fresh ∧
      (fresh = [] ∨ fresh = [job] ∧ job.status = .pending ∧ job.seq = board.created + 1)
  /-- The other types stay as they are. -/
  others : ∀ other, other ≠ jobType → after.lane other = board.lane other
  /-- The job that is asked for is on the board. -/
  here : after.job? jobType job.seq = some job
  /-- Where jobs are kept for some time only, those of the type that have ended did so a shorter
  time ago. -/
  recent : ∀ span, board.retention = some span → ∀ old ∈ (after.lane jobType).jobs, ∀ ended,
    old.finishedOn = some ended → now - ended < span

/-- Asking for a job does so. -/
theorem renews_create (sound : board.Sound) (now : Micros) (jobType fingerprint : String)
    (payload : Fields) (skipsSearch : Bool) :
    board.Renews now jobType (board.create now jobType fingerprint payload skipsSearch).2
      (board.create now jobType fingerprint payload skipsSearch).1 := by
  have kept := sheds_forget sound now jobType
  obtain ⟨fresh, left, new, others, here⟩ : ∃ fresh,
      ((board.create now jobType fingerprint payload skipsSearch).2.lane jobType).jobs =
        ((board.lane jobType).jobs.filter fun old => ¬board.Forgets now old) ++ fresh ∧
      (fresh = [] ∨ fresh = [(board.create now jobType fingerprint payload skipsSearch).1] ∧
        (board.create now jobType fingerprint payload skipsSearch).1.status = .pending ∧
        (board.create now jobType fingerprint payload skipsSearch).1.seq = board.created + 1) ∧
      (∀ other, other ≠ jobType →
        (board.create now jobType fingerprint payload skipsSearch).2.lane other =
          board.lane other) ∧
      (board.create now jobType fingerprint payload skipsSearch).2.job? jobType
        (board.create now jobType fingerprint payload skipsSearch).1.seq =
          some (board.create now jobType fingerprint payload skipsSearch).1 := by
    rcases board.create_cases now jobType fingerprint payload skipsSearch with
      ⟨job, -, usable, found⟩ | ⟨-, added⟩
    · rw [found]
      refine ⟨[], ?_, Or.inl rfl, fun other apart => board.lane_forget_other now apart, ?_⟩
      · rw [List.append_nil, jobs_forget]
      · exact kept.sound.job?_of_mem
          (kept.sound.find?_eq_some.mp (findUsable?_eq_some.mp usable).1).1
    · have adds := adds_add (board.forget now jobType) now jobType fingerprint payload
      have number := adds.number
      rw [kept.created] at number
      rw [added]
      refine ⟨[_], ?_, Or.inr ⟨rfl, adds.pending, number⟩, fun other apart => ?_, ?_⟩
      · rw [adds.jobs, jobs_forget]
      · rw [adds.others other apart, board.lane_forget_other now apart]
      · exact job?_add_self kept.sound now jobType fingerprint payload
  refine ⟨⟨fresh, left, new⟩, others, here, fun span kept old among ended finished => ?_⟩
  rw [left] at among
  rcases List.mem_append.mp among with stayed | came
  · obtain ⟨-, stays⟩ := List.mem_filter.mp stayed
    rw [decide_eq_true_iff] at stays
    refine Int.lt_of_not_ge fun late => stays ⟨span, kept, ended, finished, fun least same => ?_⟩
    cases same
    exact Int.le_sub_left_of_add_le (Int.add_le_of_le_sub_right late)
  · rcases new with rfl | ⟨rfl, pending, -⟩
    · cases came
    · obtain rfl := List.mem_singleton.mp came
      cases (Job.status_eq_pending.mp pending).2.symm.trans finished

end Board

/-! ## Runs -/

namespace Floor

variable {floor : Floor π ℓ} {step : Step π ℓ} {jobType : String} {seq : Nat} {job : Job}

/-- A step drops a job of a type: jobs that have ended are removed, and the job is over, or somebody
asks for a job of the type, and the board forgets the job. -/
def Drops (floor : Floor π ℓ) (step : Step π ℓ) (jobType : String) (job : Job) : Prop :=
  (∃ olderThan, step = .clean olderThan ∧ job.Over floor.now olderThan) ∨
    ∃ fingerprint payload skipsSearch, step = .create jobType fingerprint payload skipsSearch ∧
      floor.board.Forgets floor.now job

/-- A job that a step drops has ended. -/
theorem Drops.terminal (drops : floor.Drops step jobType job) : job.isTerminal = true := by
  obtain ⟨_, -, late⟩ | ⟨_, _, _, -, _, -, late⟩ := drops <;> exact late.terminal

/-- A job is gone after a step exactly when the step drops it. -/
theorem gone_iff (sound : floor.board.Sound) (found : floor.board.job? jobType seq = some job) :
    (floor.step step).board.job? jobType seq = none ↔ floor.Drops step jobType job := by
  obtain ⟨member, rfl⟩ := Lane.mem_of_job? found
  have ordered := sound.ordered jobType
  have cleaned : ∀ olderThan,
      (floor.board.clean floor.now olderThan).2.job? jobType job.seq = none ↔
        job.Over floor.now olderThan := by
    intro olderThan
    have left := (Board.cleans_clean floor.board floor.now olderThan).left jobType
    rw [Board.job?, Lane.job?, left, ← List.append_nil (List.filter _ _),
      Lane.find?_left ordered member _ (fun _ came => absurd came List.not_mem_nil)]
    simp
  have renewed : ∀ kind fingerprint payload skipsSearch,
      (floor.board.create floor.now kind fingerprint payload skipsSearch).2.job? jobType job.seq =
        none ↔ kind = jobType ∧ floor.board.Forgets floor.now job := by
    intro kind fingerprint payload skipsSearch
    have renews :=
      Board.renews_create sound floor.now kind fingerprint payload skipsSearch
    by_cases own : kind = jobType
    · subst own
      obtain ⟨fresh, left, new⟩ := renews.own
      rw [Board.job?, Lane.job?, left, Lane.find?_left ordered member _ ?_]
      · simp
      · intro other came
        have given := sound.seq_le found
        rcases new with rfl | ⟨rfl, -, number⟩
        · cases came
        · obtain rfl := List.mem_singleton.mp came
          omega
    · rw [Board.job?, renews.others jobType (Ne.symm own), ← Board.job?, found]
      simp [own]
  constructor
  · intro gone
    cases turn sound step jobType job.seq with
    | aside same => cases gone.symm.trans (same.trans found)
    | created _ _ _ _ after => cases gone.symm.trans after
    | taken _ _ _ after => cases gone.symm.trans after
    | revised _ _ after => cases gone.symm.trans after
    | ended _ _ _ after => cases gone.symm.trans after
    | left _ _ _ removes =>
      rcases removes with ⟨olderThan, rfl⟩ | ⟨⟨kind, fingerprint, payload, skipsSearch, rfl⟩, -⟩
      · exact Or.inl ⟨olderThan, rfl, (cleaned olderThan).mp gone⟩
      · obtain ⟨rfl, forgets⟩ := (renewed kind fingerprint payload skipsSearch).mp gone
        exact Or.inr ⟨fingerprint, payload, skipsSearch, rfl, forgets⟩
  · rintro (⟨olderThan, rfl, late⟩ | ⟨fingerprint, payload, skipsSearch, rfl, forgets⟩)
    · exact (cleaned olderThan).mpr late
    · exact (renewed jobType fingerprint payload skipsSearch).mpr ⟨rfl, forgets⟩

end Floor

namespace Chronicle

variable {chronicle : Chronicle π ℓ} {jobType : String} {seq count earlier later : Nat} {job : Job}

/-- Every type has one lane on the board of a chronicle. -/
theorem tidy (chronicle : Chronicle π ℓ) (count : Nat) : (chronicle.board count).Tidy := by
  induction count with
  | zero => exact List.nodup_nil
  | succ count ih => exact Board.tidy_step ih (chronicle.steps count)

/-- In the step after some steps a job is dropped. -/
def Drops (chronicle : Chronicle π ℓ) (count : Nat) (jobType : String) (job : Job) : Prop :=
  (chronicle.floor count).Drops (chronicle.steps count) jobType job

/-- A job that is on the board stays there until it is dropped. -/
theorem stays_until (found : (chronicle.board earlier).job? jobType seq = some job)
    (order : earlier ≤ later) :
    (∃ still, (chronicle.board later).job? jobType seq = some still) ∨
      ∃ between last, earlier ≤ between ∧ between < later ∧
        (chronicle.board between).job? jobType seq = some last ∧
          chronicle.Drops between jobType last := by
  induction order with
  | refl => exact Or.inl ⟨job, found⟩
  | @step later order ih =>
    rcases ih with ⟨still, here⟩ | ⟨between, last, after, before, known, drops⟩
    · cases next : (chronicle.board (later + 1)).job? jobType seq with
      | some job => exact Or.inl ⟨job, rfl⟩
      | none =>
        have drops := (Floor.gone_iff (chronicle.sound later) here).mp next
        exact Or.inr ⟨later, still, order, Nat.lt_succ_self later, here, drops⟩
    · exact Or.inr ⟨between, last, after, Nat.lt_succ_of_lt before, known, drops⟩

/-- How jobs leave the board of a chronicle. -/
structure Expires (chronicle : Chronicle π ℓ) : Prop where
  /-- All jobs on the board are those of all types, each counted once. -/
  jobs : ∀ count, (∀ job, job ∈ (chronicle.board count).jobs ↔
    ∃ jobType, job ∈ ((chronicle.board count).lane jobType).jobs) ∧
      ((chronicle.board count).jobs.map Job.seq).Nodup
  /-- Removing jobs that have ended removes what is over, at any moment. -/
  cleans : ∀ count now olderThan, (chronicle.board count).Cleans now olderThan
    ((chronicle.board count).clean now olderThan).2 ((chronicle.board count).clean now olderThan).1
  /-- Asking for a job removes what is forgotten of its type, at any moment. -/
  renews : ∀ count now jobType fingerprint payload skipsSearch,
    (chronicle.board count).Renews now jobType
      ((chronicle.board count).create now jobType fingerprint payload skipsSearch).2
      ((chronicle.board count).create now jobType fingerprint payload skipsSearch).1
  /-- A job leaves the board in a step exactly when that step drops it, and has ended then. -/
  leaves : ∀ count jobType seq job, (chronicle.board count).job? jobType seq = some job →
    ((chronicle.board (count + 1)).job? jobType seq = none ↔
      chronicle.Drops count jobType job) ∧
        (chronicle.Drops count jobType job → job.isTerminal = true)
  /-- Whoever asks for a job finds the one that he is given on the board until it is dropped. -/
  given : ∀ count jobType fingerprint payload skipsSearch job after later,
    chronicle.steps count = .create jobType fingerprint payload skipsSearch →
      (chronicle.board count).create (chronicle.floor count).now jobType fingerprint payload
          skipsSearch = (job, after) → count < later →
        (∃ still, (chronicle.board later).job? jobType job.seq = some still) ∨
          ∃ between last, count < between ∧ between < later ∧
            (chronicle.board between).job? jobType job.seq = some last ∧ last.isTerminal = true ∧
              chronicle.Drops between jobType last

/-- Whatever happens to a board, exactly the jobs that are over are removed, and none before it has
ended. -/
theorem jobs_expire (chronicle : Chronicle π ℓ) : chronicle.Expires where
  jobs count := ⟨fun _ => (chronicle.tidy count).mem_jobs,
    (chronicle.tidy count).nodup_jobs (chronicle.sound count)⟩
  cleans count := Board.cleans_clean (chronicle.board count)
  renews count := Board.renews_create (chronicle.sound count)
  leaves count _ _ _ found :=
    ⟨Floor.gone_iff (chronicle.sound count) found, Floor.Drops.terminal⟩
  given := by
    intro count jobType fingerprint payload skipsSearch job after later asks gives order
    have here : (chronicle.board (count + 1)).job? jobType job.seq = some job := by
      have renews := Board.renews_create (chronicle.sound count) (chronicle.floor count).now jobType
        fingerprint payload skipsSearch
      rw [gives] at renews
      rw [board, floor, asks, Floor.step, gives]
      exact renews.here
    rcases stays_until here order with still | ⟨between, last, past, before, known, drops⟩
    · exact Or.inl still
    · exact Or.inr ⟨between, last, past, before, known, drops.terminal, drops⟩

/-- Jobs are kept for ten moments. The first one is completed at once, another one of its type two
moments later, and one of another type then, too. -/
def outlived : Chronicle Unit String :=
  .ofList (some 10) 0 [.register "ask" 1, .register "plan" 1, .create "ask" "a" [] false,
    .create "ask" "b" [] false, .create "plan" "a" [] false, .take 0 fun _ => (),
    .finish 0 (.ok .null), .pass 2, .take 0 fun _ => (), .finish 0 (.ok .null),
    .take 1 fun _ => (), .finish 1 (.ok .null), .pass 8, .create "ask" "c" [] false,
    .clean (some 8), .pass 20, .clean none]

/-- Whoever asks ten moments after the first job was completed drops it, and nothing else. Whoever
cleans then drops what was completed eight moments before. What still waits stays. -/
theorem jobs_expire_outlived : outlived.Expires ∧
    (∃ job, (outlived.board 13).job? "ask" 1 = some job ∧ outlived.Drops 13 "ask" job) ∧
      ([13, 14, 15, 17].map fun count => (outlived.board count).jobs.map Job.seq) =
        [[1, 2, 3], [2, 4, 3], [4], [4]] := by
  have expires := jobs_expire outlived
  have gone : (outlived.board 14).job? "ask" 1 = none := by decide +kernel
  obtain ⟨job, found⟩ : ∃ job, (outlived.board 13).job? "ask" 1 = some job :=
    Option.isSome_iff_exists.mp (by decide +kernel)
  exact ⟨expires, ⟨job, found, (expires.leaves 13 "ask" 1 job found).1.mp gone⟩, by decide +kernel⟩

end Chronicle

end Jobs

end QuestionDesk
