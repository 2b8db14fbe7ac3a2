import QuestionDesk.Proofs.Jobs.Effects

/-!
# Searching

Whoever searches for the job of a fingerprint is given the one that stands first in the order of the
search, and whoever asks for a job is given that one, or a new one when it has failed. As long as
nobody skips the search, no two jobs of a fingerprint are on the board of which none has failed.
-/
namespace QuestionDesk.Jobs

variable {π ℓ : Type}

/-! ## The order of the search -/

/-- The place of a status in the order of the search. -/
def Status.place : Status → Nat
  | .processing => 0
  | .pending => 1
  | .completed => 2
  | .failed => 3

/-- A job stands before another one in a search, by its status or else as the newer one. -/
def Job.Precedes (job other : Job) : Prop :=
  job.status.place < other.status.place ∨ job.status = other.status ∧ other.seq ≤ job.seq

/-- Statuses of one place are one status. -/
theorem Status.place_inj {status other : Status} (same : status.place = other.place) :
    status = other := by
  cases status <;> cases other <;> first | rfl | cases same

/-- Failed jobs are looked for last. -/
theorem Status.place_le (status : Status) : status.place ≤ Status.failed.place := by
  cases status <;> decide

/-- Jobs that stand before each other have one number. -/
theorem Job.Precedes.antisymm {job other : Job} (first : job.Precedes other)
    (second : other.Precedes job) : job.seq = other.seq := by
  rcases first with above | ⟨same, newer⟩
  · rcases second with below | ⟨same, -⟩
    · exact absurd below (Nat.lt_asymm above)
    · exact absurd above (same ▸ Nat.lt_irrefl _)
  · rcases second with below | ⟨-, older⟩
    · exact absurd below (same ▸ Nat.lt_irrefl _)
    · exact Nat.le_antisymm older newer

namespace Lane

/-- The newer of two jobs is one of them, and neither is newer. -/
theorem newer_spec (known job : Job) : ∃ kept, newer (some known) job = some kept ∧
    (kept = known ∨ kept = job) ∧ known.seq ≤ kept.seq ∧ job.seq ≤ kept.seq := by
  unfold newer
  dsimp only
  split
  · next below => exact ⟨job, rfl, Or.inr rfl, Nat.le_of_lt below, Nat.le_refl _⟩
  · next above => exact ⟨known, rfl, Or.inl rfl, Nat.le_refl _, Nat.le_of_not_lt above⟩

/-- The newest of a job and several others is one of them, and none of them is newer. -/
theorem foldl_newer (known : Job) (jobs : List Job) :
    ∃ job, jobs.foldl newer (some known) = some job ∧ (job = known ∨ job ∈ jobs) ∧
      known.seq ≤ job.seq ∧ ∀ other ∈ jobs, other.seq ≤ job.seq := by
  induction jobs generalizing known with
  | nil => exact ⟨known, rfl, Or.inl rfl, Nat.le_refl _, nofun⟩
  | cons first rest ih =>
    obtain ⟨kept, newer, isOne, above, alsoAbove⟩ := newer_spec known first
    obtain ⟨job, newest, from_, higher, highest⟩ := ih kept
    refine ⟨job, by rw [List.foldl_cons, newer, newest], ?_, Nat.le_trans above higher, ?_⟩
    · rcases from_ with rfl | later
      · exact isOne.imp_right fun same => List.mem_cons.mpr (Or.inl same)
      · exact Or.inr (List.mem_cons_of_mem _ later)
    · intro other member
      rcases List.mem_cons.mp member with rfl | later
      · exact Nat.le_trans alsoAbove higher
      · exact highest other later

/-- Where there are jobs, the newest is one of them, and none of them is newer. -/
theorem newest_spec {jobs : List Job} {job : Job} (member : job ∈ jobs) :
    ∃ best, newest jobs = some best ∧ best ∈ jobs ∧ ∀ other ∈ jobs, other.seq ≤ best.seq := by
  cases jobs with
  | nil => cases member
  | cons first rest =>
    obtain ⟨best, newest, isOne, above, highest⟩ := foldl_newer first rest
    refine ⟨best, newest, List.mem_cons.mpr isOne, fun other here => ?_⟩
    rcases List.mem_cons.mp here with rfl | later
    · exact above
    · exact highest other later

/-- The newest of several jobs is one of them. -/
theorem newest_mem {jobs : List Job} {job : Job} (best : newest jobs = some job) :
    job ∈ jobs := by
  cases jobs with
  | nil => cases best
  | cons first rest =>
    have member : first ∈ first :: rest := List.mem_cons_self
    obtain ⟨known, newest, isOne, -⟩ := newest_spec member
    cases newest.symm.trans best
    exact isOne

/-- The statuses that come before one in the order of the search are those with a smaller place. -/
theorem mem_before {status other : Status} {before after : List Status}
    (order : searchOrder = before ++ status :: after) (smaller : other.place < status.place) :
    other ∈ before := by
  have sorted : searchOrder.Pairwise (·.place < ·.place) := by decide
  have complete : other ∈ searchOrder := by cases other <;> decide
  rw [order] at sorted complete
  rcases List.mem_append.mp complete with early | late
  · exact early
  · have behind := (List.pairwise_cons.mp (List.pairwise_append.mp sorted).2.1).1
    rcases List.mem_cons.mp late with rfl | later
    · exact absurd smaller (Nat.lt_irrefl _)
    · exact absurd (behind other later) (Nat.lt_asymm smaller)

/-- Among the jobs of its key and of its status there is a newest one. -/
theorem newest_of_key {lane : Lane} {id : String} {job : Job} (member : job ∈ lane.jobs)
    (key : job.id = id) : ∃ best,
      newest (lane.jobs.filter fun other => other.id = id && other.status = job.status) =
        some best ∧ job.seq ≤ best.seq := by
  have among : job ∈ lane.jobs.filter fun other => other.id = id && other.status = job.status :=
    List.mem_filter.mpr ⟨member, by simp [key]⟩
  obtain ⟨best, newest, -, highest⟩ := newest_spec among
  exact ⟨best, newest, highest job among⟩

/-- A search finds something where there is a job of the key. -/
theorem find?_isSome {lane : Lane} {id : String} {job : Job} (member : job ∈ lane.jobs)
    (key : job.id = id) : ∃ found, lane.find? id = some found := by
  obtain ⟨best, newest, -⟩ := newest_of_key member key
  rw [← Option.isSome_iff_exists, find?, List.findSome?_isSome_iff]
  exact ⟨job.status, by cases job.status <;> decide, by rw [newest]; rfl⟩

/-- A search finds a job of the key that none of the others stands before. -/
theorem find?_spec {lane : Lane} {id : String} {job : Job} (found : lane.find? id = some job) :
    job ∈ lane.jobs ∧ job.id = id ∧ ∀ other ∈ lane.jobs, other.id = id → job.Precedes other := by
  obtain ⟨before, status, after, order, newest, none⟩ := List.findSome?_eq_some_iff.mp found
  obtain ⟨member, isOne⟩ := List.mem_filter.mp (newest_mem newest)
  obtain ⟨key, rfl⟩ : job.id = id ∧ job.status = status := by simpa using isOne
  refine ⟨member, key, fun other here same => ?_⟩
  obtain ⟨best, alsoNewest, newer⟩ := newest_of_key here same
  rcases Nat.lt_trichotomy job.status.place other.status.place with above | equal | behind
  · exact Or.inl above
  · have alike := Status.place_inj equal
    rw [← alike] at alsoNewest
    cases alsoNewest.symm.trans newest
    exact Or.inr ⟨alike, newer⟩
  · have empty := none other.status (mem_before order behind)
    cases alsoNewest.symm.trans empty

end Lane

/-! ## Finding and creating -/

namespace Board

variable {board after kept : Board π ℓ} {jobType fingerprint : String} {now : Micros}
  {payload : Fields} {job : Job}

/-- A job on a sound board has the key of a fingerprint of its type exactly when it has the
fingerprint. -/
theorem Sound.id_eq_iff (sound : board.Sound) (member : job ∈ (board.lane jobType).jobs) :
    job.id = jobKey jobType fingerprint ↔ job.fingerprint = fingerprint := by
  rw [(sound.placed jobType job member).2.1]
  exact ⟨jobKey_inj, fun same => same ▸ rfl⟩

/-- A search finds a job exactly when one of the fingerprint is on the board. -/
theorem Sound.find?_isSome (sound : board.Sound) (jobType fingerprint : String) :
    (board.find? jobType fingerprint).isSome ↔
      ∃ job ∈ (board.lane jobType).jobs, job.fingerprint = fingerprint := by
  rw [Option.isSome_iff_exists]
  constructor
  · rintro ⟨job, found⟩
    obtain ⟨member, key, -⟩ := Lane.find?_spec found
    exact ⟨job, member, (sound.id_eq_iff member).mp key⟩
  · rintro ⟨job, member, same⟩
    exact Lane.find?_isSome member ((sound.id_eq_iff member).mpr same)

/-- A search finds a job exactly when it has the fingerprint and stands before all others that have
it. -/
theorem Sound.find?_eq_some (sound : board.Sound) : board.find? jobType fingerprint = some job ↔
    job ∈ (board.lane jobType).jobs ∧ job.fingerprint = fingerprint ∧
      ∀ other ∈ (board.lane jobType).jobs, other.fingerprint = fingerprint →
        job.Precedes other := by
  have spec : ∀ found, board.find? jobType fingerprint = some found →
      found ∈ (board.lane jobType).jobs ∧ found.fingerprint = fingerprint ∧
        ∀ other ∈ (board.lane jobType).jobs, other.fingerprint = fingerprint →
          found.Precedes other := by
    intro found search
    obtain ⟨member, key, first⟩ := Lane.find?_spec search
    exact ⟨member, (sound.id_eq_iff member).mp key,
      fun other here same => first other here ((sound.id_eq_iff here).mpr same)⟩
  refine ⟨spec job, fun ⟨member, same, first⟩ => ?_⟩
  obtain ⟨found, search⟩ :=
    Option.isSome_iff_exists.mp ((sound.find?_isSome jobType _).mpr ⟨job, member, same⟩)
  obtain ⟨here, own, before⟩ := spec found search
  have number := (before job member same).antisymm (first found here own)
  rw [search, Lane.eq_of_seq_eq (sound.ordered jobType) here member number]

/-- A board to which a job was added, that waits behind all others of its type; everything else is
as it was. -/
structure Adds (kept after : Board π ℓ) (now : Micros) (jobType fingerprint : String)
    (payload : Fields) (job : Job) : Prop where
  /-- The job is of the type. -/
  kind : job.jobType = jobType
  /-- The job has the fingerprint. -/
  fingerprint : job.fingerprint = fingerprint
  /-- The job is about what was asked. -/
  payload : job.payload = payload
  /-- The job is created at the moment. -/
  createdAt : job.createdAt = some (Micros.zonedDateTime now)
  /-- The job is given the next number. -/
  number : job.seq = kept.created + 1
  /-- One more job was created. -/
  created : after.created = kept.created + 1
  /-- The job is pending. -/
  pending : job.status = .pending
  /-- The job is the last one of its type. -/
  jobs : (after.lane jobType).jobs = (kept.lane jobType).jobs ++ [job]
  /-- The job waits behind the others. -/
  waiting : (after.lane jobType).waiting = (kept.lane jobType).waiting ++ [job.seq]
  /-- The other types are as they were. -/
  others : ∀ other, other ≠ jobType → after.lane other = kept.lane other
  /-- The workers go on with what they are doing. -/
  workers : after.workers = kept.workers
  /-- The listeners stay. -/
  listeners : after.listeners = kept.listeners

/-- Adding a job does so. -/
theorem adds_add (kept : Board π ℓ) (now : Micros) (jobType fingerprint : String)
    (payload : Fields) : kept.Adds (kept.add now jobType fingerprint payload).2 now jobType
      fingerprint payload (kept.add now jobType fingerprint payload).1 where
  kind := rfl
  fingerprint := rfl
  payload := rfl
  createdAt := rfl
  number := rfl
  created := rfl
  pending := rfl
  jobs := by rw [lane_add, if_pos rfl]
  waiting := by
    rw [lane_add, if_pos rfl]
    rfl
  others other different := by rw [lane_add, if_neg different]
  workers := rfl
  listeners := rfl

/-- A job can be used exactly when it is found and has not failed. -/
theorem findUsable?_eq_some : board.findUsable? jobType fingerprint = some job ↔
    board.find? jobType fingerprint = some job ∧ job.status ≠ .failed := by
  simp [findUsable?, Option.filter_eq_some_iff]

/-- Whoever asks for a job is given the one that is found among those that are left, if it has not
failed, and the board stays as it is. -/
theorem create_eq_iff : board.create now jobType fingerprint payload false =
      (job, board.forget now jobType) ↔
    (board.forget now jobType).find? jobType fingerprint = some job ∧ job.status ≠ .failed := by
  rw [← findUsable?_eq_some]
  rcases board.create_cases now jobType fingerprint payload false with
    ⟨known, -, usable, found⟩ | ⟨fails, added⟩
  · rw [usable, found]
    simp
  · rw [fails.resolve_left nofun, added]
    refine ⟨fun same => ?_, nofun⟩
    have more := congrArg (·.2.created) same
    exact absurd more (Nat.succ_ne_self _)

/-- Whoever asks for a job is otherwise given a new one. -/
theorem adds_create (unusable : ∀ job, (board.forget now jobType).find? jobType fingerprint =
      some job → job.status = .failed) :
    (board.forget now jobType).Adds (board.create now jobType fingerprint payload false).2 now
      jobType fingerprint payload (board.create now jobType fingerprint payload false).1 := by
  rcases board.create_cases now jobType fingerprint payload false with
    ⟨known, -, usable, -⟩ | ⟨-, added⟩
  · obtain ⟨found, lives⟩ := findUsable?_eq_some.mp usable
    exact absurd (unusable known found) lives
  · rw [added]
    exact adds_add _ _ _ _ _

/-- Forgetting old jobs takes nothing out of any line. -/
theorem waiting_forget (board : Board π ℓ) (now : Micros) (jobType other : String) :
    ((board.forget now jobType).lane other).waiting = (board.lane other).waiting := by
  unfold forget
  split
  · rw [lane_prune]
    split <;> rfl
  · rfl

/-- No two jobs of a type and a fingerprint are on the board of which none has failed. -/
def Single (board : Board π ℓ) : Prop :=
  ∀ jobType, ∀ first ∈ (board.lane jobType).jobs, ∀ second ∈ (board.lane jobType).jobs,
    first.fingerprint = second.fingerprint → first.status ≠ .failed → second.status ≠ .failed →
      first = second

/-- A board that has lost jobs still has no two. -/
theorem Single.of_sheds (single : board.Single) (sheds : board.Sheds after) :
    after.Single := by
  have stayed : ∀ jobType, ∀ job ∈ (after.lane jobType).jobs, job ∈ (board.lane jobType).jobs := by
    intro jobType job member
    have found := sheds.sound.job?_of_mem member
    rcases sheds.jobs jobType job.seq with same | ⟨_, -, -, none⟩
    · exact (Lane.mem_of_job? (same.symm.trans found)).1
    · rw [none] at found
      cases found
  exact fun jobType first here second there =>
    single jobType first (stayed _ _ here) second (stayed _ _ there)

/-- A board on which nothing can be used for a fingerprint has no two when a job of the fingerprint
is added. -/
theorem Single.add (single : kept.Single) (sound : kept.Sound)
    (adds : kept.Adds after now jobType fingerprint payload job)
    (unusable : kept.findUsable? jobType fingerprint = none) : after.Single := by
  have failed : ∀ other ∈ (kept.lane jobType).jobs, other.fingerprint = fingerprint →
      other.status = .failed := by
    intro other member same
    obtain ⟨found, search⟩ :=
      Option.isSome_iff_exists.mp ((sound.find?_isSome jobType _).mpr ⟨other, member, same⟩)
    have status : found.status = .failed := Decidable.byContradiction fun lives => by
      rw [findUsable?_eq_some.mpr ⟨search, lives⟩] at unusable
      cases unusable
    rcases ((sound.find?_eq_some).mp search).2.2 other member same with before | ⟨alike, -⟩
    · rw [status] at before
      exact absurd before (Nat.not_lt_of_le (Status.place_le _))
    · exact alike ▸ status
  intro other first here second there same
  by_cases own : other = jobType
  · subst own
    rw [adds.jobs, List.mem_append, List.mem_singleton] at here there
    rcases here with old | rfl
    · rcases there with known | rfl
      · exact single other first old second known same
      · exact fun lives => absurd (failed first old (same.trans adds.fingerprint)) lives
    · rcases there with known | rfl
      · exact fun _ lives => absurd (failed second known (same.symm.trans adds.fingerprint)) lives
      · exact fun _ _ => rfl
  · rw [adds.others other own] at here there
    exact single other first here second there same

end Board

/-! ## Chronicles -/

namespace Floor

variable {floor : Floor π ℓ} (sound : floor.board.Sound) {step : Step π ℓ}
include sound

/-- In a step that creates no job, a job that is on the board afterwards was there before, and had
not failed if it has not. -/
theorem found_earlier (uncreated : floor.created? step = none) {jobType : String} {seq : Nat}
    {job : Job} (found : (floor.step step).board.job? jobType seq = some job) :
    ∃ before, floor.board.job? jobType seq = some before ∧
      before.fingerprint = job.fingerprint ∧ (job.status ≠ .failed → before.status ≠ .failed) := by
  cases turn sound step jobType seq with
  | aside same => exact ⟨job, same ▸ found, rfl, id⟩
  | created creates kind number fresh after =>
    rw [uncreated] at creates
    cases creates
  | taken starts before pending after =>
    cases after.symm.trans found
    exact ⟨_, before, rfl, fun _ failed => by cases pending.symm.trans failed⟩
  | revised change before after =>
    cases after.symm.trans found
    exact ⟨_, before, rfl, id⟩
  | @ended job worker outcome ends before processing after =>
    cases after.symm.trans found
    exact ⟨job, before, by cases outcome <;> rfl,
      fun _ failed => by cases processing.symm.trans failed⟩
  | left before terminal after => cases after.symm.trans found

/-- No step brings about two jobs of a fingerprint of which none has failed, unless it skips the
search. -/
theorem single_step (single : floor.board.Single)
    (searches : ∀ jobType fingerprint payload skipsSearch,
      step = .create jobType fingerprint payload skipsSearch → skipsSearch = false) :
    (floor.step step).board.Single := by
  cases creates : floor.created? step with
  | some job =>
    obtain ⟨jobType, fingerprint, payload, skipsSearch, rfl, unusable, added⟩ :=
      created?_eq_some.mp creates
    obtain ⟨rfl, after⟩ := Prod.mk.inj added
    have sheds := Board.sheds_forget sound floor.now jobType
    rw [after]
    refine (single.of_sheds sheds).add sheds.sound (Board.adds_add _ _ _ _ _)
      (unusable.resolve_left fun skips => ?_)
    rw [searches _ _ _ _ rfl] at skips
    cases skips
  | none =>
    intro jobType first here second there same lives alsoLives
    have kept := sound_step sound step
    obtain ⟨one, known, print, lived⟩ := found_earlier sound creates (kept.job?_of_mem here)
    obtain ⟨two, found, alike, alsoLived⟩ := found_earlier sound creates (kept.job?_of_mem there)
    obtain ⟨left, number⟩ := Lane.mem_of_job? known
    obtain ⟨right, other⟩ := Lane.mem_of_job? found
    obtain rfl := single jobType one left two right ((print.trans same).trans alike.symm)
      (lived lives) (alsoLived alsoLives)
    exact Lane.eq_of_seq_eq (kept.ordered jobType) here there (number.symm.trans other)

end Floor

namespace Chronicle

variable {chronicle : Chronicle π ℓ}

/-- Nobody who asks for a job skips the search. -/
def Searches (chronicle : Chronicle π ℓ) : Prop :=
  ∀ count jobType fingerprint payload skipsSearch,
    chronicle.steps count = .create jobType fingerprint payload skipsSearch → skipsSearch = false

/-- As long as nobody skips the search, no two jobs of a fingerprint are on the board of which none
has failed. -/
theorem single_of_searches (searches : chronicle.Searches) (count : Nat) :
    (chronicle.board count).Single := by
  induction count with
  | zero => exact fun _ _ here => nomatch here
  | succ count ih => exact Floor.single_step (chronicle.sound count) ih (searches count)

/-- How searches end and what they keep apart. -/
structure Searchable (chronicle : Chronicle π ℓ) : Prop where
  /-- Where nobody skips the search, at most one job of a fingerprint has not failed. -/
  single : chronicle.Searches → ∀ count, (chronicle.board count).Single
  /-- A search finds something exactly when a job of the fingerprint is on the board. -/
  found : ∀ count jobType fingerprint,
    ((chronicle.board count).find? jobType fingerprint).isSome ↔
      ∃ job ∈ ((chronicle.board count).lane jobType).jobs, job.fingerprint = fingerprint
  /-- A search finds the job of the fingerprint that stands before all others. -/
  best : ∀ count jobType fingerprint job,
    (chronicle.board count).find? jobType fingerprint = some job ↔
      job ∈ ((chronicle.board count).lane jobType).jobs ∧ job.fingerprint = fingerprint ∧
        ∀ other ∈ ((chronicle.board count).lane jobType).jobs, other.fingerprint = fingerprint →
          job.Precedes other
  /-- Whoever asks for a job is given the one that is found among those that are left, and nothing
  else happens, exactly when there is one that has not failed. -/
  reused : ∀ count now jobType fingerprint payload job,
    (chronicle.board count).create now jobType fingerprint payload false =
        (job, (chronicle.board count).forget now jobType) ↔
      ((chronicle.board count).forget now jobType).find? jobType fingerprint = some job ∧
        job.status ≠ .failed
  /-- Leaving out old jobs puts nobody in line, takes nobody out of it, and creates nothing. -/
  quiet : ∀ count now jobType,
    ((chronicle.board count).forget now jobType).created = (chronicle.board count).created ∧
      ∀ other, (((chronicle.board count).forget now jobType).lane other).waiting =
        ((chronicle.board count).lane other).waiting
  /-- Otherwise one job is created, and waits. -/
  added : ∀ count now jobType fingerprint payload,
    (∀ job, ((chronicle.board count).forget now jobType).find? jobType fingerprint = some job →
      job.status = .failed) →
        ((chronicle.board count).forget now jobType).Adds
          ((chronicle.board count).create now jobType fingerprint payload false).2 now jobType
          fingerprint payload
          ((chronicle.board count).create now jobType fingerprint payload false).1

/-- At every moment of a chronicle searches find what stands first, a job that has not failed is
used again, and no second one is created beside it. -/
theorem searches_find_best (chronicle : Chronicle π ℓ) : chronicle.Searchable where
  single := single_of_searches
  found count := (chronicle.sound count).find?_isSome
  best count _ _ _ := (chronicle.sound count).find?_eq_some
  reused _ _ _ _ _ _ := Board.create_eq_iff
  quiet count now jobType :=
    ⟨(Board.sheds_forget (chronicle.sound count) now jobType).created,
      Board.waiting_forget _ now jobType⟩
  added _ _ _ _ _ := Board.adds_create

/-- A chronicle in which a job fails, is asked for again, and once more while it waits. -/
def retried : Chronicle Unit Unit :=
  .ofList none 0 [.create "a:b" "c:" [] false, .register "a:b" 1, .take 0 fun _ => (),
    .finish 0 (.error .notFinite), .create "a:b" "c:" [] false, .create "a:b" "c:" [] false]

/-- A job that failed is not used again, and there is one job beside it, however often somebody
asks. -/
theorem searches_find_best_retried :
    ((retried.board 6).lane "a:b").jobs.map (fun job => (job.seq, job.status)) =
        [(1, .failed), (2, .pending)] ∧
      ∀ first ∈ ((retried.board 6).lane "a:b").jobs,
        ∀ second ∈ ((retried.board 6).lane "a:b").jobs, first.fingerprint = second.fingerprint →
          first.status ≠ .failed → second.status ≠ .failed → first = second := by
  refine ⟨by decide +kernel, (searches_find_best retried).single ?_ 6 "a:b"⟩
  intro count jobType fingerprint payload skipsSearch same
  match count with
  | 0 | 4 | 5 =>
    cases same
    rfl
  | 1 | 2 | 3 | _ + 6 => cases same

end Chronicle

end QuestionDesk.Jobs
