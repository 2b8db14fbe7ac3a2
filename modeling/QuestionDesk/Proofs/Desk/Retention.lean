import QuestionDesk.Proofs.Cache.Maps
import QuestionDesk.Proofs.Desk.Chronicles
import QuestionDesk.Proofs.Desk.Pointing
import QuestionDesk.Proofs.Jobs.Search

/-!
# How long answers and their jobs are kept

The store keeps an answer for as long as the board keeps a job that has ended, and a run remembers
its answer in the step in which its job ends. So the two times are over at one moment, and an answer
that is found in the store is always that of a job that is found on the board. A job whose time is
over is not missed before somebody else asks.
-/
namespace QuestionDesk.Desk

open Cache (Item QueryEntry)
open Jobs (Job)
open Pipeline (Prepared Run Runner)

/-! ## What is kept over a course -/

section Courses

variable {settings : Settings} {desk : Desk} {occurrences : Nat → Occurrence}

/-- Whatever occurs at a desk is made of steps at its board. -/
theorem follows_occur (desk : Desk) (occurrence : Occurrence) :
    Follows Jobs.Step.Onward desk.floor (desk.occur occurrence).floor := by
  cases occurrence with
  | act action => exact (desk.follows_act action).onward
  | bring name sink => exact .of_eq rfl

/-- The clock of a course does not go back. -/
theorem now_course {earlier later : Nat} (order : earlier ≤ later) :
    (desk.course occurrences earlier).now ≤ (desk.course occurrences later).now := by
  induction order with
  | refl => exact Int.le_refl _
  | step _ ih => exact Int.le_trans ih (follows_occur _ _).now_le

/-- Answers and jobs that have ended are kept for one span all along a course. -/
theorem spans_course (started : start settings = .ok desk) (count : Nat) :
    (desk.course occurrences count).keepSeconds = settings.cacheTtlSeconds ∧
      (desk.course occurrences count).board.retention =
        some (Micros.ofSeconds settings.cacheTtlSeconds) := by
  induction count with
  | zero =>
    have retention := (follows_start started).retention
    obtain ⟨staffed, _, rfl⟩ := start_eq started
    exact ⟨rfl, retention⟩
  | succ count before =>
    refine ⟨?_, (follows_occur _ _).retention.trans before.2⟩
    have same : ((desk.course occurrences count).occur (occurrences count)).settings =
        (desk.course occurrences count).settings := by
      cases occurrences count with
      | act action => exact settings_meet _ (.act action)
      | bring name sink => rfl
    exact (congrArg (·.2.2.2) same).trans before.1

end Courses

/-! ## Answers and the jobs that gave them -/

/-- A job that has completed with the answer of an entry, and that the entry names. -/
structure Gives (job : Job) (entry : QueryEntry) : Prop where
  /-- It has the key that the entry names. -/
  id : job.id = entry.jobId
  /-- It is the job of the question that the entry names. -/
  question : job.fingerprint = entry.questionId
  /-- It has completed. -/
  completed : job.status = .completed
  /-- It has the answer. -/
  returns : job.returnValue = Run.answerValue entry.result entry.chart

/-- A run remembers its answer as an entry for a query, and its job ends. -/
structure Remembers (desk : Desk) (occurrence : Occurrence) (hash : String) (entry : QueryEntry)
    (job : Job) : Prop where
  /-- The run is about to remember the answer. -/
  stores : ∃ runner response run prepared execution chart,
    occurrence = .act (.work runner response) ∧ desk.run? runner = some run ∧
      run.phase = .storing prepared execution chart ∧ prepared.hash = hash ∧
        run.entry execution chart = entry
  /-- The job is on the board afterwards. -/
  found : (desk.occur occurrence).board.job? questionJobType job.seq = some job
  /-- The job has the answer. -/
  gives : Gives job entry
  /-- The job has ended now. -/
  finished : job.finishedOn = some desk.now

/-- A run is told that its query was answered: its job is a duplicate. -/
def Recognises (desk : Desk) (occurrence : Occurrence) (runner : Runner) (prepared : Prepared)
    (entry : QueryEntry) : Prop :=
  ∃ response run, occurrence = .act (.work runner response) ∧ desk.run? runner = some run ∧
    run.phase = .lookingUp prepared ∧
      desk.store.findQuery desk.now prepared.hash = .ok (some entry)

/-- The job that an entry names is found, as it ended but for its notes. -/
def Finds (desk : Desk) (entry : QueryEntry) (job : Job) : Prop :=
  ∃ later, desk.job? entry.questionId = some later ∧ job.Alike later

section Answers

variable {desk : Desk}

/-- Every run is that of a worker. -/
theorem Staffed.exists_worker (staffed : desk.Staffed) {runner : Runner} {run : Run}
    (running : desk.run? runner = some run) : ∃ worker, runner = .worker worker := by
  cases runner with
  | worker worker => exact ⟨worker, rfl⟩
  | hand number =>
    obtain ⟨notes, found⟩ := run?_hand.mp running
    rw [staffed.handless] at found
    cases found

section Ends

variable {runner : Runner} {run : Run} {prepared : Prepared} {execution : Remote.Execution}
  {chart : Fields} (accounted : desk.Accounted) (running : desk.run? runner = some run)
  (phase : run.phase = .storing prepared execution chart)
include accounted running phase

/-- A run that remembers its answer writes an entry that can be read and is kept as long as
usual. -/
theorem Accounted.answer?_stored {after : Cache.Store}
    (put : desk.store.putQuery desk.now desk.keepSeconds prepared.hash (run.entry execution chart) =
      .ok after) : ∃ item, (∀ other, after.answer? other =
        if other = prepared.hash then some item else desk.store.answer? other) ∧
      item.entry? = some (run.entry execution chart) ∧
      item.expires = Cache.Store.keptUntil desk.now desk.keepSeconds := by
  obtain ⟨worker, rfl⟩ := accounted.toStaffed.exists_worker running
  obtain ⟨job, handles⟩ := accounted.handles running
  have whole := handles.carries.faithful.storing _ _ _ phase
  obtain ⟨item, text, answers⟩ := Cache.Store.answer?_putQuery put
  refine ⟨item, answers, Cache.entry?_of_text whole text, ?_⟩
  have written := answers prepared.hash
  obtain rfl := Cache.Store.set_eq_ok put
  rw [Cache.Store.answer?, Cache.Store.items_withItem, if_pos rfl, if_pos rfl] at written
  cases written
  rfl

/-- A run that has remembered its answer ends its job with it. -/
theorem Accounted.job?_stored (store : Cache.Store) (notes : Fields) : ∃ job,
    (({ desk with store } : Desk).follow runner run
      (.ended (.ok (Run.answerValue execution.fields chart)) notes)).board.job? questionJobType
        job.seq = some job ∧
    Gives job (run.entry execution chart) ∧ job.finishedOn = some desk.now := by
  obtain ⟨worker, rfl⟩ := accounted.toStaffed.exists_worker running
  obtain ⟨job, handles⟩ := accounted.handles running
  obtain ⟨same, found, processing, after⟩ := @job_of_ended { desk with store } accounted.sound
    worker questionJobType job.seq run handles.does
    (.ok (Run.answerValue execution.fields chart)) nofun notes
  obtain rfl := Option.some.inj (handles.found.symm.trans found)
  obtain ⟨completed, returns⟩ := completed_of_ended accounted.sound found processing notes
    (Run.answerValue execution.fields chart)
  obtain ⟨seq, _, id, fingerprint, _⟩ := same_ended job notes desk.now
    (.ok (Run.answerValue execution.fields chart))
  rw [← seq] at after
  have named := handles.carries.question (by rw [phase]; nofun)
  exact ⟨_, after, ⟨id.trans handles.carries.jobId.symm, fingerprint.trans named.symm, completed,
    returns⟩, rfl⟩

end Ends

/-- The answers in the store stay as they are, unless a run remembers its own, which is kept as long
as usual. -/
theorem Accounted.answers_occur (accounted : desk.Accounted) (occurrence : Occurrence) :
    (∀ hash, (desk.occur occurrence).store.answer? hash = desk.store.answer? hash) ∨
      ∃ hash entry job item, desk.Remembers occurrence hash entry job ∧
        (∀ other, (desk.occur occurrence).store.answer? other =
          if other = hash then some item else desk.store.answer? other) ∧
        item.entry? = some entry ∧
        item.expires = Cache.Store.keptUntil desk.now desk.keepSeconds := by
  rcases desk.store_occur occurrence with same | ⟨number, rfl⟩ | ⟨runner, response, rfl⟩
  · exact Or.inl fun hash => congrArg (·.find? (Cache.queryKey hash)) same
  · obtain ⟨visits, named, database, board, store, went, _, stores⟩ := desk.visit_cases number
    refine Or.inl fun hash => ?_
    rw [Desk.occur, Desk.act, went]
    rcases stores with same | ⟨fingerprint, entry, put⟩
    · rw [same]
    · exact Cache.Store.answer?_putPrompt put hash
  · rcases desk.work_cases runner response with same | ⟨run, next, between, running, passage, went⟩
    · exact Or.inl fun hash => by rw [Desk.occur, Desk.act, same]
    · rw [Desk.occur, Desk.act, went]
      cases next with
      | goOn next notes =>
        refine Or.inl fun hash => ?_
        rw [follow_goOn]
        change (between.goOn runner next notes).store.answer? hash = _
        rw [store_goOn, passage.store_eq]
      | ended outcome notes =>
        have store : (between.follow runner run (.ended outcome notes)).store = between.store :=
          store_conclude ..
        rw [store]
        cases passage with
        | repointed phase keyed done =>
          exact Or.inl fun hash => Cache.Store.answer?_putPrompt done hash
        | @stored prepared execution chart after phase named done =>
          obtain ⟨item, answers, read, expires⟩ := accounted.answer?_stored running phase done
          obtain ⟨job, found, gives, finished⟩ :=
            accounted.job?_stored running phase after _
          refine Or.inr ⟨prepared.hash, run.entry execution chart, job, item,
            ⟨⟨runner, response, run, prepared, execution, chart, rfl, running, phase, rfl, rfl⟩,
              ?_, gives, finished⟩, answers, read, expires⟩
          rw [Desk.occur, Desk.act, went]
          exact found
        | _ => exact Or.inl fun _ => rfl

/-- A job that has ended stays on the board as it is, but for its notes, unless jobs are removed on
purpose, or somebody who asks goes on once the retention is over. -/
theorem keeps_ended_occur (sound : desk.board.Sound) {occurrence : Occurrence}
    (uncleaned : ∀ olderThan, occurrence ≠ .act (.clean olderThan)) {span ended : Micros}
    (lasting : desk.board.retention = some span) {jobType : String} {seq : Nat} {job : Job}
    (found : desk.board.job? jobType seq = some job) (finished : job.finishedOn = some ended) :
    (∃ later, (desk.occur occurrence).board.job? jobType seq = some later ∧ job.Alike later) ∨
      (∃ number, occurrence = .act (.visit number)) ∧ ended + span ≤ desk.now := by
  cases occurrence with
  | bring name sink => exact Or.inl ⟨job, found, .refl job⟩
  | act action =>
    refine ((desk.follows_act action).keeps_ended sound
      (fun olderThan cleans => uncleaned olderThan (congrArg _ cleans)) lasting found
      finished).imp_right ?_
    rintro ⟨⟨number, rfl⟩, past⟩
    obtain ⟨_, _, _, _, _, went, _⟩ := desk.visit_cases number
    refine ⟨⟨number, rfl⟩, ?_⟩
    rw [floor, act, went] at past
    exact past

end Answers

/-! ## Courses -/

/-- How answers and their jobs are kept up to a moment of a course. -/
structure Retained (desk : Desk) (occurrences : Nat → Occurrence) (span : Micros) (count : Nat) :
    Prop where
  /-- Every answer in the store was remembered by a run as an entry that lasts for the span, and as
  long as it lasts the job of the run is found. -/
  kept : ∀ hash item, (desk.course occurrences count).store.answer? hash = some item →
    ∃ moment < count, ∃ entry job,
      (desk.course occurrences moment).Remembers (occurrences moment) hash entry job ∧
      item.entry? = some entry ∧
      item.expires = some ((desk.course occurrences moment).now + span) ∧
      ((desk.course occurrences count).now < (desk.course occurrences moment).now + span →
        (desk.course occurrences count).Finds entry job)
  /-- When a run is told that its query was answered, the job that gave the answer is found. -/
  recognised : ∀ runner prepared entry,
    (desk.course occurrences count).Recognises (occurrences count) runner prepared entry →
      ∃ moment < count, ∃ job,
        (desk.course occurrences moment).Remembers (occurrences moment) prepared.hash entry job ∧
        (desk.course occurrences count).Finds entry job
  /-- While a run is about to point its prompt at the question of that job, the job is still found,
  unless somebody else has asked since, in the meantime and after the span was over. -/
  pointing : ∀ runner run prepared entry,
    (desk.course occurrences count).run? runner = some run →
    run.phase = .repointing prepared entry → ∃ looked < count,
      (desk.course occurrences looked).Recognises (occurrences looked) runner prepared entry ∧
      ∃ moment < looked, ∃ job,
        (desk.course occurrences moment).Remembers (occurrences moment) prepared.hash entry job ∧
        ((desk.course occurrences count).Finds entry job ∨ ∃ between, looked < between ∧
          between < count ∧ (∃ number, occurrences between = .act (.visit number)) ∧
          (desk.course occurrences looked).now < (desk.course occurrences moment).now + span ∧
          (desk.course occurrences moment).now + span ≤ (desk.course occurrences between).now)

section Kept

variable {settings : Settings} {desk : Desk} (started : start settings = .ok desk)
  {occurrences : Nat → Occurrence} (service : ∀ moment, (occurrences moment).isService = true)
  (uncleaned : ∀ moment olderThan, occurrences moment ≠ .act (.clean olderThan))
include started service

/-- Every answer in the store was remembered by a run. -/
theorem exists_remembers (count : Nat) {hash : String} {item : Item}
    (found : (desk.course occurrences count).store.answer? hash = some item) :
    ∃ moment < count, ∃ entry job,
      (desk.course occurrences moment).Remembers (occurrences moment) hash entry job ∧
      item.entry? = some entry ∧ item.expires = Cache.Store.keptUntil
        (desk.course occurrences moment).now settings.cacheTtlSeconds := by
  induction count with
  | zero =>
    obtain ⟨staffed, _, rfl⟩ := start_eq started
    cases found
  | succ count before =>
    have earlier := fun same => (before same).imp fun moment =>
      And.imp_left (Nat.lt_succ_of_lt : moment < count → moment < count + 1)
    -- The settings never change, so the answer is kept as long as at any other moment.
    have seconds := (@spans_course _ _ occurrences started count).1
    rcases (accounted_course started service count).answers_occur (occurrences count) with
      same | ⟨query, entry, job, written, remembers, answers, read, expires⟩
    · exact earlier ((same hash).symm.trans found)
    · rw [course, answers] at found
      split at found
      · next here =>
        cases found
        rw [seconds] at expires
        exact ⟨count, Nat.lt_succ_self count, entry, job, here ▸ remembers, read, expires⟩
      · exact earlier found

/-- A run is told of an answer that was remembered by a run and is not gone yet. -/
theorem Recognises.remembered {count : Nat} {runner : Runner} {prepared : Prepared}
    {entry : QueryEntry} (recognises :
      (desk.course occurrences count).Recognises (occurrences count) runner prepared entry) :
    ∃ moment < count, ∃ job,
      (desk.course occurrences moment).Remembers (occurrences moment) prepared.hash entry job ∧
      ∀ gone ∈ Cache.Store.keptUntil (desk.course occurrences moment).now settings.cacheTtlSeconds,
        (desk.course occurrences count).now < gone := by
  obtain ⟨response, run, _, _, _, looked⟩ := recognises
  have reads := Cache.Store.findQuery_eq looked
  obtain ⟨item, there, read⟩ := Option.bind_eq_some_iff.mp reads.symm
  obtain ⟨found, live⟩ := Option.filter_eq_some_iff.mp there
  obtain ⟨moment, below, other, job, remembers, known, expires⟩ :=
    exists_remembers started service count found
  cases read.symm.trans known
  refine ⟨moment, below, job, remembers, fun gone ends => ?_⟩
  rw [Item.isLive, expires, Option.mem_def.mp ends] at live
  exact of_decide_eq_true live

/-- A run that knows the answer to its query was told of it. -/
theorem exists_recognises (count : Nat) {runner : Runner} {run : Run} {prepared : Prepared}
    {entry : QueryEntry}
    (running : (desk.course occurrences count).run? runner = some run)
    (phase : run.phase = .removing prepared entry ∨ run.phase = .repointing prepared entry) :
    ∃ looked < count,
      (desk.course occurrences looked).Recognises (occurrences looked) runner prepared entry := by
  induction count generalizing run with
  | zero =>
    rw [course, run?_start started] at running
    cases running
  | succ count before =>
    have earlier : ∀ {former : Run}, (desk.course occurrences count).run? runner = some former →
        former.phase = .removing prepared entry ∨ former.phase = .repointing prepared entry →
          ∃ looked < count + 1, (desk.course occurrences looked).Recognises (occurrences looked)
            runner prepared entry := by
      intro former ran had
      obtain ⟨looked, below, recognises⟩ := before ran had
      exact ⟨looked, Nat.lt_succ_of_lt below, recognises⟩
    rw [course] at running
    cases occurs : occurrences count with
    | bring name sink =>
      rw [occurs] at running
      exact earlier ((run?_congr runner (fun _ => rfl) rfl).symm.trans running) phase
    | act action =>
      rw [occurs] at running
      cases move (accounted_course started service count).sound (.act action) runner with
      | stays same => exact earlier (same.symm.trans running) phase
      | starts _ after opening =>
        cases after.symm.trans running
        rw [opening] at phase
        rcases phase with phase | phase <;> cases phase
      | ends _ _ _ after => cases after.symm.trans running
      | cut _ _ after => cases after.symm.trans running
      | @goesOn former next notes response between acts ran passage after =>
        cases after.symm.trans running
        have occurs : occurrences count = .act (.work runner response) := by
          rw [occurs]
          cases acts
          rfl
        -- An answer gets known by a lookup, and is handed on when the question was removed.
        cases passage with
        | recognised looking found | duplicated looking found =>
          rcases phase with phase | phase <;> cases phase
          exact ⟨count, Nat.lt_succ_self count, response, former, occurs, ran, looking, found⟩
        | removed removing =>
          rcases phase with phase | phase <;> cases phase
          exact earlier ran (Or.inl removing)
        | _ => rcases phase with phase | phase <;> cases phase

include uncleaned

/-- The job of a run that has remembered its answer stays on the board as it is until somebody asks
once the span is over. -/
theorem Remembers.stays {moment count : Nat} (below : moment < count) {hash : String}
    {entry : QueryEntry} {job : Job}
    (remembers : (desk.course occurrences moment).Remembers (occurrences moment) hash entry job) :
    (∃ later, (desk.course occurrences count).board.job? questionJobType job.seq = some later ∧
      job.Alike later) ∨ ∃ between, moment < between ∧ between < count ∧
        (∃ number, occurrences between = .act (.visit number)) ∧
        (desk.course occurrences moment).now + Micros.ofSeconds settings.cacheTtlSeconds ≤
          (desk.course occurrences between).now := by
  induction below with
  | refl => exact Or.inl ⟨job, remembers.found, .refl job⟩
  | @step count below ih =>
    rcases ih with ⟨later, found, alike⟩ | ⟨between, after, before, rest⟩
    · have finished : later.finishedOn = some (desk.course occurrences moment).now := by
        rw [alike]
        exact remembers.finished
      rcases keeps_ended_occur (accounted_course started service count).sound (uncleaned count)
        (spans_course started count).2 found finished with ⟨last, there, same⟩ | ⟨visits, past⟩
      · exact Or.inl ⟨last, there, alike.trans same⟩
      · exact Or.inr ⟨count, below, Nat.lt_succ_self count, visits, past⟩
    · exact Or.inr ⟨between, after, Nat.lt_succ_of_lt before, rest⟩

/-- The job of a run that has remembered its answer is found until somebody asks once the span is
over. -/
theorem Remembers.found_later {moment count : Nat} (below : moment < count) {hash : String}
    {entry : QueryEntry} {job : Job}
    (remembers : (desk.course occurrences moment).Remembers (occurrences moment) hash entry job) :
    (desk.course occurrences count).Finds entry job ∨ ∃ between, moment < between ∧
      between < count ∧ (∃ number, occurrences between = .act (.visit number)) ∧
      (desk.course occurrences moment).now + Micros.ofSeconds settings.cacheTtlSeconds ≤
        (desk.course occurrences between).now := by
  refine (remembers.stays started service uncleaned below).imp_left ?_
  rintro ⟨later, found, alike⟩
  refine ⟨later, ?_, alike⟩
  have own : later.fingerprint = entry.questionId := by
    rw [alike]
    exact remembers.gives.question
  rw [← own]
  exact (accounted_course started service count).job?_of_found found

/-- The job of a run that has remembered its answer is found until the span is over. -/
theorem Remembers.found_until {moment count : Nat} (below : moment < count) {hash : String}
    {entry : QueryEntry} {job : Job}
    (remembers : (desk.course occurrences moment).Remembers (occurrences moment) hash entry job)
    (lasts : (desk.course occurrences count).now <
      (desk.course occurrences moment).now + Micros.ofSeconds settings.cacheTtlSeconds) :
    (desk.course occurrences count).Finds entry job := by
  refine (remembers.found_later started service uncleaned below).resolve_right ?_
  rintro ⟨between, _, before, _, past⟩
  exact absurd (Int.le_trans past (now_course (Nat.le_of_lt before))) (Int.not_le.mpr lasts)

/-- In a course in which no jobs are removed on purpose, every answer is kept exactly as long as its
job: an answer that lasts is that of a job that is found, and so is every answer that makes another
job a duplicate. -/
theorem answers_retained (lasting : 0 < settings.cacheTtlSeconds) (count : Nat) :
    desk.Retained occurrences (Micros.ofSeconds settings.cacheTtlSeconds) count where
  kept hash item found := by
    obtain ⟨moment, below, entry, job, remembers, read, expires⟩ :=
      exists_remembers started service count found
    exact ⟨moment, below, entry, job, remembers, read,
      expires.trans (Cache.Store.keptUntil_pos _ lasting),
      remembers.found_until started service uncleaned below⟩
  recognised runner prepared entry recognises := by
    obtain ⟨moment, below, job, remembers, lasts⟩ := recognises.remembered started service
    exact ⟨moment, below, job, remembers, remembers.found_until started service uncleaned below
      (lasts _ (Cache.Store.keptUntil_pos _ lasting))⟩
  pointing runner run prepared entry running phase := by
    obtain ⟨looked, below, recognises⟩ :=
      exists_recognises started service count running (Or.inr phase)
    obtain ⟨moment, earlier, job, remembers, lasts⟩ := recognises.remembered started service
    have lasts := lasts _ (Cache.Store.keptUntil_pos _ lasting)
    refine ⟨looked, below, recognises, moment, earlier, job, remembers, ?_⟩
    refine (remembers.found_later started service uncleaned
      (Nat.lt_trans earlier below)).imp_right ?_
    rintro ⟨between, _, before, visits, past⟩
    refine ⟨between, Nat.lt_of_not_le fun late => ?_, before, visits, lasts, past⟩
    exact absurd (Int.le_trans past (now_course late)) (Int.not_le.mpr lasts)

end Kept

/-! ## A duplicate at the last moment -/

/-- Whether jobs are removed on purpose. -/
def isCleaning : Occurrence → Bool
  | .act (.clean _) => true
  | _ => false

/-- A course of which no jobs are removed on purpose where none are in its script. -/
theorem uncleaned_script {occurrences : List Occurrence}
    (all : occurrences.all (!isCleaning ·) = true)
    (moment : Nat) (olderThan : Option Micros) :
    script occurrences moment ≠ .act (.clean olderThan) := by
  rw [script, List.getD_eq_getElem?_getD]
  cases found : occurrences[moment]? with
  | none =>
    intro cleans
    cases cleans
  | some occurrence =>
    rintro rfl
    cases List.all_eq_true.mp all _ (List.mem_of_getElem? found)

/-- The entry that a run is about to be told of. -/
def recognised? (desk : Desk) (runner : Runner) : Option (Prepared × QueryEntry) :=
  match (desk.run? runner).map Run.phase with
  | some (.lookingUp prepared) =>
    match desk.store.findQuery desk.now prepared.hash with
    | .ok found => found.map (prepared, ·)
    | .error _ => none
  | _ => none

/-- A run that is about to be told of an entry is told of it when it goes on. -/
theorem recognises_of_recognised? {desk : Desk} {runner : Runner} {prepared : Prepared}
    {entry : QueryEntry} (told : desk.recognised? runner = some (prepared, entry))
    (response : Remote.Response) :
    desk.Recognises (.act (.work runner response)) runner prepared entry := by
  unfold recognised? at told
  split at told
  · next query looking =>
    obtain ⟨run, running, phase⟩ := Option.map_eq_some_iff.mp looking
    split at told
    · next found looked =>
      obtain ⟨known, rfl, same⟩ := Option.map_eq_some_iff.mp told
      cases same
      exact ⟨response, run, rfl, running, phase, looked⟩
    · cases told
  · cases told

/-- Somebody asks, the answer is there and is stored, and just before its time is over somebody else
asks something to which it is the answer too. -/
def askedLate : List Occurrence :=
  asks 0 "Which types?" ++ [.act (.take 0)] ++
    served 0 ["", typesPlan, "", "", "", typesRows, "\x7b\x7d", ""] ++
    [.act (.tell 0), .act (.pass 59999999)] ++ asks 1 "What types?" ++ [.act (.take 0)] ++
    served 0 ["", typesPlan, "", ""]

/-- One microsecond before the answer is gone, the job that gave it is found. -/
theorem answers_retained_late : ∃ (desk : Desk) (job : Job), start smallService = .ok desk ∧
    (∀ moment, (script askedLate moment).isService = true) ∧
    (∀ moment olderThan, script askedLate moment ≠ .act (.clean olderThan)) ∧
    0 < smallService.cacheTtlSeconds ∧ (desk.course (script askedLate) 25).now = 59999999 ∧
    (desk.course (script askedLate) 25).job? "q1" = some job ∧ job.status = .completed := by
  obtain ⟨desk, started, passes⟩ := @exists_start smallService (fun desk =>
    let late := desk.course (script askedLate) 25
    late.now = 59999999 &&
    (late.recognised? (.worker 0)).any fun told => told.2.questionId = "q1") (by decide +kernel)
  simp only [Bool.and_eq_true, decide_eq_true_eq] at passes
  obtain ⟨now, told⟩ := passes
  obtain ⟨⟨prepared, entry⟩, told, own⟩ := (Option.any_eq_true _ _).mp told
  have retained := @answers_retained smallService desk started (script askedLate)
    (@isService_script askedLate rfl) (uncleaned_script rfl) (by decide) 25
  obtain ⟨_, _, job, remembers, later, found, alike⟩ :=
    retained.recognised _ prepared entry (recognises_of_recognised? told _)
  rw [of_decide_eq_true own] at found
  exact ⟨desk, later, started, @isService_script askedLate rfl, uncleaned_script rfl, by decide,
    now, found, alike.status.trans remembers.gives.completed⟩

/-- The same, but the time is over while the question of the duplicate is removed, and a third one
asks before the prompt is pointed at the question that has the answer. -/
def askedTooLate : List Occurrence :=
  askedLate ++ [.act (.pass 1)] ++ asks 2 "Whose types?" ++ served 0 ["", ""]

/-- A prompt is pointed at a question of which the job is not found any more, although it was found
when the run was told of the answer. -/
theorem prompt_pointed_at_forgotten : ∃ (desk : Desk) (run : Run) (prepared : Prepared)
    (entry : QueryEntry), start smallService = .ok desk ∧
    (∀ moment, (script askedTooLate moment).isService = true) ∧
    (∀ moment olderThan, script askedTooLate moment ≠ .act (.clean olderThan)) ∧
    0 < smallService.cacheTtlSeconds ∧
    (desk.course (script askedTooLate) 25).Recognises (script askedTooLate 25) (.worker 0) prepared
      entry ∧
    ((desk.course (script askedTooLate) 25).job? entry.questionId).isSome = true ∧
    (desk.course (script askedTooLate) 33).run? (.worker 0) = some run ∧
    run.phase = .repointing prepared entry ∧
    (desk.course (script askedTooLate) 33).job? entry.questionId = none ∧
    ((desk.course (script askedTooLate) 34).store.prompt? (promptFingerprint "What types?")).bind
      Item.promptEntry? = some (Run.pointer entry) := by
  obtain ⟨desk, started, passes⟩ := @exists_start smallService (fun desk =>
    let reached := desk.course (script askedTooLate)
    ((reached 25).recognised? (.worker 0)).any fun told =>
      ((reached 33).run? (.worker 0)).any fun run => run.phase = .repointing told.1 told.2 &&
        ((reached 25).job? told.2.questionId).isSome &&
        ((reached 33).job? told.2.questionId).isNone &&
        ((reached 34).store.prompt? (promptFingerprint "What types?")).bind Item.promptEntry? =
          some (Run.pointer told.2)) (by decide +kernel)
  simp only [Option.any_eq_true, Bool.and_eq_true, decide_eq_true_eq,
    Option.isNone_iff_eq_none] at passes
  obtain ⟨⟨prepared, entry⟩, told, run, running, ⟨⟨phase, there⟩, gone⟩, pointed⟩ := passes
  exact ⟨desk, run, prepared, entry, started, @isService_script askedTooLate rfl,
    uncleaned_script rfl, by decide, recognises_of_recognised? told _, there, running, phase, gone,
    pointed⟩

end QuestionDesk.Desk
