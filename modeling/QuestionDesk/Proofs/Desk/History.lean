import QuestionDesk.Proofs.Desk.Runs

/-!
# Histories

A history is what becomes of a desk while one thing happens after another: the desk acts, or
somebody else rewrites the store or the database that it uses. `Shift` says what a happening does to
the runs and their turns; every statement about all runs is an induction over it.
-/
namespace QuestionDesk

open Jobs (Board Job)
open Pipeline (Next Phase Prepared Run Runner Turns)

/-- Something that happens to a desk. -/
inductive Happening where
  /-- The desk acts. -/
  | act (action : Action)
  /-- Somebody else rewrites the store. -/
  | rewriteStore (store : Cache.Store)
  /-- Somebody else rewrites the database. -/
  | rewriteDatabase (database : Database)

namespace Desk

/-- The desk after something has happened to it. -/
def meet (desk : Desk) : Happening → Desk
  | .act action => desk.act action
  | .rewriteStore store => { desk with store }
  | .rewriteDatabase database => { desk with database }

/-- The desk after the first of a sequence of happenings. -/
def history (desk : Desk) (happenings : Nat → Happening) : Nat → Desk
  | 0 => desk
  | count + 1 => (history desk happenings count).meet (happenings count)

/-! ## What a step of a run leaves as it is -/

/-- A step of a run changes nothing but the store and the database before the run goes on. -/
theorem Passage.after_eq {desk between : Desk} {runner : Runner} {run : Run}
    {response : Remote.Response} {next : Next}
    (passage : desk.Passage runner run response next between) :
    between = { desk with store := between.store, database := between.database } := by
  cases passage <;> rfl

/-- A step that does not end a run leaves the store as it is. -/
theorem Passage.store_eq {desk between : Desk} {runner : Runner} {run next : Run}
    {response : Remote.Response} {notes : Fields}
    (passage : desk.Passage runner run response (.goOn next notes) between) :
    between.store = desk.store := by
  cases passage <;> rfl

/-- A step of a run has the same runs before the run goes on. -/
theorem Passage.run?_eq {desk between : Desk} {runner : Runner} {run : Run}
    {response : Remote.Response} {next : Next}
    (passage : desk.Passage runner run response next between) (other : Runner) :
    between.run? other = desk.run? other := by
  rw [passage.after_eq]
  exact run?_congr other (fun _ => rfl) rfl

/-- The turns after a run has gone on: one that has its query stands at the end of the line. -/
def turnsAfter (desk : Desk) (runner : Runner) (run next : Run) : Turns :=
  match run.phase, next.phase with
  | .planning, .queueing prepared => desk.turns.enter prepared.hash runner
  | _, _ => desk.turns

/-- A run that has just got its query stands at the end of the line. -/
theorem turnsAfter_of_queueing (desk : Desk) (runner : Runner) {run next : Run}
    {prepared : Prepared} (planning : run.phase = .planning)
    (queueing : next.phase = .queueing prepared) :
    desk.turnsAfter runner run next = desk.turns.enter prepared.hash runner := by
  unfold turnsAfter
  rw [planning, queueing]

/-- A run that goes on without having got its query leaves the turns as they are. -/
theorem turnsAfter_of_not (desk : Desk) (runner : Runner) {run next : Run}
    (not : ∀ prepared, run.phase = .planning → next.phase = .queueing prepared → False) :
    desk.turnsAfter runner run next = desk.turns := by
  unfold turnsAfter
  split
  · next planning queueing => exact (not _ planning queueing).elim
  · rfl

/-- A run that goes on leaves everything but its own state, its job and the turns as it is. -/
theorem follow_goOn (desk : Desk) (runner : Runner) (run next : Run) (notes : Fields) :
    desk.follow runner run (.goOn next notes) =
      { desk.goOn runner next notes with turns := desk.turnsAfter runner run next } := by
  simp only [follow]
  split
  · next planning queueing =>
    rw [turnsAfter_of_queueing desk runner planning queueing, lineUp, turns_goOn]
  · next not => rw [turnsAfter_of_not desk runner not, ← turns_goOn desk runner next notes]

/-- A run that goes on or ends changes the turns, the board and the jobs that are run by hand. -/
theorem follow_eq (desk : Desk) (runner : Runner) (run : Run) (next : Next) :
    ∃ turns board hands, desk.follow runner run next = { desk with turns, board, hands } := by
  cases next with
  | goOn next notes =>
    rw [follow_goOn]
    cases runner <;> exact ⟨_, _, _, rfl⟩
  | ended outcome notes =>
    simp only [follow, conclude, leaveLine_eq]
    cases runner <;> exact ⟨_, _, _, rfl⟩

/-- Work on a run changes the store and the database, and what a run that goes on changes. -/
theorem work_eq (desk : Desk) (runner : Runner) (response : Remote.Response) :
    ∃ store database turns board hands,
      desk.work runner response = { desk with store, database, turns, board, hands } := by
  rcases desk.work_cases runner response with same | ⟨run, next, between, _, passage, went⟩
  · exact ⟨_, _, _, _, _, same⟩
  · obtain ⟨turns, board, hands, follows⟩ := between.follow_eq runner run next
    refine ⟨between.store, between.database, turns, board, hands, ?_⟩
    rw [went, follows, passage.after_eq]

/-! ## What happens to the runs -/

/-- A run may be started with a payload when something happens: that of a job on the board, or one
that is handed in. -/
def Offers (desk : Desk) (happening : Happening) (payload : Fields) : Prop :=
  (∃ jobType seq job, desk.board.job? jobType seq = some job ∧ job.payload = payload) ∨
    ∃ jobId, happening = .act (.handle jobId payload)

/-- What a happening does to the runs and their turns. -/
inductive Shift (desk : Desk) (happening : Happening) (after : Desk) : Prop where
  /-- It has nothing to do with the runs. -/
  | aside (runs : ∀ runner, after.run? runner = desk.run? runner)
    (turns : after.turns = desk.turns)
  /-- A run starts. -/
  | started {runner : Runner} {run : Run} (phase : run.phase = .opening)
    (free : desk.run? runner = none)
    (runs : ∀ other, after.run? other =
      if other = runner then some run else desk.run? other)
    (turns : after.turns = desk.turns) (offered : desk.Offers happening run.payload)
  /-- A run goes on. -/
  | wentOn {runner : Runner} {run next : Run} {notes : Fields} {response : Remote.Response}
    {between : Desk} (acts : happening = .act (.work runner response))
    (running : desk.run? runner = some run)
    (passage : desk.Passage runner run response (.goOn next notes) between)
    (runs : ∀ other, after.run? other =
      if other = runner then some next else desk.run? other)
    (turns : after.turns = desk.turnsAfter runner run next)
    (store : after.store = desk.store)
  /-- A run ends. -/
  | ended {runner : Runner} {run : Run} {outcome : Except Failure Value} {notes : Fields}
    {response : Remote.Response} {between : Desk}
    (acts : happening = .act (.work runner response))
    (running : desk.run? runner = some run)
    (passage : desk.Passage runner run response (.ended outcome notes) between)
    (runs : ∀ other, after.run? other = if other = runner then none else desk.run? other)
    (turns : after.turns = desk.turnsWithout runner run)
    (store : after.store = between.store)
    (went : after = between.follow runner run (.ended outcome notes))
  /-- A run is cut off. -/
  | cut {runner : Runner} {run : Run} (acts : happening = .act (.cut runner))
    (running : desk.run? runner = some run)
    (runs : ∀ other, after.run? other = if other = runner then none else desk.run? other)
    (turns : after.turns = desk.turnsWithout runner run)
    (store : after.store = desk.store)

/-- A happening that leaves the workers, the jobs that are run by hand and the turns alone has
nothing to do with the runs. -/
theorem Shift.of_same {desk after : Desk} {happening : Happening}
    (workers : ∀ index : Nat, after.board.workers[index]? = desk.board.workers[index]?)
    (hands : after.hands = desk.hands) (turns : after.turns = desk.turns) :
    desk.Shift happening after :=
  .aside (fun runner => run?_congr runner workers hands) turns

/-- A visit leaves the workers, the jobs that are run by hand and the turns alone. -/
theorem visit_cases (desk : Desk) (number : Nat) :
    ∃ visits named database board store,
      desk.visit number = { desk with visits, named, database, board, store } ∧
        (board = desk.board ∨ ∃ questionId prompt,
          board = (desk.board.create desk.now questionJobType questionId
            (payload questionId prompt) true).2) ∧
          (store = desk.store ∨ ∃ fingerprint entry,
            desk.store.putPrompt desk.now desk.keepSeconds fingerprint entry = .ok store) := by
  unfold visit
  split
  · next visit found =>
    cases phase : visit.phase with
    | lookingUp =>
      simp only [visitStep, phase]
      split
      · exact ⟨_, _, _, _, _, rfl, Or.inl rfl, Or.inl rfl⟩
      · split <;> exact ⟨_, _, _, _, _, rfl, Or.inl rfl, Or.inl rfl⟩
    | creating questionId =>
      simp only [visitStep, phase]
      split
      · exact ⟨_, _, _, _, _, rfl, Or.inl rfl, Or.inl rfl⟩
      · exact ⟨_, _, _, _, _, rfl, Or.inr ⟨_, _, rfl⟩, Or.inl rfl⟩
    | recording ticket =>
      simp only [visitStep, phase]
      split <;> exact ⟨_, _, _, _, _, rfl, Or.inl rfl, Or.inl rfl⟩
    | remembering ticket =>
      simp only [visitStep, phase]
      split
      · exact ⟨_, _, _, _, _, rfl, Or.inl rfl, Or.inl rfl⟩
      · next store put => exact ⟨_, _, _, _, _, rfl, Or.inl rfl, Or.inr ⟨_, _, put⟩⟩
    | counting ticket =>
      simp only [visitStep, phase]
      exact ⟨_, _, _, _, _, rfl, Or.inl rfl, Or.inl rfl⟩
    | ended outcome =>
      simp only [visitStep, phase]
      exact ⟨_, _, _, _, _, rfl, Or.inl rfl, Or.inl rfl⟩
  · exact ⟨desk.visits, desk.named, desk.database, desk.board, desk.store, rfl, Or.inl rfl,
      Or.inl rfl⟩

/-- A listener changes the database alone. -/
theorem store?_eq (desk : Desk) (listener : Listener) (job : Job) :
    ∃ database, (desk.store? listener job).2 = { desk with database } := by
  unfold store?
  cases listener with
  | completion =>
    simp only
    split <;> exact ⟨_, rfl⟩
  | failure => exact ⟨_, rfl⟩

/-- A listener that hears of a job changes the database and the relay. -/
theorem hear_cases (desk : Desk) (listener : Listener) (job : Job) :
    ∃ database relay, (desk.hear listener job).2 = { desk with database, relay } := by
  simp only [hear]
  split
  · obtain ⟨database, kept⟩ := store?_eq desk listener job
    obtain ⟨relay, told⟩ := announce_eq (desk.store? listener job).2 job
    refine ⟨database, relay, ?_⟩
    rw [told, kept]
  · exact ⟨desk.database, desk.relay, rfl⟩

/-- A worker that tells a listener has told it, and changes the database and the relay. -/
theorem tell_cases (desk : Desk) (worker : Nat) :
    ∃ board database relay, desk.tell worker = { desk with board, database, relay } ∧
      (board = desk.board ∨ ∃ outcome, board = desk.board.notified worker outcome) := by
  unfold tell
  split
  · next listener job telling =>
    obtain ⟨database, relay, heard⟩ := desk.hear_cases listener job
    simp only [heard]
    exact ⟨_, database, relay, rfl, Or.inr ⟨_, rfl⟩⟩
  · exact ⟨desk.board, desk.database, desk.relay, rfl, Or.inl rfl⟩

/-- A worker that takes a job starts its run. -/
theorem shift_take (desk : Desk) (worker : Nat) :
    desk.Shift (.act (.take worker)) (desk.take worker) := by
  rcases Board.take_cases desk.board desk.now worker
    (fun job => Run.start desk.now job.id job.payload) with same | taken
  · simp only [take, same]
    exact .of_same (fun _ => rfl) rfl rfl
  · obtain ⟨jobType, seq, rest, job, idle, waiting, found, taken⟩ := taken
    have workers : ∀ index : Nat, (desk.take worker).board.workers[index]? =
        if index = worker then
          some { jobType, activity := .handling seq (Run.start desk.now job.id job.payload) }
        else desk.board.workers[index]? := by
      intro index
      simp only [take, taken]
      exact Board.workers_advanced desk.board idle _ _ index
    have free : desk.run? (.worker worker) = none :=
      run?_worker_none fun _ _ _ does => by cases (idle.unique does).2
    exact .started rfl free (fun other => run?_of_workers other workers rfl) rfl
      (Or.inl ⟨jobType, seq, job, found, rfl⟩)

/-- A run that goes on by one step goes on or ends. -/
theorem shift_work {desk : Desk} (sound : desk.board.Sound) (runner : Runner)
    (response : Remote.Response) :
    desk.Shift (.act (.work runner response)) (desk.work runner response) := by
  rcases desk.work_cases runner response with same | ⟨run, next, between, running, passage, went⟩
  · rw [same]
    exact .of_same (fun _ => rfl) rfl rfl
  · have still : between.run? runner = some run := by rw [passage.run?_eq, running]
    rw [went]
    cases next with
    | goOn next notes =>
      have runs : ∀ other, (between.follow runner run (.goOn next notes)).run? other =
          if other = runner then some next else desk.run? other := by
        intro other
        rw [follow_goOn, ← passage.run?_eq, ← run?_goOn still next notes]
        exact run?_congr other (fun _ => rfl) rfl
      refine .wentOn rfl running passage runs ?_ ?_
      · rw [follow_goOn, passage.after_eq]
        rfl
      · rw [follow_goOn, ← passage.store_eq, ← store_goOn between runner next notes]
    | ended outcome notes =>
      have kept : between.board.Sound := by
        rw [passage.after_eq]
        exact sound
      refine .ended rfl running passage (fun other => ?_) ?_ ?_ rfl
      · rw [← passage.run?_eq]
        exact run?_conclude kept still outcome notes other
      · rw [follow, turns_conclude, passage.after_eq]
        rfl
      · rw [follow, store_conclude]

/-- A worker that was telling a listener carries out no run, before and after. -/
theorem run?_notified {desk after : Desk} {worker : Nat} {outcome : Except Failure Unit}
    (board : after.board = desk.board.notified worker outcome) (hands : after.hands = desk.hands)
    (runner : Runner) : after.run? runner = desk.run? runner := by
  rcases desk.board.notified_cases worker outcome with same | moved
  · exact run?_congr runner (fun index => by rw [board, same]) hands
  · obtain ⟨jobType, job, event, told, next, does, free, workers⟩ := moved
    rw [← board] at workers
    rw [run?_of_workers runner workers hands]
    split
    · next own =>
      rw [own, run?_worker_none fun _ _ _ handles => by cases (does.unique handles).2]
      cases next with
      | handling seq run => exact absurd rfl (free seq run)
      | _ => rfl
    · rfl

/-- A listener that is told has nothing to do with the runs. -/
theorem shift_tell (desk : Desk) (worker : Nat) :
    desk.Shift (.act (.tell worker)) (desk.tell worker) := by
  obtain ⟨board, database, relay, told, boards⟩ := desk.tell_cases worker
  rw [told]
  rcases boards with same | ⟨outcome, notified⟩
  · exact .of_same (fun _ => by rw [same]) rfl rfl
  · exact .aside (run?_notified notified rfl) rfl

/-- A runner that is cut off ends its run, if it carries one out. -/
theorem shift_cut (desk : Desk) (runner : Runner) :
    desk.Shift (.act (.cut runner)) (desk.cut runner) := by
  cases running : desk.run? runner with
  | some run =>
    refine .cut rfl running (run?_cut running) (turns_cut running) ?_
    cases runner <;> simp [Desk.cut, running, leaveLine_eq, withHand]
  | none =>
    rcases cut_of_none running with same | ⟨index, relay, rfl, gone⟩
    · rw [same]
      exact .of_same (fun _ => rfl) rfl rfl
    · rw [gone]
      refine .aside (fun other => ?_) rfl
      apply run?_ext
      intro run
      cases other with
      | hand number => rw [run?_hand, run?_hand]
      | worker position =>
        rw [run?_worker, run?_worker]
        simp only [Board.Does, Board.workers_kill]
        by_cases own : position = index
        · subst own
          simp only [if_true]
          constructor
          · rintro ⟨jobType, seq, killed⟩
            obtain ⟨worker, _, same⟩ := Option.map_eq_some_iff.mp killed
            cases same
          · intro handles
            rw [run?_worker.mpr handles] at running
            cases running
        · simp only [own, if_false]

/-- Somebody who starts to run a job by hand starts a run. -/
theorem shift_handle (desk : Desk) (jobId : String) (payload : Fields) :
    desk.Shift (.act (.handle jobId payload)) (desk.act (.handle jobId payload)) := by
  have free : desk.run? (.hand desk.hands.length) = none := by simp [run?]
  refine .started (show (Run.start desk.now jobId payload).phase = .opening from rfl) free
    (fun other => ?_) rfl (Or.inr ⟨jobId, rfl⟩)
  cases other with
  | worker index => simp [run?, act]
  | hand number =>
    simp only [run?, act, Runner.hand.injEq]
    rcases Nat.lt_trichotomy number desk.hands.length with before | same | behind
    · rw [List.getElem?_append_left before, if_neg (by omega)]
    · subst same
      simp
    · have beyond : ¬number < (desk.hands ++ [(⟨[], .running (Run.start desk.now jobId payload)⟩ :
          Hand)]).length := by
        simp only [List.length_append, List.length_singleton]
        omega
      rw [if_neg (by omega), List.getElem?_eq_none (by omega), List.getElem?_eq_none (by omega)]

/-- What happens to a sound desk shifts its runs in one of these ways. -/
theorem shift {desk : Desk} (sound : desk.board.Sound) (happening : Happening) :
    desk.Shift happening (desk.meet happening) := by
  cases happening with
  | rewriteStore store => exact .of_same (fun _ => rfl) rfl rfl
  | rewriteDatabase database => exact .of_same (fun _ => rfl) rfl rfl
  | act action =>
    cases action with
    | take worker => exact desk.shift_take worker
    | work runner response => exact shift_work sound runner response
    | tell worker => exact desk.shift_tell worker
    | cut runner => exact desk.shift_cut runner
    | handle jobId payload => exact desk.shift_handle jobId payload
    | visit number =>
      obtain ⟨visits, named, database, board, store, went, boards, _⟩ := desk.visit_cases number
      refine .of_same ?_ (by simp [meet, act, went]) (by simp [meet, act, went])
      intro index
      simp only [meet, act, went]
      rcases boards with same | ⟨questionId, prompt, created⟩
      · rw [same]
      · rw [created, Board.workers_create]
    | subscribe questionId sink =>
      obtain ⟨relay, went⟩ := desk.subscribe_eq questionId sink
      simp only [meet, act, went]
      exact .of_same (fun _ => rfl) rfl rfl
    | promote =>
      obtain ⟨database, promoter, went⟩ := desk.promote_eq
      simp only [meet, act, went]
      exact .of_same (fun _ => rfl) rfl rfl
    | _ => exact .of_same (fun _ => rfl) rfl rfl

/-! ## What happenings keep -/

/-- A run that goes on keeps the board sound. -/
theorem sound_follow {desk : Desk} (sound : desk.board.Sound) (runner : Runner) (run : Run)
    (next : Next) : (desk.follow runner run next).board.Sound := by
  cases next with
  | goOn next notes =>
    rw [follow_goOn]
    cases runner with
    | worker index => exact sound.goOn index next notes
    | hand number => exact sound
  | ended outcome notes =>
    simp only [follow, conclude, leaveLine_eq]
    cases runner with
    | worker index => exact (sound.goOn index run notes).finish desk.now index outcome
    | hand number => exact sound

/-- A runner that is cut off leaves the board sound. -/
theorem sound_cut {desk : Desk} (sound : desk.board.Sound) (runner : Runner) :
    (desk.cut runner).board.Sound := by
  obtain ⟨turns, relay, board, hands, gone, boards⟩ := desk.cut_cases runner
  rw [gone]
  rcases boards with rfl | ⟨index, _, rfl | ⟨run, notes, _, rfl⟩⟩
  · exact sound
  · exact sound.kill index
  · exact (sound.goOn index run notes).kill index

/-- Whatever happens to a desk keeps its board sound. -/
theorem sound_meet {desk : Desk} (sound : desk.board.Sound) (happening : Happening) :
    (desk.meet happening).board.Sound := by
  cases happening with
  | rewriteStore store => exact sound
  | rewriteDatabase database => exact sound
  | act action =>
    cases action with
    | take worker =>
      exact sound.take desk.now worker fun job => Run.start desk.now job.id job.payload
    | work runner response =>
      rcases desk.work_cases runner response with same | ⟨run, next, between, _, passage, went⟩
      · simp only [meet, act, same]
        exact sound
      · simp only [meet, act, went]
        apply sound_follow
        rw [passage.after_eq]
        exact sound
    | tell worker =>
      obtain ⟨board, database, relay, told, boards⟩ := desk.tell_cases worker
      simp only [meet, act, told]
      rcases boards with rfl | ⟨outcome, rfl⟩
      · exact sound
      · exact sound.notified worker outcome
    | cut runner => exact sound_cut sound runner
    | visit number =>
      obtain ⟨visits, named, database, board, store, went, boards, _⟩ := desk.visit_cases number
      simp only [meet, act, went]
      rcases boards with same | ⟨questionId, prompt, created⟩
      · rw [same]
        exact sound
      · rw [created]
        exact sound.create desk.now questionJobType questionId _ true
    | subscribe questionId sink =>
      obtain ⟨relay, went⟩ := desk.subscribe_eq questionId sink
      simp only [meet, act, went]
      exact sound
    | promote =>
      obtain ⟨database, promoter, went⟩ := desk.promote_eq
      simp only [meet, act, went]
      exact sound
    | clean olderThan => exact sound.clean desk.now olderThan
    | _ => exact sound

/-- The settings of a desk, which never change. -/
def settings (desk : Desk) : Pipeline.Policy × String × String × Int :=
  (desk.policy, desk.plannerUrl, desk.executorUrl, desk.keepSeconds)

/-- Whatever happens to a desk leaves its settings as they are. -/
theorem settings_meet (desk : Desk) (happening : Happening) :
    (desk.meet happening).settings = desk.settings := by
  cases happening with
  | rewriteStore store => rfl
  | rewriteDatabase database => rfl
  | act action =>
    cases action with
    | work runner response =>
      obtain ⟨store, database, turns, board, hands, went⟩ := desk.work_eq runner response
      simp only [meet, act, went, settings]
    | tell worker =>
      obtain ⟨board, database, relay, told, _⟩ := desk.tell_cases worker
      simp only [meet, act, told, settings]
    | cut runner =>
      obtain ⟨turns, relay, board, hands, gone, _⟩ := desk.cut_cases runner
      simp only [meet, act, gone, settings]
    | visit number =>
      obtain ⟨visits, named, database, board, store, went, _⟩ := desk.visit_cases number
      simp only [meet, act, went, settings]
    | subscribe questionId sink =>
      obtain ⟨relay, went⟩ := desk.subscribe_eq questionId sink
      simp only [meet, act, went, settings]
    | promote =>
      obtain ⟨database, promoter, went⟩ := desk.promote_eq
      simp only [meet, act, went, settings]
    | _ => rfl

/-! ## Histories -/

/-- The desk after one more happening. -/
theorem history_succ (desk : Desk) (happenings : Nat → Happening) (count : Nat) :
    desk.history happenings (count + 1) =
      (desk.history happenings count).meet (happenings count) :=
  rfl

/-- What holds of a desk and is kept by everything that happens holds ever after. -/
theorem history_induction {desk : Desk} {happenings : Nat → Happening} (property : Desk → Prop)
    (first : property desk)
    (kept : ∀ count, property (desk.history happenings count) →
      property ((desk.history happenings count).meet (happenings count))) (count : Nat) :
    property (desk.history happenings count) := by
  induction count with
  | zero => exact first
  | succ count before => exact kept count before

/-- The settings of a desk are the same ever after. -/
theorem settings_history (desk : Desk) (happenings : Nat → Happening) (count : Nat) :
    (desk.history happenings count).settings = desk.settings :=
  history_induction (fun later => later.settings = desk.settings) rfl
    (fun _ before => (settings_meet _ _).trans before) count

/-- Settings that are the same ever after, one by one. -/
theorem constant_history (desk : Desk) (happenings : Nat → Happening) (count : Nat) :
    (desk.history happenings count).policy = desk.policy ∧
      (desk.history happenings count).plannerUrl = desk.plannerUrl ∧
        (desk.history happenings count).executorUrl = desk.executorUrl ∧
          (desk.history happenings count).keepSeconds = desk.keepSeconds := by
  have same := settings_history desk happenings count
  simpa only [settings, Prod.mk.injEq] using same

/-- A desk that has just been set up, with the board whose workers were engaged for it. -/
theorem start_eq {settings : Settings} {desk : Desk} (started : start settings = .ok desk) :
    ∃ staffed : Board Run Listener,
      ({ retention := some (Micros.ofSeconds settings.cacheTtlSeconds) } :
        Board Run Listener).register questionJobType settings.jobConcurrency = .ok staffed ∧
      desk = {
        policy := { safety := { threshold := .float settings.fidelityThreshold } }
        plannerUrl := settings.plannerUrl
        executorUrl := settings.executorUrl
        keepSeconds := settings.cacheTtlSeconds
        board := (staffed.subscribe .completed .completion).subscribe .failed .failure
        relay := { closeDelay := Micros.ofNumber (.float settings.closeDelaySeconds) }
        promoter := Promoter.start
          { interval := Micros.ofSeconds settings.promotionIntervalSeconds
            threshold := settings.promotionThreshold
            windowHours := settings.promotionWindowHours } 0 } := by
  simp only [start] at started
  cases engaged : ({ retention := some (Micros.ofSeconds settings.cacheTtlSeconds) } :
    Board Run Listener).register questionJobType settings.jobConcurrency with
  | error failure =>
    rw [engaged] at started
    cases started
  | ok staffed =>
    rw [engaged] at started
    cases started
    exact ⟨staffed, rfl, rfl⟩

/-- The settings of a small service with one worker. -/
def smallService : Settings :=
  { databaseUrl := "database", storeUrl := "store", cacheTtlSeconds := 60
    plannerUrl := "planner", executorUrl := "executor", httpTimeoutSeconds := .zero false
    fidelityThreshold := .zero false, jobConcurrency := 1, closeDelaySeconds := .zero false
    promotionIntervalSeconds := 60, promotionThreshold := 1, promotionWindowHours := 1
    runMigrations := false }

/-- The board of a desk that has just been set up is sound. -/
theorem sound_start {settings : Settings} {desk : Desk} (started : start settings = .ok desk) :
    desk.board.Sound := by
  obtain ⟨staffed, engaged, rfl⟩ := start_eq started
  have empty : ({ retention := some (Micros.ofSeconds settings.cacheTtlSeconds) } :
      Board Run Listener).Sound := Board.sound_of_empty rfl rfl
  exact ((empty.register engaged).subscribe .completed .completion).subscribe .failed .failure

/-- The board is sound ever after. -/
theorem sound_history {desk : Desk} (sound : desk.board.Sound) (happenings : Nat → Happening)
    (count : Nat) : (desk.history happenings count).board.Sound :=
  history_induction (fun later => later.board.Sound) sound
    (fun _ before => sound_meet before _) count

end Desk

end QuestionDesk
