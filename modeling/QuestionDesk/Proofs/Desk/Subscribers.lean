import QuestionDesk.Proofs.Desk.Pushes
import QuestionDesk.Proofs.Desk.Scheduled
import QuestionDesk.Proofs.Desk.Tellings
import QuestionDesk.Proofs.Desk.Watching
import QuestionDesk.Proofs.Jobs.Lives
import QuestionDesk.Proofs.Jobs.Search

/-!
# Subscribers

A sink that is subscribed to the job of a question is told the state of the job at once, and how the
job has ended at the latest when its listener is told. A job ends before its listener is told, so a
subscriber can come before both, between them, or after both; none of them misses the end.
-/
namespace QuestionDesk.Desk

open Jobs (Board Event Job Status)
open Pipeline (Run)
open Push (Deed JobState Registration Station Touch Watch)

/-! ## Announcing the end of a job -/

/-- The worker whose turn it is in what occurs. -/
def turnOf? : Occurrence → Option Nat
  | .act (.take worker) | .act (.work (.worker worker) _) | .act (.tell worker)
  | .act (.cut (.worker worker)) => some worker
  | _ => none

/-- What a worker does changes in its own turns alone. -/
theorem workers_occur {desk : Desk} (sound : desk.board.Sound) {occurrence : Occurrence}
    {worker : Nat} (apart : turnOf? occurrence ≠ some worker) :
    (desk.occur occurrence).board.workers[worker]? = desk.board.workers[worker]? := by
  -- What is done in the turn of a worker is done to that worker alone.
  have unlike : ∀ {index : Nat}, turnOf? occurrence = some index → worker ≠ index := by
    rintro index turn rfl
    exact apart turn
  cases occurrence with
  | bring name sink => rfl
  | act action =>
    cases action with
    | visit number =>
      obtain ⟨visits, named, database, board, store, went, boards, -⟩ := desk.visit_cases number
      simp only [occur, act, went]
      rcases boards with rfl | ⟨questionId, prompt, rfl⟩
      · rfl
      · rw [Board.workers_create]
    | take index =>
      simp only [occur, act, take]
      rcases Board.take_cases desk.board desk.now index
        (fun job => Run.start desk.now job.id job.payload) with
        same | ⟨_, _, _, _, idle, _, _, taken⟩
      · rw [same]
      · rw [taken, Board.workers_advanced desk.board idle, if_neg (unlike rfl)]
    | work runner response =>
      simp only [occur, act]
      rcases desk.work_cases runner response with
        same | ⟨run, next, between, running, passage, went⟩
      · rw [same]
      · rw [went, passage.after_eq]
        cases runner with
        | hand number => exact workers_follow_hand _ number run next worker
        | worker index =>
          obtain ⟨_, _, handles⟩ := run?_worker.mp running
          obtain ⟨_, _, workers⟩ := @workers_follow
            { desk with store := between.store, database := between.database } sound _ _ _ _
            handles next
          rw [workers, if_neg (unlike rfl)]
    | tell index =>
      obtain ⟨board, database, relay, told, boards⟩ := desk.tell_cases index
      simp only [occur, act, told]
      rcases boards with rfl | ⟨outcome, rfl⟩
      · rfl
      · rcases desk.board.notified_cases index outcome with
          same | ⟨_, _, _, _, _, _, _, workers⟩
        · exact congrArg (·.workers[worker]?) same
        · exact (workers worker).trans (if_neg (unlike rfl))
    | cut runner =>
      obtain ⟨turns, relay, board, hands, gone, boards⟩ := desk.cut_cases runner
      simp only [occur, act, gone]
      rcases boards with rfl | ⟨index, rfl, rfl | ⟨run, notes, running, rfl⟩⟩
      · rfl
      · rw [Board.workers_kill, if_neg (unlike rfl)]
      · obtain ⟨_, _, handles⟩ := run?_worker.mp running
        rw [Board.workers_kill, if_neg (unlike rfl), Board.goOn_eq desk.board handles,
          Board.workers_advanced desk.board handles, if_neg (unlike rfl)]
    | subscribe questionId sink =>
      obtain ⟨relay, went⟩ := desk.subscribe_eq questionId sink
      simp only [occur, act, went]
    | promote =>
      obtain ⟨database, promoter, went⟩ := desk.promote_eq
      simp only [occur, act, went]
    | _ => rfl

/-- A worker goes on telling a listener until it has told it or is cut off. -/
theorem telling_occur {desk : Desk} (sound : desk.board.Sound) {occurrence : Occurrence}
    {worker told : Nat} {jobType : String} {job : Job} {event : Event}
    (does : desk.board.Does worker jobType (.notifying job event told))
    (untold : occurrence ≠ .act (.tell worker))
    (uncut : occurrence ≠ .act (.cut (.worker worker))) :
    (desk.occur occurrence).board.Does worker jobType (.notifying job event told) := by
  by_cases turn : turnOf? occurrence = some worker
  · -- It is neither idle nor in a run, so nothing comes of its other turns.
    have still : (desk.occur occurrence).board = desk.board := by
      unfold turnOf? at turn
      split at turn <;> cases turn
      · rcases Board.take_cases desk.board desk.now worker
          (fun job => Run.start desk.now job.id job.payload) with same | ⟨_, _, _, _, idle, _⟩
        · exact same
        · cases (does.unique idle).2
      · have free : desk.run? (.worker worker) = none :=
          run?_worker_none fun _ _ _ handles => nomatch (does.unique handles).2
        simp only [occur, act, work, free]
      · exact absurd rfl untold
      · exact absurd rfl uncut
    rw [still]
    exact does
  · exact (workers_occur sound turn).trans does

/-- When nobody is about to tell the listener of a job any more, the job is announced. -/
theorem Staffed.deedOf_of_closed {desk : Desk} (staffed : desk.Staffed) {occurrence : Occurrence}
    {questionId : String} {matter after : Matter} {job : Job} {event : Event}
    (keeps : desk.Keeps questionId matter) (ends : matter.standing = .ends job event)
    (type : job.jobType = questionJobType) (later : (desk.occur occurrence).Keeps questionId after)
    (closed : after.standing = .closed job) : desk.deedOf occurrence = announcement job := by
  have placed := keeps.placed
  rw [ends] at placed
  obtain ⟨worker, does⟩ := placed
  have announces : desk.announcementOf worker = announcement job := by
    unfold announcementOf
    rw [staffed.telling?_eq does]
    exact if_pos type
  by_cases told : occurrence = .act (.tell worker)
  · rw [told]
    exact announces
  · by_cases cut : occurrence = .act (.cut (.worker worker))
    · have free : desk.run? (.worker worker) = none :=
        run?_worker_none fun _ _ _ handles => nomatch (does.unique handles).2
      rw [cut]
      simp only [deedOf, free, Option.isSome_none, Bool.false_eq_true, if_false]
      exact announces
    · have free := later.placed
      rw [closed] at free
      exact absurd ⟨_, telling_occur staffed.sound does told cut, rfl⟩ (free worker)

/-! ## The job of a question goes on -/

section Developing

variable {desk : Desk} {occurrence : Occurrence} {questionId : String} {matter after : Matter}
  {job : Job}

/-- The job of a question never goes back. -/
theorem Development.stage (development : Development desk occurrence questionId matter after)
    (fits : Fits matter.standing matter.ledger) {stage : Nat}
    (before : ∃ job, matter.standing.job? = some job ∧ stage ≤ job.status.stage) :
    ∃ job, after.standing.job? = some job ∧ stage ≤ job.status.stage := by
  obtain ⟨job, stands, reached⟩ := before
  cases development with
  | rests | counted | recorded | unrecorded | remembered | told | dismissed =>
    exact ⟨job, stands, reached⟩
  | begun | posed | unposed => cases stands
  | taken =>
    cases stands
    cases fits with
    | waits pending =>
      rw [pending] at reached
      exact ⟨_, rfl, Nat.le_trans reached (Nat.zero_le _)⟩
  | wentOn | cutOff =>
    cases stands
    exact ⟨_, rfl, by rw [Job.status_noteAll]; exact reached⟩
  | @ended _ _ _ _ _ _ _ outcome notes =>
    cases stands
    cases fits with
    | handled processing =>
      rw [processing] at reached
      have terminal := Board.isTerminal_ended (job.noteAll notes) desk.now outcome
      refine ⟨_, rfl, Nat.le_trans reached ?_⟩
      rcases Job.isTerminal_iff.mp terminal with status | status <;> rw [status] <;> decide

/-- A job that has ended and of which nobody is about to tell was so before, or its listener was
about to be told. -/
theorem Development.closing (development : Development desk occurrence questionId matter after)
    (fits : Fits matter.standing matter.ledger) (closed : after.standing = .closed job)
    (terminal : job.isTerminal = true) :
    matter.standing = .closed job ∨ ∃ event, matter.standing = .ends job event := by
  cases development with
  | rests | counted | recorded | unrecorded | remembered => exact Or.inl closed
  | begun | posed | unposed | taken | wentOn | ended => cases closed
  | @cutOff visit mine ledger run =>
    cases closed
    cases fits with
    | handled processing =>
      have status := (Job.status_noteAll mine (run.cutOff desk.now)).trans processing
      exact absurd (Job.isTerminal_of_processing status) (by simp [terminal])
  | told | dismissed =>
    cases closed
    exact Or.inr ⟨_, rfl⟩

end Developing

/-- The last state of a job is told exactly when the job has ended. -/
theorem Tellable.isTerminal {job : Job} (tellable : Tellable job) {state : JobState}
    (told : JobState.ofJob job = .ok state) : state.isTerminal = job.isTerminal := by
  obtain ⟨same, tells, _, status⟩ := tellable.told
  cases told.symm.trans tells
  rw [Bool.eq_iff_iff, Job.isTerminal_iff, JobState.isTerminal, status]
  cases job.status <;> simp [Status.word]

/-! ## What subscribers are told -/

/-- A sink that is subscribed to the job of a question at one moment, and stays the registered one
up to another: it refuses nothing, none is set up in its place, and nobody gives it up. -/
structure Subscribed (desk : Desk) (occurrences : Nat → Occurrence) (questionId sink : String)
    (job : Job) (begun count : Nat) : Prop where
  /-- The sink is subscribed. -/
  asks : occurrences begun = .act (.subscribe questionId sink)
  /-- The question has a job. -/
  found : (desk.course occurrences begun).job? questionId = some job
  /-- The one moment is before the other. -/
  before : begun < count
  /-- The sink refuses nothing. -/
  takes : ∀ moment, begun ≤ moment → moment < count → ∀ state,
    .refused job.id sink state ∉ (desk.watch occurrences).touches moment
  /-- No sink is set up in its place. -/
  alone : ∀ moment, begun < moment → moment < count → ∀ other state,
    (desk.watch occurrences).deeds moment ≠ .setup job.id other state
  /-- Nobody gives it up. -/
  kept : ∀ moment, begun < moment → moment < count →
    (desk.watch occurrences).deeds moment ≠ .closeIfCurrent job.id sink

/-- How a sink that was subscribed to a job is informed up to a moment. -/
structure Informed (desk : Desk) (occurrences : Nat → Occurrence) (subscription : Registration)
    (job : Job) (count : Nat) : Prop where
  /-- The first that it is told is the state of the job. -/
  first : ∃ state, JobState.ofJob job = .ok state ∧ ∀ other,
    .told subscription.key subscription.sink other ∈
      (desk.watch occurrences).touches subscription.begun ↔ other = state
  /-- The statuses that it is told never go back. -/
  onward : ∀ earlier later former latter, subscription.begun ≤ earlier → earlier ≤ later →
    later < count →
    .told subscription.key subscription.sink former ∈ (desk.watch occurrences).touches earlier →
    .told subscription.key subscription.sink latter ∈ (desk.watch occurrences).touches later →
      ∃ before after : Status, former.status = before.word ∧ latter.status = after.word ∧
        before.stage ≤ after.stage
  /-- When the job has ended, before or after the sink was subscribed, and nobody is about to tell
  its listener, the last that the sink was told is how the job has ended. -/
  last : ∀ past seq ended, past ≤ count →
    (desk.course occurrences past).board.job? questionJobType seq = some ended →
    ended.id = job.id → ended.isTerminal = true →
    (∀ worker listener, (desk.course occurrences count).board.telling? worker ≠
      some (listener, ended)) →
    ∃ state moment, JobState.ofJob ended = .ok state ∧ state.isTerminal = true ∧
      subscription.begun ≤ moment ∧ moment < count ∧
      .told subscription.key subscription.sink state ∈ (desk.watch occurrences).touches moment ∧
      ∀ later other, moment ≤ later → later < count →
        .told subscription.key subscription.sink other ∈
          (desk.watch occurrences).touches later → other = state
  /-- It is not closed earlier than some time after it was told the last state for the last time,
  and at that very time if no timer is late. -/
  patient : ∀ moment, subscription.begun ≤ moment → moment < count →
    .closed subscription.key subscription.sink ∈ (desk.watch occurrences).touches moment →
    ∃ told, (desk.watch occurrences).LastTold subscription moment told ∧
      (desk.course occurrences told).now + desk.relay.closeDelay ≤
        (desk.course occurrences moment).now ∧
      ((∀ timer ∈ (desk.course occurrences moment).relay.timers,
        (desk.course occurrences moment).now ≤ timer.due) →
          (desk.course occurrences moment).now =
            (desk.course occurrences told).now + desk.relay.closeDelay)
  /-- It is closed once that time is over and no timer is due. -/
  prompt : ∀ told, (desk.watch occurrences).LastTold subscription count told →
    (desk.course occurrences told).now + desk.relay.closeDelay ≤
      (desk.course occurrences count).now →
    (∀ timer ∈ (desk.course occurrences count).relay.timers,
      (desk.course occurrences count).now < timer.due) →
    ∃ moment, told < moment ∧ moment < count ∧
      .closed subscription.key subscription.sink ∈ (desk.watch occurrences).touches moment

section Subscriptions

variable {settings : Settings} {desk : Desk} (started : start settings = .ok desk)
  {occurrences : Nat → Occurrence} (service : ∀ moment, (occurrences moment).isService = true)
  {questionId : String} {matters : Nat → Matter}
  (story : desk.Story occurrences questionId matters)

include started in
/-- What is done to the sinks in a course. -/
theorem touches_watch (moment : Nat) : (desk.watch occurrences).touches moment =
    (desk.course occurrences moment).station.touches
      ((desk.course occurrences moment).deedOf (occurrences moment)) := by
  rw [Watch.touches, station_watch started]
  rfl

include started in
/-- The time in a course. -/
theorem now_watch (moment : Nat) : ((desk.watch occurrences).station moment).now =
    (desk.course occurrences moment).now := by
  rw [station_watch started]
  rfl

include started in
/-- The timers that are set in a course. -/
theorem timers_watch (moment : Nat) : ((desk.watch occurrences).station moment).relay.timers =
    (desk.course occurrences moment).relay.timers := by
  rw [station_watch started]
  rfl

include started service in
/-- Whatever is told is the state of a job. -/
theorem told_concerns {moment : Nat} {key sink : String} {state : JobState}
    (told : .told key sink state ∈ (desk.watch occurrences).touches moment) :
    ∃ job, Concerns (desk.course occurrences moment).board job ∧ job.id = key ∧
      JobState.ofJob job = .ok state := by
  have accounted := accounted_course started service moment
  rw [touches_watch started] at told
  have asked := (desk.course occurrences moment).asked_deedOf (occurrences moment)
  rcases Station.deed_of_told told with setup | send
  · rw [setup] at asked
    cases asked with
    | @subscribed _ _ job _ _ found tells =>
      exact ⟨job, Or.inl (accounted.of_job? found).1, rfl, tells⟩
  · rw [send] at asked
    cases asked with
    | @announced _ _ job _ telling tells =>
      obtain ⟨event, _, _, does, _⟩ := accounted.of_telling telling
      exact ⟨job, Or.inr ⟨_, event, 0, does⟩, rfl, tells⟩

include started service story

/-- What is told about the job of a question is its state. -/
theorem Story.told_state {moment : Nat} {sink : String} {state : JobState}
    (told : .told (Jobs.jobKey questionJobType questionId) sink state ∈
      (desk.watch occurrences).touches moment) :
    ∃ job, (matters moment).standing.job? = some job ∧ JobState.ofJob job = .ok state := by
  obtain ⟨job, concerns, key, tells⟩ := told_concerns started service told
  have own := Jobs.jobKey_inj
    (((accounted_course started service moment).known concerns).id.symm.trans key)
  exact ⟨job, (story.keeps moment).only job concerns own, tells⟩

omit started service in
/-- The job of a question never goes back. -/
theorem Story.stage {earlier later : Nat} (order : earlier ≤ later) {job : Job}
    (stands : (matters earlier).standing.job? = some job) :
    ∃ after, (matters later).standing.job? = some after ∧ job.status.stage ≤ after.status.stage :=
  @Story.later _ _ _ _ story
    (fun matter => ∃ after, matter.standing.job? = some after ∧
      job.status.stage ≤ after.status.stage)
    (fun development proper now => development.stage proper.fits now) _ _ order
    ⟨job, stands, Nat.le_refl _⟩

variable {sink : String} {job : Job} {begun count : Nat}
  (subscribed : desk.Subscribed occurrences questionId sink job begun count)
include subscribed

/-- The job to which a sink is subscribed is that of the question. -/
theorem Subscribed.stands : (matters begun).standing.job? = some job ∧
    job.id = Jobs.jobKey questionJobType questionId := by
  obtain ⟨found, own⟩ := (accounted_course started service begun).of_job? subscribed.found
  have stands := story.of_found found own
  exact ⟨stands, ((story.proper begun).known job stands).id⟩

/-- A sink that is subscribed to a job is set up for it with the state of the job. -/
theorem Subscribed.sets : ∃ state, JobState.ofJob job = .ok state ∧
    (desk.watch occurrences).deeds begun = .setup job.id sink state := by
  obtain ⟨stands, _⟩ := subscribed.stands started service story
  obtain ⟨state, told, _⟩ := (story.tellable started service begun job stands).told
  refine ⟨state, told, ?_⟩
  simp only [watch, subscribed.asks, deedOf, subscription, subscribed.found, told]

/-- The registration of a subscriber begins. -/
theorem Subscribed.begins : (desk.watch occurrences).Begins ⟨job.id, sink, begun⟩ := by
  obtain ⟨state, _, sets⟩ := subscribed.sets started service story
  exact ⟨state, sets⟩

/-- The first that a subscriber is told is the state of the job. -/
theorem Subscribed.first : ∃ state, JobState.ofJob job = .ok state ∧
    (desk.watch occurrences).touches begun = [.told job.id sink state] := by
  obtain ⟨state, told, sets⟩ := subscribed.sets started service story
  exact ⟨state, told, Watch.touches_of_setup sets
    (subscribed.takes begun (Nat.le_refl _) subscribed.before state)⟩

omit started service story in
/-- The registration of a subscriber that stays ends with its timer, if it ends. -/
theorem Subscribed.way {moment : Nat} {way : Push.Way} (before : moment < count)
    (ends : (desk.watch occurrences).Ends ⟨job.id, sink, begun⟩ moment way) : way = .expired := by
  cases ends with
  | closed lasts asked =>
    rcases asked with close | current
    · have asked := (desk.course occurrences moment).asked_deedOf (occurrences moment)
      rw [show (desk.course occurrences moment).deedOf (occurrences moment) = _ from close] at asked
      cases asked
    · exact absurd current (subscribed.kept moment lasts.begun before)
  | refused told refuses =>
    obtain ⟨state, refuses⟩ := refuses
    have since : begun ≤ moment := told.elim Nat.le_of_eq fun later => Nat.le_of_lt later.1.begun
    exact absurd refuses (subscribed.takes moment since before state)
  | expired => rfl
  | replaced lasts replaces =>
    exact absurd replaces (subscribed.alone moment lasts.begun before _ _)

/-- The registration of a subscriber that stays lasts, or its timer has fired. -/
theorem Subscribed.lasts_or {moment : Nat} (since : begun < moment) (within : moment ≤ count) :
    (desk.watch occurrences).Lasts ⟨job.id, sink, begun⟩ moment ∨ ∃ expiry < moment,
      (desk.watch occurrences).Ends ⟨job.id, sink, begun⟩ expiry .expired := by
  by_cases lasts : (desk.watch occurrences).Lasts ⟨job.id, sink, begun⟩ moment
  · exact Or.inl lasts
  · obtain ⟨expiry, before, way, ends⟩ :=
      (subscribed.begins started service story).ended since lasts
    obtain rfl := subscribed.way (by omega) ends
    exact Or.inr ⟨expiry, before, ends⟩

/-- A subscriber is told nothing, and not closed, once its timer has fired. -/
theorem Subscribed.untouched {expiry moment : Nat}
    (ends : (desk.watch occurrences).Ends ⟨job.id, sink, begun⟩ expiry .expired)
    (after : expiry < moment) (before : moment < count) {touch : Touch}
    (touches : touch ∈ (desk.watch occurrences).touches moment) (key : touch.key = job.id) :
    touch.sink ≠ sink := by
  intro same
  have begins := subscribed.begins started service story
  obtain ⟨anew, since, until_, state, sets⟩ := ends.untouched begins after touches key same
  have begun : begun < expiry := (ends.begun.resolve_left (nomatch ·.2)).begun
  exact subscribed.alone anew (Nat.lt_trans begun since) (Nat.lt_of_le_of_lt until_ before) _ _ sets

/-- Once the job of a subscriber has ended and nobody is about to tell its listener, the subscriber
was told the last state of a job. -/
theorem Subscribed.tellsLast {moment : Nat} {ended : Job} (since : begun < moment)
    (within : moment ≤ count) (closed : (matters moment).standing = .closed ended)
    (terminal : ended.isTerminal = true) : ∃ told, begun ≤ told ∧ told < moment ∧
      (desk.watch occurrences).TellsLast ⟨job.id, sink, begun⟩ told := by
  obtain ⟨gap, rfl⟩ := Nat.exists_eq_add_of_lt since
  induction gap with
  | zero =>
    -- The job had ended when the sink was subscribed, which is told so first.
    obtain ⟨stands, _⟩ := subscribed.stands started service story
    obtain ⟨state, told, touches⟩ := subscribed.first started service story
    have same : job = ended := by
      rcases (story.develops begun).closing (story.proper begun).fits closed terminal with
        before | ⟨event, before⟩ <;>
      · rw [before] at stands
        exact (Option.some.inj stands).symm
    have last := (story.tellable started service begun job stands).isTerminal told
    refine ⟨begun, Nat.le_refl _, Nat.lt_succ_self _, state, ?_, ?_⟩
    · rw [last, same, terminal]
    · rw [touches]
      exact List.mem_singleton_self _
  | succ gap ih =>
    have here : begun < begun + gap + 1 := by omega
    rcases (story.develops (begun + gap + 1)).closing (story.proper _).fits closed terminal with
      before | ⟨event, before⟩
    · obtain ⟨told, from_, earlier, tells⟩ := ih here (by omega) before
      exact ⟨told, from_, Nat.lt_succ_of_lt earlier, tells⟩
    -- The listener has just been told, or cut off, and the job has been announced.
    rcases subscribed.lasts_or started service story here (by omega) with lasts | ⟨expiry, _, ends⟩
    · have stands : (matters (begun + gap + 1)).standing.job? = some ended := by rw [before]; rfl
      have known := (story.proper _).known ended stands
      obtain ⟨_, key⟩ := subscribed.stands started service story
      obtain ⟨state, told, _⟩ := (story.tellable started service _ ended stands).told
      have sends : (desk.watch occurrences).deeds (begun + gap + 1) = .send job.id state := by
        refine ((accounted_course started service _).toStaffed.deedOf_of_closed (story.keeps _)
          before known.type (story.keeps (begun + gap + 1 + 1)) closed).trans ?_
        rw [announcement, told, key, known.id]
      have touches := Watch.touches_of_send sends (lasts.current _ here (Nat.le_refl _))
        (subscribed.takes _ (by omega) (by omega) state)
      have last := (story.tellable started service _ ended stands).isTerminal told
      refine ⟨begun + gap + 1, by omega, Nat.lt_succ_self _, state, last.trans terminal, ?_⟩
      rw [touches]
      exact List.mem_singleton_self _
    · obtain ⟨told, last, _⟩ := ends.expired_due (subscribed.begins started service story)
      exact ⟨told, last.since, by have := last.before; omega, last.tells⟩

/-- A subscriber that was told the last state of its job was told how it has ended, and is told
nothing else afterwards. -/
theorem Subscribed.told_ended {told : Nat} {ended : Job} (before : told < count)
    (tells : (desk.watch occurrences).TellsLast ⟨job.id, sink, begun⟩ told)
    (closed : (matters count).standing = .closed ended) :
    ∃ state, JobState.ofJob ended = .ok state ∧ state.isTerminal = true ∧
      .told job.id sink state ∈ (desk.watch occurrences).touches told ∧
      ∀ later other, told ≤ later → later < count →
        .told job.id sink other ∈ (desk.watch occurrences).touches later → other = state := by
  obtain ⟨_, key⟩ := subscribed.stands started service story
  obtain ⟨state, last, touches⟩ := tells
  obtain ⟨mine, stands, same⟩ := story.told_state started service (key ▸ touches)
  have terminal : mine.isTerminal = true :=
    ((story.tellable started service told mine stands).isTerminal same).symm.trans last
  have stays : ∀ later, told ≤ later →
      (∃ event, (matters later).standing = .ends mine event) ∨
        (matters later).standing = .closed mine :=
    fun later after => story.later (fun development _ now => development.ended_stays now) after
      ((story.proper told).standing_of_terminal stands terminal)
  obtain rfl : mine = ended := by
    rcases stays count (Nat.le_of_lt before) with ⟨event, still⟩ | still
    · cases closed.symm.trans still
    · cases closed.symm.trans still
      rfl
  refine ⟨state, same, last, touches, fun later other after within touched => ?_⟩
  obtain ⟨found, here, tells⟩ := story.told_state started service (key ▸ touched)
  have one : found = mine := by
    rcases stays later after with ⟨event, still⟩ | still <;>
    · rw [still] at here
      exact (Option.some.inj here).symm
  rw [one, same] at tells
  exact (Except.ok.inj tells).symm

/-- A subscriber that is closed was told the last state of its job, and its timer fires. -/
theorem Subscribed.expired {moment : Nat} (since : begun ≤ moment) (before : moment < count)
    (closed : .closed job.id sink ∈ (desk.watch occurrences).touches moment) :
    (desk.watch occurrences).Ends ⟨job.id, sink, begun⟩ moment .expired := by
  have begins := subscribed.begins started service story
  rcases subscribed.lasts_or started service story (Nat.lt_succ_of_le since) before with
    lasts | ⟨expiry, within, ends⟩
  · have once := List.count_pos_iff.mpr
      (Watch.mem_touchesBetween closed since (Nat.lt_succ_self _))
    rw [lasts.count_closed begins] at once
    exact absurd once (Nat.lt_irrefl _)
  · rcases Nat.lt_or_eq_of_le (Nat.le_of_lt_succ within) with earlier | rfl
    · exact absurd rfl (subscribed.untouched started service story ends earlier before closed rfl)
    · exact ends

end Subscriptions

/-- A sink that is subscribed to the job of a question, and stays the registered one, is told the
state of the job first, and never that the job has gone back. Once the job has ended and nobody is
about to tell its listener, the last that the sink was told is how the job has ended, whenever it
was subscribed. It is closed some time after it was told so for the last time, and not before. -/
theorem subscriber_informed {settings : Settings} {desk : Desk}
    (started : start settings = .ok desk) {occurrences : Nat → Occurrence}
    (service : ∀ moment, (occurrences moment).isService = true) {questionId sink : String}
    {job : Job} {begun count : Nat}
    (subscribed : desk.Subscribed occurrences questionId sink job begun count) :
    desk.Informed occurrences ⟨job.id, sink, begun⟩ job count := by
  obtain ⟨matters, story⟩ := exists_story started service questionId
  obtain ⟨stands, key⟩ := subscribed.stands started service story
  have begins := subscribed.begins started service story
  refine
    { first := ?first, onward := ?onward, last := ?last, patient := ?patient, prompt := ?prompt }
  case first =>
    obtain ⟨state, told, touches⟩ := subscribed.first started service story
    exact ⟨state, told, fun other => by simp [touches]⟩
  case onward =>
    intro earlier later former latter _ order _ first second
    obtain ⟨one, here, told⟩ := story.told_state started service (key ▸ first)
    obtain ⟨two, there, tells⟩ := story.told_state started service (key ▸ second)
    obtain ⟨same, after, order⟩ := story.stage order here
    cases there.symm.trans after
    obtain ⟨_, tellsOne, _, before⟩ := (story.tellable started service _ one here).told
    obtain ⟨_, tellsTwo, _, status⟩ := (story.tellable started service _ two there).told
    cases told.symm.trans tellsOne
    cases tells.symm.trans tellsTwo
    exact ⟨one.status, two.status, before, status, order⟩
  case last =>
    intro past seq ended within found own terminal told
    have accounted := accounted_course started service past
    obtain ⟨_, rfl⟩ := Jobs.Lane.mem_of_job? found
    have mine : ended.fingerprint = questionId :=
      Jobs.jobKey_inj ((accounted.known (Or.inl found)).id.symm.trans (own.trans key))
    have closed := story.closed (accounted_course started service count).toStaffed within found
      mine terminal told
    obtain ⟨moment, since, before, tells⟩ := subscribed.tellsLast started service story
      subscribed.before (Nat.le_refl _) closed terminal
    obtain ⟨state, same, last, touches, only⟩ :=
      subscribed.told_ended started service story before tells closed
    exact ⟨state, moment, same, last, since, before, touches, only⟩
  case patient =>
    intro moment since before closed
    have ends := subscribed.expired started service story since before closed
    obtain ⟨told, last, set, ripe⟩ := ends.expired_due begins
    rw [now_watch started, now_watch started] at ripe
    rw [timers_watch started, now_watch started] at set
    exact ⟨told, last, ripe, fun early => Int.le_antisymm (early _ set) ripe⟩
  case prompt =>
    intro told last late quiet
    rcases subscribed.lasts_or started service story subscribed.before (Nat.le_refl _) with
      lasts | ⟨moment, before, ends⟩
    · have set := last.timer begins lasts
      rw [timers_watch started, now_watch started] at set
      exact absurd late (Int.not_le.mpr (quiet _ set))
    · refine ⟨moment, ?_, before, ends.closes⟩
      rcases Nat.lt_trichotomy told moment with sooner | rfl | later
      · exact sooner
      · exact absurd last.tells ends.untold
      · obtain ⟨state, _, touches⟩ := last.tells
        exact absurd rfl
          (subscribed.untouched started service story ends later last.before touches rfl)

/-! ## One subscriber -/

/-- A service that closes a sink a second after it was told the last state of its job. -/
def lingeringService : Settings :=
  { smallService with closeDelaySeconds := Decimal.Double.ofQuotient false 1 1 }

/-- Somebody asks and subscribes, the answer is given and told, a second goes by, and the timer of
the sink fires. -/
def farewell : List Occurrence := subscribed [] ++ [.act (.pass 1000000), .act .fire]

/-- Whether no sink refuses what it is told while something occurs. -/
def refusesNothing (desk : Desk) (occurrence : Occurrence) : Bool :=
  (desk.station.touches (desk.deedOf occurrence)).all fun touch => !(touch matches .refused _ _ _)

/-- Whether no sink is set up or given up while something occurs. -/
def changesNobody (desk : Desk) (occurrence : Occurrence) : Bool :=
  !(desk.deedOf occurrence matches .setup _ _ _ | .closeIfCurrent _ _)

/-- A subscriber that stays is told that its job is pending, then that it has completed, and is
closed a second later. -/
theorem subscriber_informed_farewell : ∃ (desk : Desk) (job : Job),
    start lingeringService = .ok desk ∧ (∀ moment, (script farewell moment).isService = true) ∧
    desk.Subscribed (script farewell) "q1" "client" job 7 20 ∧
    desk.Informed (script farewell) ⟨job.id, "client", 7⟩ job 20 ∧
    (desk.course (script farewell) 8).lastStatus? "client" = some (.text "pending") ∧
    (desk.course (script farewell) 18).lastStatus? "client" = some (.text "completed") ∧
    (desk.watch (script farewell)).touches 18 = [] ∧
    (desk.watch (script farewell)).touches 19 = [.closed job.id "client"] := by
  obtain ⟨desk, started, passes⟩ := @exists_start lingeringService (fun desk =>
    let course := desk.course (script farewell)
    (((course 7).job? "q1").any fun job => (course 19).station.touches
      ((course 19).deedOf (script farewell 19)) = [.closed job.id "client"]) &&
    runsWith refusesNothing desk (script farewell) 20 &&
    (List.range' 8 12).all (fun moment => (course moment).changesNobody (script farewell moment)) &&
    (course 8).lastStatus? "client" = some (.text "pending") &&
    (course 18).lastStatus? "client" = some (.text "completed"))
    (by decide +kernel)
  simp only [Bool.and_eq_true, decide_eq_true_eq] at passes
  obtain ⟨⟨⟨⟨found, takes⟩, stays⟩, pending⟩, completed⟩ := passes
  obtain ⟨job, found, closes⟩ := (Option.any_eq_true _ _).mp found
  have service := @isService_script farewell rfl
  have quiet : ∀ moment, 7 < moment → moment < 20 →
      (desk.course (script farewell) moment).changesNobody (script farewell moment) = true :=
    fun moment after before =>
      List.all_eq_true.mp stays moment (List.mem_range'_1.mpr ⟨after, before⟩)
  have subscribed : desk.Subscribed (script farewell) "q1" "client" job 7 20 := by
    refine ⟨rfl, found, by decide, fun moment _ before state refused => ?_,
      fun moment after before other state sets => ?_, fun moment after before gives => ?_⟩
    · rw [touches_watch started] at refused
      cases List.all_eq_true.mp (passes_of_runs takes moment before) _ refused
    · have kept := quiet moment after before
      rw [changesNobody, show (desk.course (script farewell) moment).deedOf _ = _ from sets] at kept
      cases kept
    · have kept := quiet moment after before
      rw [changesNobody, show (desk.course (script farewell) moment).deedOf _ = _ from gives]
        at kept
      cases kept
  exact ⟨desk, job, started, service, subscribed,
    subscriber_informed started service subscribed, pending, completed, touches_watch started 18,
    (touches_watch started 19).trans (by simpa using closes)⟩

end QuestionDesk.Desk
