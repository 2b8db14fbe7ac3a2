import QuestionDesk.Proofs.Desk.Listeners
import QuestionDesk.Proofs.Jobs.Search

/-!
# Courses

A course is what becomes of a desk that has just been set up while one thing occurs after another.
Whatever has failed on the way, the desk is accounted for at every moment, and the matter of every
question has come about by developments, one for each occurrence.
-/
namespace QuestionDesk.Desk

open Jobs (Activity Board Event Job)
open Pipeline (Run Runner)

/-! ## Everything that can occur -/

section Occurrences

variable {desk : Desk}

/-- A worker that is not busy and goes for good makes no difference to any question. -/
theorem Staffed.turned_idle (staffed : desk.Staffed) {worker : Nat} {after : Desk}
    {relay : Push.Relay} (free : ∀ activity seq, activity.seq? = some seq →
      ¬desk.board.Does worker questionJobType activity)
    (went : after = { desk with relay, board := desk.board.kill worker }) :
    desk.Turned (.act (.cut (.worker worker))) after := by
  have board : after.board = desk.board.kill worker := by rw [went]
  have calm : Calm desk.board after.board := by
    refine ⟨by rw [board]; exact Board.created_kill _ _, fun seq => Or.inl ?_,
      fun index activity seq busy => ?_⟩
    · rw [board, Board.job?, Jobs.Lane.job?, (Board.lane_kill _ _ _).1]
      rfl
    · rw [board, Board.Does, Board.workers_kill]
      split
      · next here =>
        subst here
        constructor
        · intro does
          obtain ⟨who, _, gone⟩ := Option.map_eq_some_iff.mp does
          rw [← show Activity.gone = activity from congrArg Jobs.Worker.activity gone] at busy
          cases busy
        · exact fun does => absurd does (free activity seq busy)
      · rfl
  have types : ∀ index jobType activity, after.board.Does index jobType activity →
      ∃ before, desk.board.Does index jobType before := by
    intro index jobType activity does
    rw [board, Board.Does, Board.workers_kill] at does
    split at does
    · obtain ⟨⟨_, before⟩, found, gone⟩ := Option.map_eq_some_iff.mp does
      cases gone
      exact ⟨before, found⟩
    · exact ⟨activity, does⟩
  have cited : ∀ {id}, after.Cited id → desk.Cited id := by
    intro id cites
    refine cites.congr (fun _ => by rw [went]) fun runner run running => Or.inl ?_
    cases runner with
    | hand number =>
      rw [went] at running
      exact running
    | worker index =>
      obtain ⟨jobType, seq, does⟩ := run?_worker.mp running
      obtain ⟨before, found⟩ := types _ _ _ does
      obtain rfl := staffed.staffed _ _ _ found
      exact run?_worker.mpr ⟨questionJobType, seq, (calm.busy _ _ _ rfl).mp does⟩
  refine ⟨⟨?_, fun event => ?_, fun index jobType activity does => ?_, ?_⟩,
    fun questionId matter keeps proper => ⟨matter, .rests, keeps.calm proper
      (fun _ _ => by rw [went]) calm (by rw [went]; rfl) cited⟩⟩
  · rw [board]
    exact staffed.sound.kill worker
  · have listeners : (desk.board.kill worker).listeners = desk.board.listeners := by
      unfold Board.kill
      split <;> rfl
    rw [board, Board.audience, listeners]
    exact staffed.heard event
  · obtain ⟨before, found⟩ := types _ _ _ does
    exact staffed.staffed _ _ _ found
  · rw [went]
    exact staffed.handless

/-- Whoever is cut off, the matters of all questions develop. -/
theorem Accounted.turned_cut (accounted : desk.Accounted) (runner : Runner) :
    desk.Turned (.act (.cut runner)) (desk.cut runner) := by
  cases running : desk.run? runner with
  | some run =>
    cases runner with
    | worker index => exact accounted.turned_cutOff running
    | hand number =>
      obtain ⟨notes, found⟩ := run?_hand.mp running
      rw [accounted.handless] at found
      cases found
  | none =>
    rcases cut_of_none running with same | ⟨index, relay, rfl, gone⟩
    · rw [same]
      exact .of_eq accounted.toStaffed rfl rfl rfl rfl rfl
    · by_cases telling : ∃ job event told,
          desk.board.Does index questionJobType (.notifying job event told)
      · obtain ⟨job, event, told, does⟩ := telling
        obtain ⟨matter, keeps, proper⟩ := accounted.matters job.fingerprint
        obtain ⟨_, rfl⟩ := keeps.of_notifying proper accounted.sound does rfl
        exact accounted.toStaffed.turned_dismissed does gone
      · refine accounted.toStaffed.turned_idle (fun activity seq busy does => ?_) gone
        cases activity with
        | idle | gone => cases busy
        | handling number run =>
          rw [run?_worker.mpr ⟨_, _, does⟩] at running
          cases running
        | notifying job event told => exact telling ⟨job, event, told, does⟩

/-- Jobs that are removed from the board make no difference to any question. -/
theorem Staffed.turned_clean (staffed : desk.Staffed) (olderThan : Option Micros) :
    desk.Turned (.act (.clean olderThan)) (desk.act (.clean olderThan)) := by
  have sheds := Board.sheds_clean staffed.sound desk.now olderThan
  refine ⟨staffed.congr sheds.sound sheds.listeners sheds.workers rfl,
    fun questionId matter keeps proper => ⟨matter, .rests, keeps.calm proper (fun _ _ => Iff.rfl)
      (calm_of_sheds sheds) rfl fun cites => ?_⟩⟩
  refine cites.congr (fun _ => rfl) fun runner run running => Or.inl ?_
  exact (run?_congr runner (fun index => congrArg (·[index]?) sheds.workers) rfl).symm.trans running

/-- Whatever occurs at a desk that is accounted for, the matters of all questions develop. -/
theorem Accounted.turned (accounted : desk.Accounted) {occurrence : Occurrence}
    (service : occurrence.isService = true) : desk.Turned occurrence (desk.occur occurrence) := by
  have staffed := accounted.toStaffed
  cases occurrence with
  | bring name sink => exact .of_eq staffed rfl rfl rfl rfl rfl
  | act action =>
    cases action with
    | handle jobId payload => cases service
    | visit number => exact staffed.turned_visit number
    | take worker => exact staffed.turned_take worker
    | work runner response => exact accounted.turned_work runner response
    | tell worker => exact accounted.turned_tell worker
    | cut runner => exact accounted.turned_cut runner
    | clean olderThan => exact staffed.turned_clean olderThan
    | come prompt source =>
      refine .of_same staffed rfl (fun number visit questionId => ?_) rfl (fun _ => rfl)
        fun _ => rfl
      simp only [occur, act, List.getElem?_append]
      split
      · rfl
      · next beyond =>
        rw [List.getElem?_eq_none (Nat.le_of_not_lt beyond)]
        constructor
        · rintro ⟨found, own⟩
          cases List.mem_singleton.mp (List.mem_of_getElem? found)
          cases own
        · rintro ⟨⟨⟩, _⟩
    | subscribe questionId sink =>
      obtain ⟨relay, went⟩ := desk.subscribe_eq questionId sink
      simp only [occur, act, went]
      exact .of_eq staffed rfl rfl rfl rfl rfl
    | promote =>
      simp only [occur, act, promote]
      split
      · exact .of_same staffed rfl (fun _ _ _ => Iff.rfl) rfl
          (fun id => Database.ledger_promote desk.database desk.now _ _ id) fun _ => rfl
      · exact .of_eq staffed rfl rfl rfl rfl rfl
    | _ => exact .of_eq staffed rfl rfl rfl rfl rfl

/-- No key is taken back. -/
theorem named_occur (desk : Desk) (occurrence : Occurrence) :
    desk.named ≤ (desk.occur occurrence).named := by
  have same := Nat.le_refl desk.named
  cases occurrence with
  | bring name sink => exact same
  | act action =>
    simp only [occur]
    cases action with
    | visit number =>
      simp only [act]
      cases found : desk.visits[number]? with
      | none => exact Nat.le_of_eq (by rw [visit_of_none found])
      | some visit =>
        rw [visit_eq found]
        exact (visits_visitStep desk visit).2.2
    | work runner response =>
      obtain ⟨store, database, turns, board, hands, went⟩ := desk.work_eq runner response
      exact Nat.le_of_eq (by rw [act, went])
    | tell worker =>
      obtain ⟨board, database, relay, told, _⟩ := desk.tell_cases worker
      exact Nat.le_of_eq (by rw [act, told])
    | cut runner =>
      obtain ⟨turns, relay, board, hands, gone, _⟩ := desk.cut_cases runner
      exact Nat.le_of_eq (by rw [act, gone])
    | subscribe questionId sink =>
      obtain ⟨relay, went⟩ := desk.subscribe_eq questionId sink
      exact Nat.le_of_eq (by rw [act, went])
    | promote =>
      obtain ⟨database, promoter, went⟩ := desk.promote_eq
      exact Nat.le_of_eq (by rw [act, went])
    | _ => exact same

/-- Whatever occurs, a desk that is accounted for stays so. -/
theorem Accounted.occur (accounted : desk.Accounted) {occurrence : Occurrence}
    (service : occurrence.isService = true) : (desk.occur occurrence).Accounted := by
  have turned := accounted.turned service
  refine ⟨turned.staffed, fun questionId => ?_⟩
  obtain ⟨matter, keeps, proper⟩ := accounted.matters questionId
  obtain ⟨later, development, kept⟩ := turned.develops questionId matter keeps proper
  exact ⟨later, kept, development.proper proper (desk.named_occur occurrence)⟩

end Occurrences

/-! ## Jobs of questions -/

section Jobs

variable {desk : Desk}

/-- A job that a desk is concerned with is that of a question. -/
theorem Accounted.known (accounted : desk.Accounted) {job : Job}
    (concerns : Concerns desk.board job) : Known job.fingerprint job := by
  obtain ⟨matter, keeps, proper⟩ := accounted.matters job.fingerprint
  exact proper.known job (keeps.only job concerns rfl)

/-- The job that stands for a question is on the board, and has the key of the question. -/
theorem Accounted.of_job? (accounted : desk.Accounted) {questionId : String} {job : Job}
    (found : desk.job? questionId = some job) :
    desk.board.job? questionJobType job.seq = some job ∧ job.fingerprint = questionId := by
  obtain ⟨member, key, -⟩ := Jobs.Lane.find?_spec found
  exact ⟨accounted.sound.job?_of_mem member, (accounted.sound.id_eq_iff member).mp key⟩

/-- A job that is on the board is found for its question. -/
theorem Accounted.job?_of_found (accounted : desk.Accounted) {seq : Nat} {job : Job}
    (found : desk.board.job? questionJobType seq = some job) :
    desk.job? job.fingerprint = some job := by
  obtain ⟨matter, keeps, -⟩ := accounted.matters job.fingerprint
  obtain ⟨member, rfl⟩ := Jobs.Lane.mem_of_job? found
  refine accounted.sound.find?_eq_some.mpr ⟨member, rfl, fun other here same => ?_⟩
  have stands := keeps.only other (Or.inl (accounted.sound.job?_of_mem here)) same
  obtain rfl := Option.some.inj (stands.symm.trans (keeps.only job (Or.inl found) rfl))
  exact Or.inr ⟨rfl, Nat.le_refl _⟩

end Jobs

/-! ## From the beginning -/

section Beginning

variable {settings : Settings} {desk : Desk} (started : start settings = .ok desk)
include started

/-- A desk that has just been set up holds nothing about any question. -/
theorem keeps_start (questionId : String) : desk.Keeps questionId {} := by
  have idle := run?_start started
  obtain ⟨staffed, engaged, rfl⟩ := start_eq started
  obtain ⟨_, _, _, lanes, workers⟩ := Board.register_eq engaged
  have free : ∀ job, ¬Concerns ((staffed.subscribe .completed .completion).subscribe .failed
      .failure) job := by
    rintro job (found | ⟨index, event, told, does⟩)
    · change ((staffed.lane questionJobType).job? job.seq) = some job at found
      rw [lanes] at found
      cases found
    · have member := List.mem_of_getElem? does
      simp only [Board.subscribe, workers, List.nil_append] at member
      cases (List.mem_replicate.mp member).2
  refine ⟨fun number visit => ?_, trivial, fun job concerns => absurd concerns (free job),
    by rintro _ ⟨⟩, rfl, ?_⟩
  · constructor
    · rintro ⟨⟩
    · rintro ⟨found, _⟩
      simp at found
  · rintro (⟨hash, item, entry, found, _⟩ | ⟨runner, run, _, _, running, _⟩)
    · cases found
    · rw [idle] at running
      cases running

/-- A desk that has just been set up is accounted for. -/
theorem accounted_start : desk.Accounted := by
  have sound := sound_start started
  have keeps := keeps_start started
  obtain ⟨staffed, engaged, rfl⟩ := start_eq started
  obtain ⟨_, _, listeners, _, workers⟩ := Board.register_eq engaged
  refine ⟨⟨sound, fun event => ?_, fun index jobType activity does => ?_, rfl⟩, fun questionId =>
    ⟨{}, keeps questionId, Or.inr rfl, nofun, nofun, Nat.zero_le _, nofun, .absent rfl rfl⟩⟩
  · simp only [Board.audience, Board.subscribe, listeners, List.nil_append]
    cases event <;> rfl
  · have member := List.mem_of_getElem? does
    simp only [Board.subscribe, workers, List.nil_append] at member
    cases (List.mem_replicate.mp member).2
    rfl

variable {occurrences : Nat → Occurrence}
  (service : ∀ moment, (occurrences moment).isService = true)
include service

/-- A desk is accounted for at every moment of a course. -/
theorem accounted_course (count : Nat) : (desk.course occurrences count).Accounted := by
  induction count with
  | zero => exact accounted_start started
  | succ count before => exact before.occur (service count)

end Beginning

/-! ## The story of a question -/

/-- The matters of a question in a course, one after another. -/
structure Story (desk : Desk) (occurrences : Nat → Occurrence) (questionId : String)
    (matters : Nat → Matter) : Prop where
  /-- At first there is nothing about the question. -/
  first : matters 0 = {}
  /-- Each is what the desk holds about the question. -/
  keeps : ∀ count, (desk.course occurrences count).Keeps questionId (matters count)
  /-- Each is proper. -/
  proper : ∀ count, (matters count).Proper (desk.course occurrences count).named questionId
  /-- Each comes about from the one before. -/
  develops : ∀ count, Development (desk.course occurrences count) (occurrences count) questionId
    (matters count) (matters (count + 1))

/-- Every question has its story. -/
theorem exists_story {settings : Settings} {desk : Desk} (started : start settings = .ok desk)
    {occurrences : Nat → Occurrence}
    (service : ∀ moment, (occurrences moment).isService = true) (questionId : String) :
    ∃ matters, desk.Story occurrences questionId matters := by
  have step : ∀ count (matter : { matter : Matter //
      (desk.course occurrences count).Keeps questionId matter ∧
        matter.Proper (desk.course occurrences count).named questionId }),
      ∃ later : { matter : Matter //
        (desk.course occurrences (count + 1)).Keeps questionId matter ∧
          matter.Proper (desk.course occurrences (count + 1)).named questionId },
        Development (desk.course occurrences count) (occurrences count) questionId matter.1
          later.1 := by
    rintro count ⟨matter, keeps, proper⟩
    obtain ⟨later, development, kept⟩ :=
      ((accounted_course started service count).turned (service count)).develops _ _ keeps proper
    exact ⟨⟨later, kept, development.proper proper (named_occur _ _)⟩, development⟩
  let told : ∀ count, { matter : Matter //
      (desk.course occurrences count).Keeps questionId matter ∧
        matter.Proper (desk.course occurrences count).named questionId } := fun count =>
    count.rec ⟨{}, keeps_start started questionId, Or.inr rfl, nofun, nofun, Nat.zero_le _, nofun,
      .absent rfl rfl⟩ fun count matter => Classical.choose (step count matter)
  exact ⟨fun count => (told count).1, rfl, fun count => (told count).2.1,
    fun count => (told count).2.2, fun count => Classical.choose_spec (step count (told count))⟩

section Stories

variable {desk : Desk} {occurrences : Nat → Occurrence} {questionId : String}
  {matters : Nat → Matter}

/-- What every development of a question keeps holds at all later moments. -/
theorem Story.later (story : desk.Story occurrences questionId matters) {property : Matter → Prop}
    (kept : ∀ {here : Desk} {occurrence : Occurrence} {matter after : Matter},
      Development here occurrence questionId matter after → matter.Proper here.named questionId →
        property matter → property after)
    {count later : Nat} (after : count ≤ later) (now : property (matters count)) :
    property (matters later) := by
  obtain ⟨gap, rfl⟩ := Nat.exists_eq_add_of_le after
  induction gap with
  | zero => exact now
  | succ gap before =>
    exact kept (story.develops (count + gap)) (story.proper (count + gap))
      (before (Nat.le_add_right _ _))

/-- The job of a question that is on the board is the one of its matter. -/
theorem Story.of_found (story : desk.Story occurrences questionId matters) {count seq : Nat}
    {job : Job} (found : (desk.course occurrences count).board.job? questionJobType seq = some job)
    (own : job.fingerprint = questionId) : (matters count).standing.job? = some job := by
  obtain ⟨_, rfl⟩ := Jobs.Lane.mem_of_job? found
  exact (story.keeps count).only job (Or.inl found) own

end Stories

/-! ## Scripts -/

/-- A course in which given occurrences come first, and then time stands still. -/
def script (occurrences : List Occurrence) (moment : Nat) : Occurrence :=
  occurrences.getD moment (.act (.pass 0))

/-- A course of which no job is run by hand where none is in its script. -/
theorem isService_script {occurrences : List Occurrence}
    (all : occurrences.all Occurrence.isService = true) (moment : Nat) :
    (script occurrences moment).isService = true := by
  rw [script, List.getD_eq_getElem?_getD]
  cases found : occurrences[moment]? with
  | none => rfl
  | some occurrence => exact List.all_eq_true.mp all occurrence (List.mem_of_getElem? found)

/-- A service that can be set up and passes a check. -/
theorem exists_start {settings : Settings} {check : Desk → Bool}
    (passes : (start settings).toOption.any check = true) :
    ∃ desk, start settings = .ok desk ∧ check desk = true := by
  cases started : start settings with
  | error failure =>
    rw [started] at passes
    cases passes
  | ok desk =>
    rw [started] at passes
    exact ⟨desk, rfl, passes⟩

/-- The question that a visit is about to store. -/
def creating? (desk : Desk) (number : Nat) : Option (String × Option String × String) :=
  match desk.visits[number]? with
  | some ⟨prompt, source, .creating questionId⟩ => some (prompt, source, questionId)
  | _ => none

/-- A visit that is about to store a question is in that phase. -/
theorem visit_of_creating? {desk : Desk} {number : Nat} {prompt questionId : String}
    {source : Option String} (creates : desk.creating? number = some (prompt, source, questionId)) :
    desk.visits[number]? = some ⟨prompt, source, .creating questionId⟩ := by
  unfold creating? at creates
  split at creates
  · next found =>
    cases creates
    exact found
  · cases creates

/-- The ticket that a visit was given. -/
def ticket? (desk : Desk) (number : Nat) : Option Ticket :=
  match desk.visits[number]? with
  | some ⟨_, _, .ended (.ok ticket)⟩ => some ticket
  | _ => none

/-- A visit that was given a ticket has ended. -/
theorem visit_of_ticket? {desk : Desk} {number : Nat} {ticket : Ticket}
    (given : desk.ticket? number = some ticket) : ∃ visit, desk.visits[number]? = some visit ∧
      visit.phase = .ended (.ok ticket) := by
  unfold ticket? at given
  split at given
  · next found =>
    cases given
    exact ⟨_, found, rfl⟩
  · cases given

/-- Whether everything that occurs in the first moments of a course passes a check. -/
def runsWith (check : Desk → Occurrence → Bool) (desk : Desk) (occurrences : Nat → Occurrence)
    (count : Nat) : Bool :=
  (List.range count).all fun moment =>
    check (desk.course occurrences moment) (occurrences moment)

/-- What occurs in a course that passes a check passes it at every moment. -/
theorem passes_of_runs {check : Desk → Occurrence → Bool} {desk : Desk}
    {occurrences : Nat → Occurrence} {count : Nat}
    (runs : runsWith check desk occurrences count = true) (moment : Nat) (below : moment < count) :
    check (desk.course occurrences moment) (occurrences moment) = true :=
  List.all_eq_true.mp runs moment (List.mem_range.mpr below)

/-- Whether no worker has anything to do. -/
def isIdle (desk : Desk) : Bool :=
  desk.board.workers.all fun worker => worker.activity matches .idle

/-- Where no worker has anything to do, none is about to tell a listener. -/
theorem telling?_of_idle {desk : Desk} (idle : desk.isIdle = true) (worker : Nat) :
    desk.board.telling? worker = none := by
  unfold Board.telling?
  split
  · next jobType job event told found =>
    have free := List.all_eq_true.mp idle _ (List.mem_of_getElem? found)
    cases free
  · rfl

/-- Where no worker has anything to do, none has a run. -/
theorem run?_of_idle {desk : Desk} (idle : desk.isIdle = true) (worker : Nat) :
    desk.run? (.worker worker) = none := by
  refine Option.eq_none_iff_forall_ne_some.mpr fun run running => ?_
  obtain ⟨_, _, does⟩ := run?_worker.mp running
  cases List.all_eq_true.mp idle _ (List.mem_of_getElem? does)

/-- Somebody comes with a question, and the visit goes on until its question is stored, its job is
created and its prompt is remembered. -/
def asks (number : Nat) (prompt : String) : List Occurrence :=
  .act (.come prompt none) :: List.replicate 4 (.act (.visit number))

/-- A worker goes on with its run, and is given responses by the remote servers. -/
def served (worker : Nat) (responses : List String) : List Occurrence :=
  responses.map fun text => .act (.work (.worker worker) (.answer 200 text))

/-- The document of a plan that asks for the types of the events. -/
def typesPlan : String :=
  "\x7b\"plan\": \x7b\"main_query\": " ++
    "\x7b\"table\": \"events\", \"columns\": [\"type\"]\x7d\x7d\x7d"

/-- The document of one row. -/
def typesRows : String := "\x7b\"rows\": [\x7b\"type\": \"push\"\x7d]\x7d"

end QuestionDesk.Desk
