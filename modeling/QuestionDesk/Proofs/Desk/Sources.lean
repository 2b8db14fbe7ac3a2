import QuestionDesk.Proofs.Desk.Courses
import QuestionDesk.Proofs.Desk.Once

/-!
# Where answers come from

Whatever a job of the service returns, the executor gave it to some run: either to the run of the
job itself, or to an earlier one that remembered it under the same query. Beside it the job holds the
fingerprint of its query.
-/
namespace QuestionDesk.Desk

open Cache (QueryEntry)
open Jobs (Board Job)
open Pipeline (Phase Prepared Run Runner)
open Remote (Execution)

/-! ## What the executor gave -/

/-- The settings of a desk are the same all along a course. -/
theorem settings_course (desk : Desk) (occurrences : Nat → Occurrence) (count : Nat) :
    (desk.course occurrences count).settings = desk.settings := by
  induction count with
  | zero => rfl
  | succ count before =>
    refine Eq.trans ?_ before
    rw [course]
    cases occurrences count with
    | act action => exact settings_meet _ (.act action)
    | bring name sink => rfl

/-- Before a moment of a course, a run asked the executor and was given an execution. -/
def Gave (desk : Desk) (occurrences : Nat → Occurrence) (count : Nat) (execution : Execution) :
    Prop :=
  ∃ moment < count, ∃ (runner : Runner) (prepared : Prepared) (response : Remote.Response),
    (desk.course occurrences moment).executing? runner = some prepared ∧
      occurrences moment = .act (.work runner response) ∧
        Remote.Executor.read desk.executorUrl response = .ok execution

section Given

variable {desk : Desk} {occurrences : Nat → Occurrence} {count : Nat} {execution : Execution}

/-- What was given before a moment was given before any later one. -/
theorem Gave.later (gave : desk.Gave occurrences count execution) {later : Nat}
    (order : count ≤ later) : desk.Gave occurrences later execution := by
  obtain ⟨moment, before, given⟩ := gave
  exact ⟨moment, Nat.lt_of_lt_of_le before order, given⟩

/-- What was given can be written and read. -/
theorem Gave.readable (gave : desk.Gave occurrences count execution) :
    Json.Readable (.object execution.fields) := by
  obtain ⟨_, _, _, _, _, _, _, read⟩ := gave
  exact Remote.Executor.readable_of_read read

/-- What a run is given now was given before the next moment. -/
theorem gave_now {runner : Runner} {run : Run} {prepared : Prepared} {response : Remote.Response}
    (running : (desk.course occurrences count).run? runner = some run)
    (phase : run.phase = .executing prepared)
    (acts : occurrences count = .act (.work runner response))
    (read : Remote.Executor.read (desk.course occurrences count).executorUrl response = .ok execution) :
    desk.Gave occurrences (count + 1) execution := by
  have url : (desk.course occurrences count).executorUrl = desk.executorUrl :=
    congrArg (·.2.2.1) (desk.settings_course occurrences count)
  exact ⟨count, Nat.lt_succ_self count, runner, prepared, response,
    executing?_eq_some.mpr ⟨run, running, phase⟩, acts, url ▸ read⟩

end Given

/-! ## Answers that are held -/

/-- A run that is about to make its answer known holds an execution of its own. -/
def Gathered (run : Run) (execution : Execution) : Prop :=
  (∃ prepared, run.phase = .charting prepared execution) ∨
    ∃ prepared chart, run.phase = .storing prepared execution chart

/-- All answers that the store and the runs of a desk hold are of a kind. -/
structure Sourced (desk : Desk) (kind : Execution → Prop) : Prop where
  /-- The answers in the store. -/
  stored : ∀ hash item entry, desk.store.answer? hash = some item → item.entry? = some entry →
    ∃ execution, kind execution ∧ entry.result = execution.fields
  /-- The answers that runs have looked up. -/
  held : ∀ runner run prepared entry, desk.run? runner = some run →
    run.phase = .removing prepared entry ∨ run.phase = .repointing prepared entry →
      ∃ execution, kind execution ∧ entry.result = execution.fields
  /-- The answers that runs were given. -/
  gathered : ∀ runner run execution, desk.run? runner = some run → Gathered run execution →
    kind execution

/-- A run that is about to remember its answer can write it down. -/
theorem Accounted.faithful {desk : Desk} (accounted : desk.Accounted) {runner : Runner} {run : Run}
    (running : desk.run? runner = some run) : Faithful run := by
  cases runner with
  | worker worker =>
    obtain ⟨_, handles⟩ := accounted.handles running
    exact handles.carries.faithful
  | hand number =>
    obtain ⟨_, found⟩ := run?_hand.mp running
    rw [accounted.handless] at found
    cases found

section Sources

variable {desk : Desk} {kind : Execution → Prop}

/-- Answers of a kind are of any wider kind. -/
theorem Sourced.mono (sourced : desk.Sourced kind) {wider : Execution → Prop}
    (wide : ∀ execution, kind execution → wider execution) : desk.Sourced wider where
  stored hash item entry found read :=
    (sourced.stored hash item entry found read).imp fun _ => And.imp_left (wide _)
  held runner run prepared entry running phase :=
    (sourced.held runner run prepared entry running phase).imp fun _ => And.imp_left (wide _)
  gathered runner run execution running gathers :=
    wide _ (sourced.gathered runner run execution running gathers)

/-- A desk that has just been set up holds no answers. -/
theorem sourced_start {settings : Settings} (started : start settings = .ok desk) :
    desk.Sourced kind := by
  have idle := run?_start started
  refine ⟨fun hash item entry found => ?_, fun runner run prepared entry running => ?_,
    fun runner run execution running => ?_⟩
  · obtain ⟨_, _, rfl⟩ := start_eq started
    cases found
  all_goals
    rw [idle] at running
    cases running

/-- An answer that is looked up is of the kind of those in the store. -/
theorem Sourced.of_found (sourced : desk.Sourced kind) {hash : String} {entry : QueryEntry}
    (found : desk.store.findQuery desk.now hash = .ok (some entry)) :
    ∃ execution, kind execution ∧ entry.result = execution.fields := by
  obtain ⟨item, live, read⟩ := Option.bind_eq_some_iff.mp (Cache.Store.findQuery_eq found).symm
  exact sourced.stored hash item entry (Option.filter_eq_some_iff.mp live).1 read

/-- Whatever a desk does, the answers stay of a kind if the executor gives none of another kind. -/
theorem Sourced.act (sourced : desk.Sourced kind) (accounted : desk.Accounted) (action : Action)
    (given : ∀ runner run prepared response execution, desk.run? runner = some run →
      run.phase = .executing prepared → action = .work runner response →
        Remote.Executor.read desk.executorUrl response = .ok execution → kind execution) :
    (desk.act action).Sourced kind := by
  refine ⟨fun hash item entry found read => ?_, fun runner run prepared entry running phase => ?_,
    fun runner run execution running gathers => ?_⟩
  · rcases @answers_meet desk accounted.sound (.act action) nofun with same |
      ⟨runner, run, prepared, execution, chart, running, storing, _, put⟩
    · exact sourced.stored hash item entry ((same hash).symm.trans found) read
    · obtain ⟨written, text, answers⟩ := Cache.Store.answer?_putQuery put
      have kept := (answers hash).symm.trans found
      split at kept
      · cases kept
        have whole : (run.entry execution chart).Faithful :=
          (accounted.faithful running).storing _ _ _ storing
        cases (Cache.entry?_of_text whole text).symm.trans read
        exact ⟨execution, sourced.gathered runner run execution running
          (Or.inr ⟨prepared, chart, storing⟩), rfl⟩
      · exact sourced.stored hash item entry kept read
  · cases move accounted.sound (.act action) runner with
    | stays same => exact sourced.held runner run prepared entry (same ▸ running) phase
    | starts _ after opening =>
      cases after.symm.trans running
      rcases phase with phase | phase <;> cases opening.symm.trans phase
    | goesOn _ ran passage after =>
      cases after.symm.trans running
      cases passage with
      | recognised _ found | duplicated _ found =>
        rcases phase with phase | phase <;> cases phase
        exact sourced.of_found found
      | removed before =>
        rcases phase with phase | phase <;> cases phase
        exact sourced.held runner _ prepared entry ran (Or.inl before)
      | _ => rcases phase with phase | phase <;> cases phase
    | ends _ _ _ after | cut _ _ after => cases after.symm.trans running
  · cases move accounted.sound (.act action) runner with
    | stays same => exact sourced.gathered runner run execution (same ▸ running) gathers
    | starts _ after opening =>
      cases after.symm.trans running
      rcases gathers with ⟨_, phase⟩ | ⟨_, _, phase⟩ <;> cases opening.symm.trans phase
    | goesOn acts ran passage after =>
      cases after.symm.trans running
      cases passage with
      | executed before read =>
        rcases gathers with ⟨_, phase⟩ | ⟨_, _, phase⟩ <;> cases phase
        cases acts
        exact given runner _ _ _ _ ran before rfl read
      | charted before =>
        rcases gathers with ⟨_, phase⟩ | ⟨_, _, phase⟩ <;> cases phase
        exact sourced.gathered runner _ _ ran (Or.inl ⟨_, before⟩)
      | _ => rcases gathers with ⟨_, phase⟩ | ⟨_, _, phase⟩ <;> cases phase
    | ends _ _ _ after | cut _ _ after => cases after.symm.trans running

/-- At every moment of a course, the executor gave all answers that there are. -/
theorem sourced_course {settings : Settings} (started : start settings = .ok desk)
    {occurrences : Nat → Occurrence}
    (service : ∀ moment, (occurrences moment).isService = true) (count : Nat) :
    (desk.course occurrences count).Sourced (desk.Gave occurrences count) := by
  induction count with
  | zero => exact sourced_start started
  | succ count before =>
    have later := before.mono fun execution (gave : desk.Gave occurrences count execution) =>
      gave.later (Nat.le_succ count)
    rw [course]
    cases occurs : occurrences count with
    | act action =>
      refine later.act (accounted_course started service count) action ?_
      rintro runner run prepared response execution running phase rfl read
      exact gave_now running phase occurs read
    | bring name sink => exact ⟨later.stored, later.held, later.gathered⟩

end Sources

/-! ## What jobs return -/

/-- A job has a title that can be told or none. It has returned nothing and not completed, or it
has completed with an execution of a kind, and holds the fingerprint of its query. -/
structure Returned (kind : Execution → Prop) (job : Job) : Prop where
  /-- It has no title or one that can be told. -/
  titled : ∃ title, Push.JobState.titleOf job = .ok title
  /-- It has returned nothing, or has completed with an execution. -/
  answer : job.returnValue = .null ∧ job.status ≠ .completed ∨ job.status = .completed ∧
    ∃ (execution : Execution) (chart : Fields) (hash : String), kind execution ∧
      job.returnValue = Run.answerValue execution.fields chart ∧
        job.notes.get Run.hashNote = .text hash

/-- What a job has returned is of any wider kind. -/
theorem Returned.mono {kind wider : Execution → Prop} {job : Job} (returned : Returned kind job)
    (wide : ∀ execution, kind execution → wider execution) : Returned wider job := by
  refine ⟨returned.titled, returned.answer.imp_right (And.imp_right ?_)⟩
  rintro ⟨execution, chart, hash, gave, returns⟩
  exact ⟨execution, chart, hash, wide execution gave, returns⟩

/-- A bare job that has not completed has returned nothing. -/
theorem Bare.returned {kind : Execution → Prop} {job : Job} (bare : Bare job)
    (open_ : job.status ≠ .completed) : Returned kind job :=
  ⟨bare.titled, Or.inl ⟨bare.empty, open_⟩⟩

/-- A job whose run has its query holds the fingerprint of it, and one that has ended has returned
nothing or an execution of a kind. -/
def Standing.Sourced (kind : Execution → Prop) : Standing → Prop
  | .absent | .waits _ => True
  | .handled job run => ∀ prepared, run.phase.prepared? = some prepared →
    job.notes.get Run.hashNote = .text prepared.hash
  | .ends job _ | .closed job => Returned kind job

/-- What the job of a question has returned is of any wider kind. -/
theorem Standing.Sourced.mono {kind wider : Execution → Prop} {standing : Standing}
    (sourced : standing.Sourced kind) (wide : ∀ execution, kind execution → wider execution) :
    standing.Sourced wider := by
  cases standing with
  | absent | waits | handled => exact sourced
  | ends | closed => exact Returned.mono sourced wide

/-- A run that goes on with its query holds the fingerprint of it. -/
theorem Passage.hashed {desk between : Desk} {runner : Runner} {run next : Run}
    {response : Remote.Response} {notes : Fields} {job : Job} {prepared : Prepared}
    (passage : desk.Passage runner run response (.goOn next notes) between)
    (before : run.phase.prepared? = some prepared →
      job.notes.get Run.hashNote = .text prepared.hash)
    (has : next.phase.prepared? = some prepared) :
    (job.noteAll notes).notes.get Run.hashNote = .text prepared.hash := by
  cases passage with
  | opened => cases has
  | planned =>
    cases has
    exact Fields.get_set_self _ _ _
  | admitted phase | unknown phase | recognised phase | duplicated phase | removed phase
  | saved phase | executed phase | charted phase =>
    cases has
    exact before (by rw [phase]; rfl)

/-- A job that ends has returned nothing, or what the store or its run held. -/
theorem returned_of_ended {desk between : Desk} {runner : Runner} {run : Run}
    {response : Remote.Response} {outcome : Except Failure Value} {notes : Fields} {job : Job}
    {kind : Execution → Prop} (sourced : desk.Sourced kind) (running : desk.run? runner = some run)
    (carries : Carries run job) (bare : Bare job) (blameless : job.failedReason = none)
    (passage : desk.Passage runner run response (.ended outcome notes) between)
    (hashed : ∀ prepared, run.phase.prepared? = some prepared →
      job.notes.get Run.hashNote = .text prepared.hash) :
    Returned kind (Board.ended (job.noteAll notes) desk.now outcome) := by
  cases outcome with
  | error failure =>
    obtain ⟨tells, last⟩ := passage.failed
    cases ending_of_failure bare (last.harmless carries.text) tells desk.now with
    | failed status bare =>
      refine bare.returned ?_
      rw [status]
      exact nofun
  | ok value =>
    have completed := completed_of_value blameless notes desk.now value
    cases passage with
    | @repointed prepared entry key store phase =>
      obtain ⟨execution, gave, same⟩ := sourced.held _ _ _ _ running (Or.inr phase)
      have noted : ∀ name, Run.summaryNote ≠ name → Run.duplicateNote ≠ name →
          (job.noteAll [(Run.duplicateNote, .bool true),
            (Run.summaryNote, run.log.summary desk.now)]).notes.get name = job.notes.get name :=
        fun name summed marked => (get_note (job.note Run.duplicateNote (.bool true)) _ summed).trans
          (get_note job _ marked)
      obtain ⟨title, named⟩ := bare.titled
      exact ⟨⟨title, (titleOf_congr (noted Run.titleNote (by decide) (by decide))).trans named⟩,
        Or.inr ⟨completed, execution, entry.chart, prepared.hash, gave,
          congrArg (Run.answerValue · entry.chart) same,
          (noted Run.hashNote (by decide) (by decide)).trans
            (hashed prepared (by rw [phase]; rfl))⟩⟩
    | @stored prepared execution chart store phase =>
      have noted := bare.noteAll (harmless_summary ((run.logged desk.now .cache
        ("Cached result for SQL " ++ Run.shortHash prepared.hash)).log.summary desk.now))
      exact ⟨noted.titled, Or.inr ⟨completed, execution, chart, prepared.hash,
        sourced.gathered _ _ _ running (Or.inr ⟨_, _, phase⟩), rfl,
        (get_note job _ (show Run.summaryNote ≠ Run.hashNote by decide)).trans
          (hashed prepared (by rw [phase]; rfl))⟩⟩

/-- Whatever becomes of a question, its job returns nothing but what is of the kind of all answers
that there are. -/
theorem Development.sourced {desk : Desk} {occurrence : Occurrence} {questionId : String}
    {matter after : Matter} (development : Development desk occurrence questionId matter after)
    (proper : matter.Proper desk.named questionId) {kind : Execution → Prop}
    (sourced : desk.Sourced kind) (before : matter.standing.Sourced kind) :
    after.standing.Sourced kind := by
  have fits := proper.fits
  cases development with
  | rests | counted | recorded | unrecorded | remembered | told | dismissed => exact before
  | begun | posed | unposed => trivial
  | taken => exact nofun
  | wentOn _ _ passage => exact fun prepared => passage.hashed (before prepared)
  | ended _ running passage =>
    cases fits with
    | handled _ bare blameless carries =>
      exact returned_of_ended sourced running carries bare blameless passage before
  | cutOff =>
    cases fits with
    | handled processing bare =>
      refine (bare.noteAll (harmless_summary _)).returned ?_
      rw [Job.status_noteAll, processing]
      exact nofun

/-- In a course, the job of a question has returned nothing or what the executor gave. -/
theorem Story.sourced {settings : Settings} {desk : Desk} (started : start settings = .ok desk)
    {occurrences : Nat → Occurrence}
    (service : ∀ moment, (occurrences moment).isService = true) {questionId : String}
    {matters : Nat → Matter} (story : desk.Story occurrences questionId matters) (count : Nat)
    {job : Job} (stands : (matters count).standing.job? = some job) :
    Returned (desk.Gave occurrences count) job := by
  -- What is carried along speaks of the run too, whose job has noted the hash of its query.
  have sourced : ∀ count, (matters count).standing.Sourced (desk.Gave occurrences count) := by
    intro count
    induction count with
    | zero =>
      rw [story.first]
      trivial
    | succ count before =>
      have held := (story.develops count).sourced (story.proper count)
        (sourced_course started service count) before
      exact held.mono fun execution gave => gave.later (Nat.le_succ count)
  have here := sourced count
  have fits := (story.proper count).fits
  generalize (matters count).standing = standing at stands here fits
  cases standing with
  | absent => cases stands
  | waits =>
    cases stands
    cases fits with
    | waits pending bare => exact bare.returned (by rw [pending]; exact nofun)
  | handled =>
    cases stands
    cases fits with
    | handled processing bare => exact bare.returned (by rw [processing]; exact nofun)
  | ends | closed =>
    cases stands
    exact here

end QuestionDesk.Desk
