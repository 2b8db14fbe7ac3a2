import QuestionDesk.Proofs.Desk.Visits

/-!
# What workers do

A worker that takes a job, goes on with its run, ends it, tells its listener or goes for good makes
one development of the matter of its question, and leaves all other matters as they are.
-/
namespace QuestionDesk.Desk

open Cache (QueryEntry)
open Database (JobRecord Ledger Wording)
open Jobs (Activity Board Event Job)
open Pipeline (Next Phase Prepared Run Runner)

/-! ## One job -/

section Advances

variable {desk after : Desk} {questionId : String} {matter : Matter} {worker : Nat}
  {job changed : Job} {next : Activity Run}

/-- A desk whose board advances is staffed as before. -/
theorem Staffed.advance (staffed : desk.Staffed)
    (advance : desk.board.Advance after.board questionJobType worker job changed next)
    (hands : after.hands = desk.hands) : after.Staffed := by
  refine ⟨advance.sound, fun event => ?_, fun index jobType activity does => ?_,
    hands.trans staffed.handless⟩
  · rw [Board.audience, advance.listeners]
    exact staffed.heard event
  · rw [Board.Does, advance.workers] at does
    split at does
    · cases does
      rfl
    · exact staffed.staffed index jobType activity does

/-- A worker that turns to no run, or to one that is about to begin, cites nothing more. -/
theorem Cited.of_advance
    (advance : desk.board.Advance after.board questionJobType worker job changed next)
    (fresh : ∀ seq run, next = .handling seq run → run.phase = .opening)
    (hands : after.hands = desk.hands)
    (answers : ∀ hash, after.store.answer? hash = desk.store.answer? hash)
    (cited : after.Cited questionId) : desk.Cited questionId := by
  refine cited.congr answers fun runner run running => ?_
  rw [run?_of_workers runner advance.workers hands] at running
  split at running
  · cases next with
    | handling seq other =>
      cases running
      exact Or.inr (fresh _ _ rfl)
    | _ => cases running
  · exact Or.inl running

/-- A worker that was busy with a job and is busy no more leaves the job to nobody. -/
theorem closed_of_free
    (advance : desk.board.Advance after.board questionJobType worker job changed next)
    (free : next.seq? = none) : (Standing.closed changed).On after.board := by
  rintro index ⟨activity, still, same⟩
  by_cases him : index = worker
  · subst him
    rw [← (advance.does.unique still).2, free] at same
    cases same
  · rw [advance.same.1] at same
    exact advance.others index him ⟨activity, (advance.does_other him).mp still, same⟩

/-- What a worker does to one job develops the matter of its question, and leaves all others as they
are. -/
theorem Staffed.turned_advance {occurrence : Occurrence} (staffed : desk.Staffed)
    (advance : desk.board.Advance after.board questionJobType worker job changed next)
    (concerned : Concerns desk.board job) (hands : after.hands = desk.hands)
    (visits : after.visits = desk.visits)
    (apart : ∀ other, other ≠ job.fingerprint → after.ledger other = desk.ledger other ∧
      (after.Cited other → desk.Cited other))
    (standing : Standing) (there : standing.job? = some changed) (placed : standing.On after.board)
    (develops : ∀ matter, desk.Keeps job.fingerprint matter →
      matter.Proper desk.named job.fingerprint →
        (after.Cited job.fingerprint → standing.IsAnswered) ∧
          Development desk occurrence job.fingerprint matter
            ⟨matter.visit, standing, after.ledger job.fingerprint⟩) :
    desk.Turned occurrence after := by
  refine ⟨staffed.advance advance hands, fun questionId matter keeps proper => ?_⟩
  by_cases own : job.fingerprint = questionId
  · subst own
    obtain ⟨cited, development⟩ := develops matter keeps proper
    exact ⟨_, development,
      keeps.own advance (keeps.only job concerned rfl) there placed visits cited⟩
  · obtain ⟨ledger, cited⟩ := apart questionId (Ne.symm own)
    exact ⟨matter, .rests, keeps.other proper advance concerned own visits ledger cited⟩

/-- A worker that takes the job that has waited longest brings it to be handled. -/
theorem Staffed.turned_take (staffed : desk.Staffed) (worker : Nat) :
    desk.Turned (.act (.take worker)) (desk.take worker) := by
  rcases Board.take_cases desk.board desk.now worker
    (fun job => Run.start desk.now job.id job.payload) with same | taken
  · exact .of_eq staffed same rfl rfl rfl rfl
  · obtain ⟨jobType, seq, rest, job, idle, line, found, _⟩ := taken
    obtain rfl := staffed.staffed _ _ _ idle
    obtain ⟨member, rfl⟩ := Jobs.Lane.mem_of_job? found
    have pending := (Jobs.Lane.pending_replace (staffed.sound.ordered questionJobType) member
      ((staffed.sound.waiting questionJobType).symm.trans line)).1
    have advance : desk.board.Advance (desk.take worker).board questionJobType worker job
        { job with processedOn := some desk.now }
        (.handling job.seq (Run.start desk.now job.id job.payload)) :=
      Board.advance_take staffed.sound desk.now
        (fun job => Run.start desk.now job.id job.payload) idle line found
    have cited : ∀ {id}, (desk.take worker).Cited id → desk.Cited id :=
      Cited.of_advance advance (by rintro _ _ ⟨⟩; rfl) rfl fun _ => rfl
    refine staffed.turned_advance advance (Or.inl found) rfl rfl (fun _ _ => ⟨rfl, cited⟩)
      (.handled { job with processedOn := some desk.now } (Run.start desk.now job.id job.payload))
      rfl ⟨advance.job?_self found, worker, advance.does⟩ fun matter keeps proper => ?_
    have standing := keeps.of_waiting proper staffed.sound found pending rfl
    refine ⟨fun cites => ?_, ?_⟩
    · have answered := keeps.cited (cited cites)
      rw [standing] at answered
      exact answered.elim
    · rw [show (desk.take worker).ledger job.fingerprint = matter.ledger from keeps.ledger]
      obtain ⟨visit, _, ledger⟩ := matter
      cases standing
      exact .taken

end Advances

/-! ## Runs -/

section Runs

variable {desk between : Desk} {runner : Runner} {run next : Run} {response : Remote.Response}
  {notes : Fields} {questionId : String} {outcome : Except Failure Value}

/-- An answer that was looked up is in the store, so its question is cited. -/
theorem cited_of_found {hash : String} {entry : QueryEntry}
    (looked : desk.store.findQuery desk.now hash = .ok (some entry)) :
    desk.Cited entry.questionId := by
  have reads := Cache.Store.findQuery_eq looked
  obtain ⟨item, there, read⟩ := Option.bind_eq_some_iff.mp reads.symm
  exact Or.inl ⟨hash, item, entry, (Option.filter_eq_some_iff.mp there).1, read, rfl⟩

/-- What the database holds after the query of a draft was to be stored with it: all other questions
are as before, and so is the draft unless it was given the query. -/
theorem ledgers_updateQuestion
    (draft : (desk.database.tables.ledger questionId).wording = some .draft) (prepared : Prepared)
    {database : Database}
    (updated : (desk.database.updateQuestion questionId (savedChanges prepared)).2 = database) :
    (∀ other, other ≠ questionId →
        ({ desk with database } : Desk).ledger other = desk.ledger other) ∧
      (database = desk.database ∧ (∃ failure,
          (desk.database.updateQuestion questionId (savedChanges prepared)).1 = .error failure) ∨
        ({ desk with database } : Desk).ledger questionId =
          { desk.ledger questionId with wording := some (.saved prepared) }) := by
  subst updated
  rcases Database.updateQuestion_cases draft prepared with ⟨failure, failed⟩ | ledger
  · rw [failed]
    exact ⟨fun _ _ => rfl, Or.inl ⟨rfl, failure, rfl⟩⟩
  · exact ⟨fun other different => (ledger other).trans (if_neg different),
      Or.inr ((ledger questionId).trans (if_pos rfl))⟩

/-- What a run that goes on has written is about its own question, and is what its phase says. -/
theorem Passage.ledgers_goOn
    (passage : desk.Passage runner run response (.goOn next notes) between)
    (named : run.phase ≠ .opening → run.questionId = .text questionId)
    (kept : Kept run.phase (desk.ledger questionId)) (uncited : ¬desk.Cited questionId) :
    (∀ other, other ≠ questionId → between.ledger other = desk.ledger other) ∧
      Wrote run.phase next.phase (desk.ledger questionId) (between.ledger questionId) := by
  cases passage with
  | opened phase | admitted phase | unknown phase | duplicated phase | executed phase
  | charted phase | planned phase =>
    rw [phase]
    exact ⟨fun _ _ => rfl, .nothing rfl rfl⟩
  | recognised phase looked own =>
    have mine := named (by simp [phase])
    rw [← own, Value.text.injEq] at mine
    rw [← mine] at uncited
    exact absurd (cited_of_found looked) uncited
  | removed phase done =>
    obtain rfl := Run.question_eq (named (by simp [phase]))
    rw [phase] at kept ⊢
    have ledger := Database.ledger_deleteQuestion done ((kept_there rfl).mp kept).asked
    have gone : Desk.ledger { desk with
        database := (desk.database.deleteQuestion run.question).2 } run.question = {} :=
      (ledger _).trans (if_pos rfl)
    exact ⟨fun other different => (ledger other).trans (if_neg different),
      by rw [gone]; exact .removed⟩
  | @saved prepared question phase done =>
    obtain rfl := Run.question_eq (named (by simp [phase]))
    rw [phase] at kept ⊢
    obtain ⟨apart, ⟨_, failure, failed⟩ | stored⟩ :=
      ledgers_updateQuestion ((kept_there rfl).mp kept).asked prepared rfl
    · rw [failed] at done
      cases done
    · exact ⟨apart, by rw [stored]; exact .saved⟩

/-- What a run that has ended has left is about its own question, and is what was there before. -/
theorem Passage.ledgers_ended
    (passage : desk.Passage runner run response (.ended outcome notes) between)
    (named : run.phase ≠ .opening → run.questionId = .text questionId)
    (keyed : run.phase ≠ .opening → run.phase ≠ .planning → ∃ key, Run.keyFor run.prompt = .ok key)
    (kept : Kept run.phase (desk.ledger questionId)) :
    (∀ other, other ≠ questionId → between.ledger other = desk.ledger other) ∧
      Quit run.phase (desk.ledger questionId) (between.ledger questionId) := by
  cases passage with
  | unremoved phase done =>
    have still : (desk.database.deleteQuestion run.question).2 = desk.database :=
      (Database.deleteQuestion_ended desk.database _).unchanged done
    rw [still]
    exact ⟨fun _ _ => rfl, .same⟩
  | stranded phase done keyless =>
    obtain ⟨key, found⟩ := keyed (by simp [phase]) (by simp [phase])
    rw [found] at keyless
    cases keyless
  | @unsaved prepared failure phase done =>
    obtain rfl := Run.question_eq (named (by simp [phase]))
    have opened := kept
    rw [phase] at opened
    obtain ⟨apart, ⟨still, _⟩ | stored⟩ :=
      ledgers_updateQuestion ((kept_there rfl).mp opened).asked prepared rfl
    · rw [still]
      exact ⟨fun _ _ => rfl, .same⟩
    · exact ⟨apart, by rw [stored]; exact .saved phase⟩
  | _ => exact ⟨fun _ _ => rfl, .same⟩

/-- A run that goes on cites only questions that were cited before. -/
theorem Passage.cited_goOn
    (passage : desk.Passage runner run response (.goOn next notes) between)
    (running : desk.run? runner = some run)
    (cited : (between.follow runner run (.goOn next notes)).Cited questionId) :
    desk.Cited questionId := by
  have runs : ∀ other, (between.follow runner run (.goOn next notes)).run? other =
      if other = runner then some next else desk.run? other := by
    intro other
    rw [follow_goOn, ← passage.run?_eq,
      ← run?_goOn (show between.run? runner = some run by rw [passage.run?_eq, running]) next notes]
    exact run?_congr other (fun _ => rfl) rfl
  rcases cited with ⟨hash, item, entry, found, read, own⟩ |
    ⟨other, later, query, entry, ran, phase, own⟩
  · rw [follow_goOn] at found
    change (between.goOn runner next notes).store.answer? hash = _ at found
    rw [store_goOn, passage.store_eq] at found
    exact Or.inl ⟨hash, item, entry, found, read, own⟩
  · rw [runs] at ran
    split at ran
    · cases ran
      cases passage with
      | recognised _ looked | duplicated _ looked =>
        rcases phase with phase | phase <;> cases phase
        exact own ▸ cited_of_found looked
      | removed removing =>
        rcases phase with phase | phase <;> cases phase
        exact Or.inr ⟨runner, run, query, entry, running, Or.inl removing, own⟩
      | _ => rcases phase with phase | phase <;> cases phase
    · exact Or.inr ⟨other, later, query, entry, ran, phase, own⟩

/-- A run that ends cites only questions that were cited before, and its own if it has remembered
its answer. -/
theorem Passage.cited_ended (sound : desk.board.Sound)
    (passage : desk.Passage runner run response (.ended outcome notes) between)
    (running : desk.run? runner = some run) (faithful : Faithful run)
    (cited : (between.follow runner run (.ended outcome notes)).Cited questionId) :
    desk.Cited questionId ∨ run.question = questionId ∧
      ∃ prepared execution chart summary, run.phase = .storing prepared execution chart ∧
        outcome = .ok (Run.answerValue execution.fields chart) ∧
          notes = [(Run.summaryNote, summary)] := by
  have runs : ∀ other, (between.follow runner run (.ended outcome notes)).run? other =
      if other = runner then none else desk.run? other := by
    intro other
    rw [← passage.run?_eq]
    refine run?_conclude ?_ (show between.run? runner = some run by rw [passage.run?_eq, running])
      outcome notes other
    rw [passage.after_eq]
    exact sound
  rcases cited with ⟨hash, item, entry, found, read, own⟩ |
    ⟨other, later, query, entry, ran, phase, own⟩
  · rw [follow, store_conclude] at found
    have before : between.store.answer? hash = desk.store.answer? hash → desk.Cited questionId :=
      fun same => Or.inl ⟨hash, item, entry, same ▸ found, read, own⟩
    cases passage with
    | repointed phase keyed done => exact Or.inl (before (Cache.Store.answer?_putPrompt done hash))
    | @stored prepared execution chart store phase named done =>
      obtain ⟨written, text, answers⟩ := Cache.Store.answer?_putQuery done
      by_cases here : hash = prepared.hash
      · right
        rw [answers, if_pos here] at found
        cases found
        have whole : (run.entry execution chart).Faithful := faithful.storing _ _ _ phase
        cases (Cache.entry?_of_text whole text).symm.trans read
        exact ⟨own, prepared, execution, chart, _, phase, rfl, rfl⟩
      · exact Or.inl (before ((answers hash).trans (if_neg here)))
    | _ => exact Or.inl (before rfl)
  · rw [runs] at ran
    split at ran
    · cases ran
    · exact Or.inl (Or.inr ⟨other, later, query, entry, ran, phase, own⟩)

/-- A worker whose run goes on brings its job on. -/
theorem advance_follow_goOn {worker : Nat} {job : Job} (sound : desk.board.Sound)
    (passage : desk.Passage (.worker worker) run response (.goOn next notes) between)
    (does : desk.board.Does worker questionJobType (.handling job.seq run))
    (found : desk.board.job? questionJobType job.seq = some job) :
    desk.board.Advance (between.follow (.worker worker) run (.goOn next notes)).board
      questionJobType worker job (job.noteAll notes) (.handling job.seq next) := by
  have went : (between.follow (.worker worker) run (.goOn next notes)).board =
      desk.board.goOn worker next notes := by
    rw [follow_goOn, passage.after_eq]
    rfl
  rw [went]
  exact Board.advance_goOn sound does found next notes

/-- A worker whose run ends ends its job. -/
theorem advance_follow_ended {worker : Nat} {job : Job} (sound : desk.board.Sound)
    (passage : desk.Passage (.worker worker) run response (.ended outcome notes) between)
    (does : desk.board.Does worker questionJobType (.handling job.seq run))
    (found : desk.board.job? questionJobType job.seq = some job)
    (alive : outcome ≠ .error .cancelled) :
    desk.board.Advance (between.follow (.worker worker) run (.ended outcome notes)).board
      questionJobType worker job (Board.ended (job.noteAll notes) desk.now outcome)
        (desk.board.tellingNext (Board.ended (job.noteAll notes) desk.now outcome)
          (Board.eventOf outcome) 0) := by
  have went : (between.follow (.worker worker) run (.ended outcome notes)).board =
      (desk.board.goOn worker run notes).finish desk.now worker outcome := by
    simp only [follow, conclude, leaveLine_eq]
    rw [passage.after_eq]
  have first := Board.advance_goOn sound does found run notes
  have still : (desk.board.goOn worker run notes).Does worker questionJobType
      (.handling (job.noteAll notes).seq run) := by
    rw [first.same.1]
    exact first.does
  have second := Board.advance_finish first.sound still (first.job?_self found) desk.now alive
  have listeners : ∀ event, (desk.board.goOn worker run notes).audience event =
      desk.board.audience event := by
    intro event
    rw [Board.audience, first.listeners, Board.audience]
  rw [went]
  unfold Board.tellingNext at second ⊢
  rw [listeners] at second
  exact first.trans second

/-- A run does not end by being cut off. -/
theorem Passage.alive
    (passage : desk.Passage runner run response (.ended outcome notes) between) :
    outcome ≠ .error .cancelled := by
  rintro rfl
  exact passage.failed.1.alive rfl

end Runs

section Work

variable {desk between : Desk} {worker : Nat} {run next : Run} {response : Remote.Response}
  {notes : Fields} {questionId : String} {outcome : Except Failure Value} {job : Job}
  {matter : Matter}

/-- What is known about a job that is handled and its question. -/
structure Handles (desk : Desk) (worker : Nat) (job : Job) (run : Run) : Prop where
  /-- The worker handles the job. -/
  does : desk.board.Does worker questionJobType (.handling job.seq run)
  /-- The job is on the board. -/
  found : desk.board.job? questionJobType job.seq = some job
  /-- The run is that of the job. -/
  carries : Carries run job
  /-- Its question is as the run has left it. -/
  kept : Kept run.phase (desk.ledger job.fingerprint)
  /-- Its question is not cited. -/
  uncited : ¬desk.Cited job.fingerprint

/-- A worker that carries out a run handles a job of a question. -/
theorem Accounted.handles (accounted : desk.Accounted)
    (running : desk.run? (.worker worker) = some run) : ∃ job, desk.Handles worker job run := by
  obtain ⟨jobType, seq, does⟩ := run?_worker.mp running
  obtain rfl := accounted.staffed _ _ _ does
  obtain ⟨job, found, _⟩ := accounted.sound.handled _ _ _ _ does
  obtain ⟨_, rfl⟩ := Jobs.Lane.mem_of_job? found
  obtain ⟨matter, keeps, proper⟩ := accounted.matters job.fingerprint
  have standing := keeps.of_handling proper accounted.sound does found rfl
  have fits := proper.fits
  rw [standing] at fits
  have ledger : desk.ledger job.fingerprint = matter.ledger := keeps.ledger
  cases fits with
  | handled processing bare blameless carries kept =>
    refine ⟨job, does, found, carries, by rw [ledger]; exact kept, fun cites => ?_⟩
    have answered := keeps.cited cites
    rw [standing] at answered
    exact answered

/-- A worker that goes on with its run brings the matter of its question on. -/
theorem Accounted.turned_goOn (accounted : desk.Accounted)
    (running : desk.run? (.worker worker) = some run)
    (passage : desk.Passage (.worker worker) run response (.goOn next notes) between) :
    desk.Turned (.act (.work (.worker worker) response))
      (between.follow (.worker worker) run (.goOn next notes)) := by
  obtain ⟨job, handles⟩ := accounted.handles running
  have advance := advance_follow_goOn accounted.sound passage handles.does handles.found
  obtain ⟨apart, wrote⟩ := passage.ledgers_goOn handles.carries.named handles.kept handles.uncited
  have went := follow_goOn between (.worker worker) run next notes
  have hands : (between.follow (.worker worker) run (.goOn next notes)).hands = desk.hands := by
    rw [went, passage.after_eq]
    rfl
  have visits : (between.follow (.worker worker) run (.goOn next notes)).visits = desk.visits := by
    rw [went, passage.after_eq]
    rfl
  have ledger : ∀ id, (between.follow (.worker worker) run (.goOn next notes)).ledger id =
      between.ledger id := by
    intro id
    rw [went]
    rfl
  refine accounted.toStaffed.turned_advance advance (Or.inl handles.found) hands visits
    (fun other different =>
      ⟨(ledger other).trans (apart other different), passage.cited_goOn running⟩)
    (.handled (job.noteAll notes) next) rfl
    ⟨advance.job?_self handles.found, worker, by rw [advance.same.1]; exact advance.does⟩
    fun matter keeps proper =>
      ⟨fun cites => absurd (passage.cited_goOn running cites) handles.uncited, ?_⟩
  have standing := keeps.of_handling proper accounted.sound handles.does handles.found rfl
  have here : desk.ledger job.fingerprint = matter.ledger := keeps.ledger
  rw [here] at wrote
  rw [ledger]
  obtain ⟨visit, _, _⟩ := matter
  cases standing
  exact .wentOn rfl running passage wrote

/-- A worker that ends its run brings the matter of its question to the end. -/
theorem Accounted.turned_ended (accounted : desk.Accounted)
    (running : desk.run? (.worker worker) = some run)
    (passage : desk.Passage (.worker worker) run response (.ended outcome notes) between)
    (went : desk.work (.worker worker) response =
      between.follow (.worker worker) run (.ended outcome notes)) :
    desk.Turned (.act (.work (.worker worker) response))
      (between.follow (.worker worker) run (.ended outcome notes)) := by
  obtain ⟨job, handles⟩ := accounted.handles running
  have advance := advance_follow_ended accounted.sound passage handles.does handles.found
    passage.alive
  obtain ⟨apart, quit⟩ := passage.ledgers_ended handles.carries.named
    (fun begun planned => ⟨_, (handles.carries.keyed begun planned).choose_spec.2⟩) handles.kept
  have same : (between.follow (.worker worker) run (.ended outcome notes)).hands = desk.hands ∧
      (between.follow (.worker worker) run (.ended outcome notes)).visits = desk.visits ∧
        ∀ id, (between.follow (.worker worker) run (.ended outcome notes)).ledger id =
          between.ledger id := by
    simp only [follow, conclude, leaveLine_eq]
    rw [passage.after_eq]
    exact ⟨rfl, rfl, fun _ => rfl⟩
  obtain ⟨hands, visits, ledger⟩ := same
  have telling : desk.board.tellingNext (Board.ended (job.noteAll notes) desk.now outcome)
      (Board.eventOf outcome) 0 =
        .notifying (Board.ended (job.noteAll notes) desk.now outcome)
          (Board.eventOf outcome) 0 := by
    rw [Board.tellingNext, accounted.heard]
    exact if_pos Nat.one_pos
  rw [telling] at advance
  have cited : ∀ {id}, (between.follow (.worker worker) run (.ended outcome notes)).Cited id →
      desk.Cited id ∨ run.question = id ∧ _ :=
    passage.cited_ended accounted.sound running handles.carries.faithful
  refine accounted.toStaffed.turned_advance advance (Or.inl handles.found) hands visits
    (fun other different => ⟨(ledger other).trans (apart other different), fun cites => ?_⟩)
    (.ends (Board.ended (job.noteAll notes) desk.now outcome) (Board.eventOf outcome)) rfl
    ⟨worker, advance.does⟩ fun matter keeps proper => ?_
  · rcases cited cites with before | ⟨mine, _, _, _, _, phase, _⟩
    · exact before
    · have named := handles.carries.question (by rw [phase]; rintro ⟨⟩)
      exact absurd (mine.symm.trans named) different
  · have standing := keeps.of_handling proper accounted.sound handles.does handles.found rfl
    have here : desk.ledger job.fingerprint = matter.ledger := keeps.ledger
    have fits := proper.fits
    rw [standing] at fits
    refine ⟨fun cites => ?_, ?_⟩
    · rcases cited cites with before | ⟨_, prepared, execution, chart, summary, _, rfl, rfl⟩
      · exact absurd before handles.uncited
      · cases fits with
        | handled processing bare blameless =>
          exact ⟨completed_of_value blameless _ _ _, (bare.noteAll (harmless_summary _)).unmarked⟩
    · rw [here] at quit
      rw [ledger]
      obtain ⟨visit, _, _⟩ := matter
      cases standing
      exact .ended rfl running passage went quit

/-- A run that goes on by one step develops the matter of its question. -/
theorem Accounted.turned_work (accounted : desk.Accounted) (runner : Runner)
    (response : Remote.Response) :
    desk.Turned (.act (.work runner response)) (desk.work runner response) := by
  rcases desk.work_cases runner response with same | ⟨run, next, between, running, passage, went⟩
  · rw [same]
    exact .of_eq accounted.toStaffed rfl rfl rfl rfl rfl
  · cases runner with
    | hand number =>
      obtain ⟨notes, found⟩ := run?_hand.mp running
      rw [accounted.handless] at found
      cases found
    | worker index =>
      cases next with
      | goOn next notes =>
        rw [went]
        exact accounted.turned_goOn running passage
      | ended outcome notes =>
        have turned := accounted.turned_ended running passage went
        rw [← went] at turned
        exact turned

end Work

end QuestionDesk.Desk
