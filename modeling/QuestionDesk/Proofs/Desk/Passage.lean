import QuestionDesk.Desk.Action

/-!
# Passages

A passage is one step of a run: the local code of a stage with the one call to the outside that goes
before it. `Passage` says for every phase which steps there are, what they need, what they note on
the job, and what they change at the desk; `work_cases` says that a run makes no other steps.
-/
namespace QuestionDesk

open Cache (QueryEntry)
open Pipeline (Next Prepared Run Runner)
open Remote (Execution PlannerAnswer)

/-- The key under which the tables know the question of a run. -/
def Pipeline.Run.question (run : Run) : String := run.questionId.shown

/-- The answer that a run gives to its query. -/
def Pipeline.Run.entry (run : Run) (execution : Execution) (chart : Fields) : QueryEntry :=
  ⟨run.question, execution.fields, chart, run.jobId⟩

namespace Desk

/-- The log entry that a plan was received. -/
def received (desk : Desk) (run : Run) (answer : PlannerAnswer) : Run :=
  run.logged desk.now .plan ("Plan received, fidelity " ++ answer.fidelity.fixed 2)

/-- One step of a run, given the response of the remote server where it calls one. -/
inductive Passage (desk : Desk) (runner : Runner) (run : Run) (response : Remote.Response) :
    Next → Desk → Prop where
  /-- The run looks at its job. -/
  | opened {questionId prompt : Value} (phase : run.phase = .opening)
    (named : run.payload.get? "question_id" = some questionId)
    (asked : run.payload.get? "user_prompt" = some prompt) :
    Passage desk runner run response
      (.goOn { run with questionId, prompt, phase := .planning } []) desk
  /-- The payload of the job lacks something. -/
  | unopened {key : String} (phase : run.phase = .opening)
    (lacking : run.payload.get? key = none) :
    Passage desk runner run response (run.fail desk.now .plan (.missingKey key) []) desk
  /-- The planner failed. -/
  | unplanned {failure : Failure} (phase : run.phase = .planning)
    (refused : Remote.Planner.readPlan desk.plannerUrl run.prompt response = .error failure) :
    Passage desk runner run response (run.fail desk.now .plan failure []) desk
  /-- The plan cannot be judged. -/
  | obstructed {answer : PlannerAnswer} {obstacle : Plan.Obstacle} (phase : run.phase = .planning)
    (read : Remote.Planner.readPlan desk.plannerUrl run.prompt response = .ok answer)
    (judged : desk.policy.safety.judge (.object answer.plan) (Run.report answer) = .error obstacle) :
    Passage desk runner run response
      ((desk.received run answer).fail desk.now .validate (.obstacle obstacle)
        [(Run.titleNote, Run.titleFor run.prompt answer)]) desk
  /-- The plan is rejected. -/
  | rejected {answer : PlannerAnswer} {rejection : Plan.Rejection} (phase : run.phase = .planning)
    (read : Remote.Planner.readPlan desk.plannerUrl run.prompt response = .ok answer)
    (judged :
      desk.policy.safety.judge (.object answer.plan) (Run.report answer) = .ok (some rejection)) :
    Passage desk runner run response
      (Run.fail
        { desk.received run answer with
          log := (desk.received run answer).log.add desk.now .validate
            ("Plan rejected: " ++ rejection.message) Pipeline.warningLevel }
        desk.now .validate (.abstention Run.abstentionMessage (some rejection.message))
        [(Run.titleNote, Run.titleFor run.prompt answer)]) desk
  /-- The plan cannot be turned into a query. -/
  | uncompiled {answer : PlannerAnswer} {failure : Failure} (phase : run.phase = .planning)
    (read : Remote.Planner.readPlan desk.plannerUrl run.prompt response = .ok answer)
    (judged : desk.policy.safety.judge (.object answer.plan) (Run.report answer) = .ok none)
    (compiled : Run.compile desk.policy answer.plan = .error failure) :
    Passage desk runner run response
      ((desk.received run answer).fail desk.now .compile failure
        [(Run.titleNote, Run.titleFor run.prompt answer)]) desk
  /-- The query that a plan stands for has no fingerprint. -/
  | unhashed {answer : PlannerAnswer} {sql : String} {flaw : Text.Flaw}
    (phase : run.phase = .planning)
    (read : Remote.Planner.readPlan desk.plannerUrl run.prompt response = .ok answer)
    (judged : desk.policy.safety.judge (.object answer.plan) (Run.report answer) = .ok none)
    (compiled : Run.compile desk.policy answer.plan = .ok sql) (flawed : Text.flaw? sql = some flaw) :
    Passage desk runner run response
      ((desk.received run answer).fail desk.now .compile (.unencodable flaw)
        [(Run.titleNote, Run.titleFor run.prompt answer)]) desk
  /-- The plan is turned into a query. -/
  | planned {answer : PlannerAnswer} {sql : String} (phase : run.phase = .planning)
    (read : Remote.Planner.readPlan desk.plannerUrl run.prompt response = .ok answer)
    (judged : desk.policy.safety.judge (.object answer.plan) (Run.report answer) = .ok none)
    (compiled : Run.compile desk.policy answer.plan = .ok sql) (whole : Text.flaw? sql = none) :
    Passage desk runner run response
      (.goOn
        { (desk.received run answer).logged desk.now .compile
            ("Compiled SQL " ++ Run.shortHash (queryFingerprint sql)) with
          phase := .queueing ⟨Run.titleFor run.prompt answer, answer.plan, sql,
            queryFingerprint sql⟩ }
        [(Run.titleNote, Run.titleFor run.prompt answer),
          (Run.hashNote, .text (queryFingerprint sql))]) desk
  /-- The turn of the run has come. -/
  | admitted {prepared : Prepared} (phase : run.phase = .queueing prepared)
    (turn : desk.turns.hasTurn prepared.hash runner = true) :
    Passage desk runner run response (.goOn { run with phase := .lookingUp prepared } []) desk
  /-- The query cannot be looked up. -/
  | unseen {prepared : Prepared} {failure : Failure} (phase : run.phase = .lookingUp prepared)
    (found : desk.store.findQuery desk.now prepared.hash = .error failure) :
    Passage desk runner run response (run.fail desk.now .dedup failure []) desk
  /-- The query has not been answered. -/
  | unknown {prepared : Prepared} (phase : run.phase = .lookingUp prepared)
    (found : desk.store.findQuery desk.now prepared.hash = .ok none) :
    Passage desk runner run response (.goOn { run with phase := .saving prepared } []) desk
  /-- The query has been answered for the question of the run itself. -/
  | recognised {prepared : Prepared} {entry : QueryEntry} {key : String}
    (phase : run.phase = .lookingUp prepared)
    (found : desk.store.findQuery desk.now prepared.hash = .ok (some entry))
    (own : Value.text entry.questionId = run.questionId) (keyed : Run.keyFor run.prompt = .ok key) :
    Passage desk runner run response
      (.goOn
        { run.logged desk.now .dedup ("SQL already answered by question " ++ entry.questionId) with
          phase := .repointing prepared entry } []) desk
  /-- The query has been answered for the question of the run itself, whose prompt has no
  fingerprint. -/
  | mistaken {prepared : Prepared} {entry : QueryEntry} {failure : Failure}
    (phase : run.phase = .lookingUp prepared)
    (found : desk.store.findQuery desk.now prepared.hash = .ok (some entry))
    (own : Value.text entry.questionId = run.questionId)
    (keyless : Run.keyFor run.prompt = .error failure) :
    Passage desk runner run response
      ((run.logged desk.now .dedup
        ("SQL already answered by question " ++ entry.questionId)).fail desk.now .dedup failure [])
      desk
  /-- The query has been answered for another question. -/
  | duplicated {prepared : Prepared} {entry : QueryEntry} (phase : run.phase = .lookingUp prepared)
    (found : desk.store.findQuery desk.now prepared.hash = .ok (some entry))
    (other : Value.text entry.questionId ≠ run.questionId) :
    Passage desk runner run response
      (.goOn
        { run.logged desk.now .dedup ("SQL already answered by question " ++ entry.questionId) with
          phase := .removing prepared entry } []) desk
  /-- The question cannot be removed. -/
  | unremoved {prepared : Prepared} {entry : QueryEntry} {failure : Failure}
    (phase : run.phase = .removing prepared entry)
    (done : (desk.database.deleteQuestion run.question).1 = .error failure) :
    Passage desk runner run response (run.fail desk.now .dedup failure [])
      { desk with database := (desk.database.deleteQuestion run.question).2 }
  /-- The question is removed. -/
  | removed {prepared : Prepared} {entry : QueryEntry} {key : String}
    (phase : run.phase = .removing prepared entry)
    (done : (desk.database.deleteQuestion run.question).1 = .ok ())
    (keyed : Run.keyFor run.prompt = .ok key) :
    Passage desk runner run response (.goOn { run with phase := .repointing prepared entry } [])
      { desk with database := (desk.database.deleteQuestion run.question).2 }
  /-- The question is removed, but its prompt has no fingerprint. -/
  | stranded {prepared : Prepared} {entry : QueryEntry} {failure : Failure}
    (phase : run.phase = .removing prepared entry)
    (done : (desk.database.deleteQuestion run.question).1 = .ok ())
    (keyless : Run.keyFor run.prompt = .error failure) :
    Passage desk runner run response (run.fail desk.now .dedup failure [])
      { desk with database := (desk.database.deleteQuestion run.question).2 }
  /-- The prompt cannot be pointed at the question that has the answer. -/
  | unpointed {prepared : Prepared} {entry : QueryEntry} {key : String} {failure : Failure}
    (phase : run.phase = .repointing prepared entry) (keyed : Run.keyFor run.prompt = .ok key)
    (done : desk.store.putPrompt desk.now desk.keepSeconds key (Run.pointer entry) =
      .error failure) :
    Passage desk runner run response (run.fail desk.now .dedup failure []) desk
  /-- The prompt is pointed at the question that has the answer. -/
  | repointed {prepared : Prepared} {entry : QueryEntry} {key : String} {store : Cache.Store}
    (phase : run.phase = .repointing prepared entry) (keyed : Run.keyFor run.prompt = .ok key)
    (done : desk.store.putPrompt desk.now desk.keepSeconds key (Run.pointer entry) = .ok store) :
    Passage desk runner run response
      (run.finish desk.now (.ok (Run.answerValue entry.result entry.chart))
        [(Run.duplicateNote, .bool true)]) { desk with store }
  /-- The query cannot be stored with the question. -/
  | unsaved {prepared : Prepared} {failure : Failure} (phase : run.phase = .saving prepared)
    (done : (desk.database.updateQuestion run.question (savedChanges prepared)).1 =
      .error failure) :
    Passage desk runner run response (run.fail desk.now .persist failure [])
      { desk with
        database := (desk.database.updateQuestion run.question (savedChanges prepared)).2 }
  /-- The query is stored with the question. -/
  | saved {prepared : Prepared} {question : Database.Question}
    (phase : run.phase = .saving prepared)
    (done : (desk.database.updateQuestion run.question (savedChanges prepared)).1 =
      .ok question) :
    Passage desk runner run response
      (.goOn
        { run.logged desk.now .persist ("Saved SQL for question " ++ run.question) with
          phase := .executing prepared } [])
      { desk with
        database := (desk.database.updateQuestion run.question (savedChanges prepared)).2 }
  /-- The query cannot be run. -/
  | unexecuted {prepared : Prepared} {failure : Failure} (phase : run.phase = .executing prepared)
    (refused : Remote.Executor.request? desk.executorUrl (.text prepared.sql) = .error failure ∨
      Remote.Executor.read desk.executorUrl response = .error failure) :
    Passage desk runner run response (run.fail desk.now .execute failure []) desk
  /-- The query was run. -/
  | executed {prepared : Prepared} {execution : Execution} (phase : run.phase = .executing prepared)
    (read : Remote.Executor.read desk.executorUrl response = .ok execution) :
    Passage desk runner run response
      (.goOn
        { run.logged desk.now .execute (Run.rowsText execution) with
          phase := .charting prepared execution } []) desk
  /-- No chart can be asked for or read. -/
  | uncharted {prepared : Prepared} {execution : Execution} {failure : Failure}
    (phase : run.phase = .charting prepared execution)
    (refused : Remote.Planner.chart desk.plannerUrl execution.rows response = .error failure) :
    Passage desk runner run response (run.fail desk.now .chart failure []) desk
  /-- A chart is chosen. -/
  | charted {prepared : Prepared} {execution : Execution} {chart : Fields}
    (phase : run.phase = .charting prepared execution)
    (chosen : Remote.Planner.chart desk.plannerUrl execution.rows response = .ok chart) :
    Passage desk runner run response
      (.goOn
        { run.logged desk.now .chart (Run.chartText chart) with
          phase := .storing prepared execution chart } []) desk
  /-- The answer cannot be remembered. -/
  | unstored {prepared : Prepared} {execution : Execution} {chart : Fields} {failure : Failure}
    (phase : run.phase = .storing prepared execution chart)
    (done : desk.rememberQuery prepared.hash run.questionId execution.fields chart run.jobId =
      .error failure) :
    Passage desk runner run response (run.fail desk.now .cache failure []) desk
  /-- The answer is remembered. -/
  | stored {prepared : Prepared} {execution : Execution} {chart : Fields} {store : Cache.Store}
    (phase : run.phase = .storing prepared execution chart)
    (named : run.questionId = .text run.question)
    (done : desk.store.putQuery desk.now desk.keepSeconds prepared.hash
      (run.entry execution chart) = .ok store) :
    Passage desk runner run response
      ((run.logged desk.now .cache
          ("Cached result for SQL " ++ Run.shortHash prepared.hash)).finish desk.now
        (.ok (Run.answerValue execution.fields chart)) []) { desk with store }

/-- A question whose key is a text has that key in the database. -/
theorem Run.question_eq {run : Run} {questionId : String}
    (named : run.questionId = .text questionId) : run.question = questionId := by
  rw [Run.question, named, Value.shown]

/-- What is given in a payload stands under its key. -/
theorem given_eq_ok_iff {payload : Fields} {key : String} {value : Value} :
    Run.given payload key = .ok value ↔ payload.get? key = some value := by
  unfold Run.given
  cases payload.get? key <;> simp

/-- What is not given in a payload does not stand under its key. -/
theorem lacks_of_given {payload : Fields} {key : String} {failure : Failure}
    (refused : Run.given payload key = .error failure) :
    failure = .missingKey key ∧ payload.get? key = none := by
  unfold Run.given at refused
  cases found : payload.get? key with
  | some value =>
    rw [found] at refused
    cases refused
  | none =>
    rw [found] at refused
    cases refused
    exact ⟨rfl, rfl⟩

/-- The fingerprint of a query is that of its text, and a query without one has a flaw. -/
theorem queryKey_cases (sql : String) :
    (Text.flaw? sql = none ∧ queryKey sql = .ok (queryFingerprint sql)) ∨
      ∃ flaw, Text.flaw? sql = some flaw ∧ queryKey sql = .error (.unencodable flaw) := by
  unfold queryKey
  cases Text.flaw? sql with
  | none => exact Or.inl ⟨rfl, rfl⟩
  | some flaw => exact Or.inr ⟨flaw, rfl, rfl⟩

/-- The answer to a query is remembered for a question that is a text. -/
theorem rememberQuery_eq_ok {desk : Desk} {run : Run} {hash : String} {execution : Execution}
    {chart : Fields} {store : Cache.Store}
    (done : desk.rememberQuery hash run.questionId execution.fields chart run.jobId = .ok store) :
    run.questionId = .text run.question ∧
      desk.store.putQuery desk.now desk.keepSeconds hash (run.entry execution chart) =
        .ok store := by
  unfold Run.entry Run.question
  unfold rememberQuery at done
  split at done
  · next same =>
    rw [same]
    exact ⟨rfl, done⟩
  · cases done

/-- A run that calls goes on with the reply to its call. -/
theorem work_of_call {desk : Desk} {runner : Runner} {response : Remote.Response} {run : Run}
    {call : Pipeline.Call} (running : desk.run? runner = some run) (calls : run.call? = some call) :
    desk.work runner response = (desk.perform call response).2.follow runner run
      (run.resume (desk.perform call response).2.policy (desk.perform call response).2.now
        (desk.perform call response).1) := by
  unfold Desk.work
  rw [running]
  simp only [calls]
  split
  · next phase => simp [Run.call?, phase] at calls
  · next phase => simp [Run.call?, phase] at calls
  · rfl

/-- A run looks at its job. -/
theorem passage_opening {desk : Desk} {runner : Runner} {run : Run} {response : Remote.Response}
    (phase : run.phase = .opening) :
    desk.Passage runner run response (run.opened desk.now) desk := by
  unfold Run.opened
  cases named : Run.given run.payload "question_id" with
  | error failure =>
    obtain ⟨rfl, lacking⟩ := lacks_of_given named
    exact .unopened phase lacking
  | ok questionId =>
    cases asked : Run.given run.payload "user_prompt" with
    | error failure =>
      obtain ⟨rfl, lacking⟩ := lacks_of_given asked
      exact .unopened phase lacking
    | ok prompt => exact .opened phase (given_eq_ok_iff.mp named) (given_eq_ok_iff.mp asked)

/-- A run that has its plan judges it and turns it into a query. -/
theorem passage_planned {desk : Desk} {runner : Runner} {run : Run} {response : Remote.Response}
    {answer : PlannerAnswer} (phase : run.phase = .planning)
    (read : Remote.Planner.readPlan desk.plannerUrl run.prompt response = .ok answer) :
    desk.Passage runner run response (Run.planned desk.policy run desk.now answer) desk := by
  unfold Run.planned
  cases judged : desk.policy.safety.judge (.object answer.plan) (Run.report answer) with
  | error obstacle => exact .obstructed phase read judged
  | ok verdict =>
    cases verdict with
    | some rejection => exact .rejected phase read judged
    | none =>
      cases compiled : Run.compile desk.policy answer.plan with
      | error failure => exact .uncompiled phase read judged compiled
      | ok sql =>
        rcases queryKey_cases sql with ⟨whole, keyed⟩ | ⟨flaw, flawed, keyed⟩
        · simp only [keyed]
          exact .planned phase read judged compiled whole
        · simp only [keyed]
          exact .unhashed phase read judged compiled flawed

/-- A run learns whether the query has been answered. -/
theorem passage_found {desk : Desk} {runner : Runner} {run : Run} {response : Remote.Response}
    {prepared : Prepared} {known : Option QueryEntry} (phase : run.phase = .lookingUp prepared)
    (found : desk.store.findQuery desk.now prepared.hash = .ok known) :
    desk.Passage runner run response (run.lookedUp desk.now prepared known) desk := by
  cases known with
  | none => exact .unknown phase found
  | some entry =>
    by_cases own : Value.text entry.questionId = run.questionId
    · simp only [Run.lookedUp, own, if_true, Run.point]
      cases keyed : Run.keyFor (run.logged desk.now .dedup
          ("SQL already answered by question " ++ entry.questionId)).prompt with
      | ok key => exact .recognised phase found own keyed
      | error failure => exact .mistaken phase found own keyed
    · simp only [Run.lookedUp, own, if_false]
      exact .duplicated phase found own

/-- A run that calls makes one of the passages of its phase. -/
theorem passage_of_call {desk : Desk} {runner : Runner} {run : Run} {response : Remote.Response}
    {call : Pipeline.Call} (calls : run.call? = some call) :
    desk.Passage runner run response
      (run.resume (desk.perform call response).2.policy (desk.perform call response).2.now
        (desk.perform call response).1) (desk.perform call response).2 := by
  unfold Run.call? at calls
  -- The phase says which call is made, and what comes of the call which passage it is.
  cases phase : run.phase with
  | opening => simp [phase] at calls
  | queueing prepared => simp [phase] at calls
  | planning =>
    simp only [phase, Option.some.injEq] at calls
    subst calls
    cases read : Remote.Planner.readPlan desk.plannerUrl run.prompt response with
    | error failure =>
      simp only [perform, read, Run.resume, phase]
      exact .unplanned phase read
    | ok answer =>
      simp only [perform, read, Run.resume, phase]
      exact passage_planned phase read
  | lookingUp prepared =>
    simp only [phase, Option.some.injEq] at calls
    subst calls
    cases found : desk.store.findQuery desk.now prepared.hash with
    | error failure =>
      simp only [perform, found, Run.resume, phase]
      exact .unseen phase found
    | ok entry =>
      simp only [perform, found, Run.resume, phase]
      exact passage_found phase found
  | removing prepared entry =>
    simp only [phase, Option.some.injEq] at calls
    subst calls
    cases done : (desk.database.deleteQuestion run.questionId.shown).1 with
    | error failure =>
      simp only [perform, done, replyOf, Run.resume, phase]
      exact .unremoved phase done
    | ok value =>
      simp only [perform, done, replyOf, Run.resume, phase, Run.point]
      cases keyed : Run.keyFor run.prompt with
      | ok key => exact .removed phase done keyed
      | error failure => exact .stranded phase done keyed
  | repointing prepared entry =>
    cases keyed : Run.keyFor run.prompt with
    | error failure => simp [phase, keyed, Except.toOption] at calls
    | ok key =>
      simp only [phase, keyed, Except.toOption, Option.map_some, Option.some.injEq] at calls
      subst calls
      cases done : desk.store.putPrompt desk.now desk.keepSeconds key (Run.pointer entry) with
      | error failure =>
        simp only [perform, done, Run.resume, phase]
        exact .unpointed phase keyed done
      | ok store =>
        simp only [perform, done, Run.resume, phase]
        exact .repointed phase keyed done
  | saving prepared =>
    simp only [phase, Option.some.injEq] at calls
    subst calls
    cases done : (desk.database.updateQuestion run.questionId.shown (savedChanges prepared)).1 with
    | error failure =>
      simp only [perform, done, replyOf, Run.resume, phase]
      exact .unsaved phase done
    | ok question =>
      simp only [perform, done, replyOf, Run.resume, phase]
      exact .saved phase done
  | executing prepared =>
    simp only [phase, Option.some.injEq] at calls
    subst calls
    cases asked : Remote.Executor.request? desk.executorUrl (.text prepared.sql) with
    | error failure =>
      simp only [perform, asked, Run.resume, phase]
      exact .unexecuted phase (Or.inl asked)
    | ok request =>
      cases read : Remote.Executor.read desk.executorUrl response with
      | error failure =>
        simp only [perform, asked, read, Run.resume, phase]
        exact .unexecuted phase (Or.inr read)
      | ok execution =>
        simp only [perform, asked, read, Run.resume, phase]
        exact .executed phase read
  | charting prepared execution =>
    simp only [phase, Option.some.injEq] at calls
    subst calls
    cases chosen : Remote.Planner.chart desk.plannerUrl execution.rows response with
    | error failure =>
      simp only [perform, chosen, Run.resume, phase]
      exact .uncharted phase chosen
    | ok chart =>
      simp only [perform, chosen, Run.resume, phase]
      exact .charted phase chosen
  | storing prepared execution chart =>
    simp only [phase, Option.some.injEq] at calls
    subst calls
    cases done : desk.rememberQuery prepared.hash run.questionId execution.fields chart
        run.jobId with
    | error failure =>
      simp only [perform, done, Run.resume, phase]
      exact .unstored phase done
    | ok store =>
      simp only [perform, done, Run.resume, phase]
      obtain ⟨named, put⟩ := rememberQuery_eq_ok done
      exact .stored phase named put

/-- A run that goes on makes one of the passages of its phase, unless it has to wait. -/
theorem work_cases (desk : Desk) (runner : Runner) (response : Remote.Response) :
    desk.work runner response = desk ∨ ∃ run next after, desk.run? runner = some run ∧
      desk.Passage runner run response next after ∧
        desk.work runner response = after.follow runner run next := by
  cases running : desk.run? runner with
  | none =>
    left
    simp [Desk.work, running]
  | some run =>
    cases calls : run.call? with
    | some call =>
      exact Or.inr ⟨run, _, _, rfl, passage_of_call calls, work_of_call running calls⟩
    | none =>
      cases phase : run.phase with
      | opening =>
        refine Or.inr ⟨run, _, _, rfl, passage_opening phase, ?_⟩
        simp [Desk.work, running, phase]
      | queueing prepared =>
        cases turn : desk.turns.hasTurn prepared.hash runner with
        | false =>
          left
          simp [Desk.work, running, phase, turn]
        | true =>
          refine Or.inr ⟨run, _, _, rfl, .admitted phase turn, ?_⟩
          simp [Desk.work, running, phase, turn, Run.admitted, Run.goTo]
      | repointing prepared entry =>
        left
        simp [Desk.work, running, phase, calls]
      | _ => simp [Run.call?, phase] at calls

end Desk

end QuestionDesk
