import QuestionDesk.Proofs.Desk.Reasons
import QuestionDesk.Proofs.Pipeline.Logs

/-!
# Scripts

The script of a job is the list of calls that are made for it, with what they come to, when none of
them fails. Every step of a run is the next one of a script, or ends the run: with the last call of
the script, with a call that fails, or with a refusal.
-/
namespace QuestionDesk.Pipeline

open Cache (QueryEntry)
open Remote (Execution PlannerAnswer)

/-! ## Calls and what comes of them -/

/-- What a call gives that does not fail. -/
inductive Call.Gives : Call → Reply → Prop where
  /-- The planner answers. -/
  | planned {prompt : Value} (answer : PlannerAnswer) : Gives (.plan prompt) (.planned answer)
  /-- The answer to a query is looked up. -/
  | found {hash : String} (known : Option QueryEntry) : Gives (.findQuery hash) (.found known)
  /-- A question is removed. -/
  | removed {questionId : Value} : Gives (.deleteQuestion questionId) .done
  /-- A prompt is pointed at a question. -/
  | pointed {fingerprint : String} {entry : Cache.PromptEntry} :
    Gives (.rememberPrompt fingerprint entry) .done
  /-- A query is stored. -/
  | saved {questionId : Value} {prepared : Prepared} :
    Gives (.updateQuestion questionId prepared) .done
  /-- A query is run. -/
  | executed {sql : String} (execution : Execution) : Gives (.execute sql) (.executed execution)
  /-- A chart is chosen. -/
  | charted {rows : List Fields} (chart : Fields) : Gives (.chart rows) (.charted chart)
  /-- An answer is remembered. -/
  | stored {hash jobId : String} {questionId : Value} {result chart : Fields} :
    Gives (.rememberQuery hash questionId result chart jobId) .done

/-- What can come of a call: what it gives, or any failure. -/
def Call.Takes (call : Call) (reply : Reply) : Prop :=
  call.Gives reply ∨ ∃ failure, reply = .failed failure

/-- The stage in which a call is made. -/
def Call.stage : Call → Stage
  | .plan _ => .plan
  | .findQuery _ | .deleteQuestion _ | .rememberPrompt _ _ => .dedup
  | .updateQuestion _ _ => .persist
  | .execute _ => .execute
  | .chart _ => .chart
  | .rememberQuery .. => .cache

/-- A run that makes a call is in the stage of the call. -/
theorem Run.stage_of_call {run : Run} {call : Call} (calls : run.call? = some call) :
    run.phase.stage = call.stage := by
  unfold Run.call? at calls
  split at calls
  case h_6 prepared known phase =>
    obtain ⟨key, -, rfl⟩ := Option.map_eq_some_iff.mp calls
    rw [phase]
    rfl
  all_goals
    cases calls
  all_goals
    next phase => rw [phase]; rfl

/-- What a run does when its call has come to something. A call that is cancelled cuts the run
off. -/
def Run.receive (policy : Policy) (run : Run) (now : Micros) (reply : Reply) : Next :=
  if reply = .failed .cancelled then .ended (.error .cancelled) (run.cutOff now)
  else run.resume policy now reply

/-- A step of a run: the calls that are made in it, each with what came of it, and what the run does
next. -/
inductive Steps (policy : Policy) (run : Run) : List (Call × Reply) → Next → Prop where
  /-- The run looks at its job. -/
  | opens (opening : run.phase = .opening) (now : Micros) : Steps policy run [] (run.opened now)
  /-- The turn of the run has come. -/
  | admitted {prepared : Prepared} (queueing : run.phase = .queueing prepared) :
    Steps policy run [] run.admitted
  /-- The run is cut off while it waits for its turn. -/
  | abandoned {prepared : Prepared} (queueing : run.phase = .queueing prepared) (now : Micros) :
    Steps policy run [] (.ended (.error .cancelled) (run.cutOff now))
  /-- The run makes a call. -/
  | calls {call : Call} {reply : Reply} (calls : run.call? = some call) (takes : call.Takes reply)
    (now : Micros) : Steps policy run [(call, reply)] (run.receive policy now reply)

/-- How a job is processed from what its run does next: the calls that are made, each with what came
of it, what is noted on the job in order, and how far the job has come. -/
inductive Plays (policy : Policy) :
    Next → List (Call × Reply) → Fields → HandPhase → Prop where
  /-- It has come this far. -/
  | paused (run : Run) (notes : Fields) : Plays policy (.goOn run notes) [] notes (.running run)
  /-- It has come to its end. -/
  | closed (outcome : Except Failure Value) (notes : Fields) :
    Plays policy (.ended outcome notes) [] notes (.ended outcome)
  /-- The run takes a step. -/
  | step (notes : Fields) {run : Run} {pairs made : List (Call × Reply)} {next : Next}
    {later : Fields} {phase : HandPhase} (steps : Steps policy run pairs next)
    (rest : Plays policy next made later phase) :
    Plays policy (.goOn run notes) (pairs ++ made) (notes ++ later) phase

/-! ## Scripts -/

/-- What the calls for a job come to when none of them fails. -/
structure Answers where
  /-- The answer of the planner. -/
  plan : PlannerAnswer
  /-- The answer to the query, if it has been answered. -/
  known : Option QueryEntry
  /-- What running the query gives. -/
  execution : Execution
  /-- The chart that is chosen. -/
  chart : Fields

instance : Inhabited Answers where
  default :=
    { plan := { plan := [], title := none, fidelity := default, abstain := false }
      known := none
      execution := { rows := [], metadata := [] }
      chart := [] }

/-- The question and the prompt in a payload. -/
def asked (payload : Fields) : Except Failure (Value × Value) := do
  let questionId ← Run.given payload "question_id"
  let prompt ← Run.given payload "user_prompt"
  return (questionId, prompt)

/-- The query that an answer of the planner becomes, or the stage that refuses it and why. A query
without a fingerprint is refused by the stage that made it. -/
def preparation (policy : Policy) (prompt : Value) (answer : PlannerAnswer) :
    Except (Stage × Failure) Prepared :=
  match policy.safety.judge (.object answer.plan) (Run.report answer) with
  | .error obstacle => .error (.validate, .obstacle obstacle)
  | .ok (some rejection) =>
    .error (.validate, .abstention Run.abstentionMessage (some rejection.message))
  | .ok none =>
    match Run.compile policy answer.plan with
    | .error failure => .error (.compile, failure)
    | .ok sql =>
      match queryKey sql with
      | .error failure => .error (.compile, failure)
      | .ok hash => .ok { title := Run.titleFor prompt answer, plan := answer.plan, sql, hash }

section

variable (policy : Policy) (answers : Answers) (jobId : String) (questionId prompt : Value)

/-- The last call for a duplicate. There is none when the prompt has no fingerprint. -/
def pointingCalls (known : QueryEntry) : List (Call × Reply) :=
  match Run.keyFor prompt with
  | .ok key => [(.rememberPrompt key (Run.pointer known), .done)]
  | .error _ => []

/-- The calls when the query has been answered: the question is removed, unless the answer is its
own, and the prompt is pointed at the question that has the answer. -/
def hitCalls (known : QueryEntry) : List (Call × Reply) :=
  (if Value.text known.questionId = questionId then [] else [(.deleteQuestion questionId, .done)]) ++
    pointingCalls prompt known

/-- The calls when the query has not been answered. -/
def missCalls (prepared : Prepared) (execution : Execution) (chart : Fields) :
    List (Call × Reply) :=
  [(.updateQuestion questionId prepared, .done), (.execute prepared.sql, .executed execution),
    (.chart execution.rows, .charted chart),
    (.rememberQuery prepared.hash questionId execution.fields chart jobId, .done)]

/-- The calls from the lookup of the query on. -/
def lookupCalls (prepared : Prepared) : List (Call × Reply) :=
  (.findQuery prepared.hash, .found answers.known) ::
    match answers.known with
    | some known => hitCalls questionId prompt known
    | none => missCalls jobId questionId prepared answers.execution answers.chart

/-- The calls from the planner on. There is no other when the plan is refused. -/
def planCalls : List (Call × Reply) :=
  (.plan prompt, .planned answers.plan) ::
    match preparation policy prompt answers.plan with
    | .error _ => []
    | .ok prepared => lookupCalls answers jobId questionId prompt prepared

/-- The calls that are made for a job when none of them fails. There is none when the payload lacks
something. -/
def script (payload : Fields) : List (Call × Reply) :=
  match asked payload with
  | .error _ => []
  | .ok (questionId, prompt) => planCalls policy answers jobId questionId prompt

/-- How a run ends whose query has been answered when no call fails. A prompt without a fingerprint
is refused. -/
def hitVerdict (known : QueryEntry) : Except (Stage × Failure) Value :=
  match Run.keyFor prompt with
  | .ok _ => .ok (Run.answerValue known.result known.chart)
  | .error failure => .error (.dedup, failure)

/-- How a run ends whose query is looked up when no call fails. -/
def lookupVerdict : Except (Stage × Failure) Value :=
  match answers.known with
  | some known => hitVerdict prompt known
  | none => .ok (Run.answerValue answers.execution.fields answers.chart)

/-- How a run ends that asks the planner when no call fails. -/
def planVerdict : Except (Stage × Failure) Value :=
  match preparation policy prompt answers.plan with
  | .error refusal => .error refusal
  | .ok _ => lookupVerdict answers prompt

/-- How a job ends when no call fails: with a value, or refused at a stage. -/
def verdict (payload : Fields) : Except (Stage × Failure) Value :=
  match asked payload with
  | .error failure => .error (.plan, failure)
  | .ok (_, prompt) => planVerdict policy answers prompt

end

namespace Run

/-- The calls that a run has still to make when none of them fails. -/
def ahead (policy : Policy) (answers : Answers) (run : Run) : List (Call × Reply) :=
  match run.phase with
  | .opening => script policy answers run.jobId run.payload
  | .planning => planCalls policy answers run.jobId run.questionId run.prompt
  | .queueing prepared | .lookingUp prepared =>
    lookupCalls answers run.jobId run.questionId run.prompt prepared
  | .removing _ known =>
    (.deleteQuestion run.questionId, .done) :: pointingCalls run.prompt known
  | .repointing _ known => pointingCalls run.prompt known
  | .saving prepared => missCalls run.jobId run.questionId prepared answers.execution answers.chart
  | .executing prepared =>
    (missCalls run.jobId run.questionId prepared answers.execution answers.chart).drop 1
  | .charting prepared execution =>
    (missCalls run.jobId run.questionId prepared execution answers.chart).drop 2
  | .storing prepared execution chart =>
    (missCalls run.jobId run.questionId prepared execution chart).drop 3

/-- How a run ends when no call fails. -/
def verdict (policy : Policy) (answers : Answers) (run : Run) : Except (Stage × Failure) Value :=
  match run.phase with
  | .opening => Pipeline.verdict policy answers run.payload
  | .planning => planVerdict policy answers run.prompt
  | .queueing _ | .lookingUp _ => lookupVerdict answers run.prompt
  | .removing _ known | .repointing _ known => hitVerdict run.prompt known
  | .saving _ | .executing _ => .ok (answerValue answers.execution.fields answers.chart)
  | .charting _ execution => .ok (answerValue execution.fields answers.chart)
  | .storing _ execution chart => .ok (answerValue execution.fields chart)

end Run

/-- The calls that were made against a script and how it ends: how far the job has come with them,
and at which stage it has failed. -/
inductive Keeps (script : List (Call × Reply)) (verdict : Except (Stage × Failure) Value) :
    List (Call × Reply) → HandPhase → Option Stage → Prop where
  /-- The calls so far came to what the script says, and the run goes on. -/
  | running {made later : List (Call × Reply)} {run : Run} (sofar : script = made ++ later) :
    Keeps script verdict made (.running run) none
  /-- All calls were made, and the run has returned a value. -/
  | answered {value : Value} (ending : verdict = .ok value) :
    Keeps script verdict script (.ended (.ok value)) none
  /-- All calls were made, and the run was refused by a stage. -/
  | refused {stage : Stage} {failure : Failure} (ending : verdict = .error (stage, failure))
    (alive : failure ≠ .cancelled) :
    Keeps script verdict script (.ended (.error failure)) (some stage)
  /-- The next call of the script failed, and the run ended with its failure. -/
  | failed {made later : List (Call × Reply)} {call : Call} {reply : Reply} {failure : Failure}
    (sofar : script = made ++ (call, reply) :: later) :
    Keeps script verdict (made ++ [(call, .failed failure)]) (.ended (.error failure))
      (some call.stage)
  /-- The run was cut off while it waited for its turn to look up its query. -/
  | abandoned {made later : List (Call × Reply)} {hash : String} {reply : Reply}
    (sofar : script = made ++ (.findQuery hash, reply) :: later) :
    Keeps script verdict made (.ended (.error .cancelled)) none

/-- The same calls in front of both. -/
theorem Keeps.behind {script made : List (Call × Reply)}
    {verdict : Except (Stage × Failure) Value} {phase : HandPhase} {fault : Option Stage}
    (keeps : Keeps script verdict made phase fault) (pairs : List (Call × Reply)) :
    Keeps (pairs ++ script) verdict (pairs ++ made) phase fault := by
  cases keeps with
  | running sofar => exact .running (by rw [sofar, List.append_assoc])
  | answered ending => exact .answered ending
  | refused ending alive => exact .refused ending alive
  | failed sofar =>
    rw [← List.append_assoc]
    exact .failed (by rw [sofar, List.append_assoc])
  | abandoned sofar => exact .abandoned (by rw [sofar, List.append_assoc])

/-- What is noted on a job when a call has come to something. -/
def noted (policy : Policy) : Call × Reply → Fields
  | (.plan prompt, .planned answer) =>
    (Run.titleNote, Run.titleFor prompt answer) ::
      match preparation policy prompt answer with
      | .error _ => []
      | .ok prepared => [(Run.hashNote, .text prepared.hash)]
  | (.rememberPrompt _ _, .done) => [(Run.duplicateNote, .bool true)]
  | _ => []

/-- The stages that have an ordinary entry in the log when a call has come to something. -/
def passed (policy : Policy) : Call × Reply → List Stage
  | (.plan prompt, .planned answer) =>
    .plan ::
      match policy.safety.judge (.object answer.plan) (Run.report answer) with
      | .error _ => []
      | .ok (some _) => [.validate]
      | .ok none =>
        match preparation policy prompt answer with
        | .error _ => []
        | .ok _ => [.compile]
  | (.findQuery _, .found (some _)) => [.dedup]
  | (.updateQuestion _ _, .done) => [.persist]
  | (.execute _, .executed _) => [.execute]
  | (.chart _, .charted _) => [.chart]
  | (.rememberQuery .., .done) => [.cache]
  | _ => []

/-! ## One step -/

/-- How many steps are left to a run in a phase at most. -/
def Phase.stepsLeft : Phase → Nat
  | .opening => 8
  | .planning => 7
  | .queueing _ => 6
  | .lookingUp _ => 5
  | .saving _ => 4
  | .executing _ => 3
  | .removing _ _ | .charting _ _ => 2
  | .repointing _ _ | .storing _ _ _ => 1

/-- A run that is about to point its prompt at a question knows the fingerprint of the prompt. -/
def Run.Pointed (run : Run) : Prop :=
  ∀ prepared known, run.phase = .repointing prepared known → ∃ key, keyFor run.prompt = .ok key

/-- How a step that makes some calls stands to the script of a run: the run goes on with what is
left of the script and is nearer to its end, or it has ended, and its last note is the summary of
its log. -/
inductive Advances (policy : Policy) (run : Run) (pairs : List (Call × Reply)) : Next → Prop where
  /-- The run goes on. -/
  | goesOn {next : Run} {notes : Fields}
    (nearer : next.phase.stepsLeft < run.phase.stepsLeft) (pointed : next.Pointed)
    (grows : run.log.Grows next.log (pairs.flatMap (passed policy)))
    (notes_eq : notes = pairs.flatMap (noted policy))
    (left : ∀ answers, ∃ earlier, run.ahead policy earlier = pairs ++ next.ahead policy answers ∧
      run.verdict policy earlier = next.verdict policy answers) :
    Advances policy run pairs (.goOn next notes)
  /-- The run has ended. -/
  | ends (answers : Answers) {outcome : Except Failure Value} {notes : Fields} {last log : Log}
    {now : Micros} {fault : Option Stage}
    (notes_eq : notes = pairs.flatMap (noted policy) ++ [(Run.summaryNote, log.summary now)])
    (keeps : Keeps (run.ahead policy answers) (run.verdict policy answers) pairs (.ended outcome)
      fault)
    (grows : run.log.Grows last (pairs.flatMap (passed policy)))
    (closes : last.Closes log fault outcome) :
    Advances policy run pairs (.ended outcome notes)

namespace Run

variable {policy : Policy} {run : Run}

/-- A run that fails at a stage, where its script ends with the refusal of the stage. -/
theorem fail_advances (answers : Answers) {pairs : List (Call × Reply)} {stage : Stage}
    {failure : Failure} {failing : Run} {notes : Fields} (now : Micros)
    (notes_eq : notes = pairs.flatMap (noted policy))
    (grows : run.log.Grows failing.log (pairs.flatMap (passed policy)))
    (alive : failure ≠ .cancelled) (script : run.ahead policy answers = pairs)
    (ending : run.verdict policy answers = .error (stage, failure)) :
    Advances policy run pairs (failing.fail now stage failure notes) := by
  refine .ends answers (by rw [notes_eq]) ?_ grows (.failed now stage alive)
  rw [← script]
  exact .refused ending alive

/-- A run that returns a value, where its script ends with it. -/
theorem finish_advances (answers : Answers) {pairs : List (Call × Reply)} {value : Value}
    {finishing : Run} {notes : Fields} (now : Micros)
    (notes_eq : notes = pairs.flatMap (noted policy))
    (grows : run.log.Grows finishing.log (pairs.flatMap (passed policy)))
    (script : run.ahead policy answers = pairs)
    (ending : run.verdict policy answers = .ok value) :
    Advances policy run pairs (finishing.finish now (.ok value) notes) := by
  refine .ends answers (by rw [notes_eq]) ?_ grows (.returned value)
  rw [← script]
  exact .answered ending

/-- What a payload lacks is a key. -/
theorem asked_eq_error {payload : Fields} {failure : Failure}
    (lacks : asked payload = .error failure) : ∃ key, payload.get? key = none ∧
      failure = .missingKey key := by
  unfold asked given at lacks
  cases named : payload.get? "question_id" with
  | none =>
    simp only [named, bind, Except.bind] at lacks
    cases lacks
    exact ⟨_, named, rfl⟩
  | some questionId =>
    cases given : payload.get? "user_prompt" with
    | none =>
      simp only [named, given, bind, Except.bind] at lacks
      cases lacks
      exact ⟨_, given, rfl⟩
    | some prompt =>
      simp only [named, given, bind, Except.bind, pure, Except.pure] at lacks
      cases lacks

/-- A run looks at its job. -/
theorem opened_advances (opening : run.phase = .opening) (now : Micros) :
    Advances policy run [] (run.opened now) := by
  cases said : asked run.payload with
  | ok pair =>
    have known : run.opened now =
        { run with questionId := pair.1, prompt := pair.2 }.goTo .planning := by
      unfold asked at said
      rw [opened, said]
    rw [known]
    refine .goesOn (by simp [opening, Phase.stepsLeft]) (by rintro _ _ ⟨⟩) (.refl _) rfl
      fun answers => ⟨answers, ?_, ?_⟩
    · simp only [ahead, opening, script, said, List.nil_append]
    · simp only [verdict, opening, Pipeline.verdict, said]
  | error failure =>
    have known : run.opened now = run.fail now .plan failure [] := by
      unfold asked at said
      rw [opened, said]
    rw [known]
    obtain ⟨key, -, rfl⟩ := asked_eq_error said
    refine fail_advances default now rfl (.refl _) nofun ?_ ?_
    · simp only [ahead, opening, script, said]
    · simp only [verdict, opening, Pipeline.verdict, said]

/-- The turn of a run has come. -/
theorem admitted_advances {prepared : Prepared} (queueing : run.phase = .queueing prepared) :
    Advances policy run [] run.admitted := by
  simp only [admitted, queueing]
  refine .goesOn (by simp [queueing, Phase.stepsLeft]) (by rintro _ _ ⟨⟩) (.refl _) rfl
    fun answers => ⟨answers, ?_, ?_⟩
  · simp only [ahead, queueing, List.nil_append]
  · simp only [verdict, queueing]

/-- A call that points a prompt has the fingerprint of the prompt. -/
theorem pointed_of_call {prompt : Value} {known : QueryEntry} {call : Call}
    (calls : (keyFor prompt).toOption.map (fun key => Call.rememberPrompt key (pointer known)) =
      some call) : ∃ key, keyFor prompt = .ok key ∧ call = .rememberPrompt key (pointer known) := by
  cases keyed : keyFor prompt with
  | error failure =>
    rw [keyed] at calls
    cases calls
  | ok key =>
    rw [keyed] at calls
    cases calls
    exact ⟨key, rfl, rfl⟩

/-- A run that has a call to make has it next in its script. -/
theorem ahead_of_call (policy : Policy) {call : Call} (calls : run.call? = some call)
    (answers : Answers) : ∃ reply later, run.ahead policy answers = (call, reply) :: later := by
  unfold call? at calls
  unfold ahead
  cases phase : run.phase with
  | repointing prepared known =>
    rw [phase] at calls
    obtain ⟨key, keyed, rfl⟩ := pointed_of_call calls
    simp only [pointingCalls, keyed]
    exact ⟨_, _, rfl⟩
  | _ => rw [phase] at calls; cases calls <;> exact ⟨_, _, rfl⟩

/-- The planner has answered: the plan is refused, or it becomes a query. -/
theorem planned_advances (planning : run.phase = .planning) (now : Micros)
    (answer : PlannerAnswer) :
    Advances policy run [(.plan run.prompt, .planned answer)]
      (planned policy run now answer) := by
  let answers : Answers := { (default : Answers) with plan := answer }
  have outset : run.ahead policy answers = planCalls policy answers run.jobId run.questionId
      run.prompt := by simp only [ahead, planning]
  have ending : run.verdict policy answers = planVerdict policy answers run.prompt := by
    simp only [verdict, planning]
  have received : ∀ message, run.log.Grows (run.logged now .plan message).log [.plan] :=
    fun message => run.log.grows_add now .plan message (by decide)
  -- A plan that is refused is noted with its title only, and there is nothing left to call.
  have refusal : ∀ {stage failure} {failing : Run} {stages : List Stage},
      preparation policy run.prompt answer = .error (stage, failure) → failure ≠ .cancelled →
        run.log.Grows failing.log stages →
          stages = passed policy (.plan run.prompt, .planned answer) →
            Advances policy run [(.plan run.prompt, .planned answer)]
              (failing.fail now stage failure [(titleNote, titleFor run.prompt answer)]) := by
    intro stage failure failing stages refused alive grows stages_eq
    refine fail_advances answers now ?_ ?_ alive ?_ ?_
    · simp only [List.flatMap_cons, List.flatMap_nil, noted, refused, List.append_nil]
    · rw [stages_eq] at grows
      rwa [List.flatMap_cons, List.flatMap_nil, List.append_nil]
    · rw [outset, planCalls]
      simp only [answers, refused]
    · rw [ending, planVerdict]
      simp only [answers, refused]
  unfold planned
  cases judged : policy.safety.judge (.object answer.plan) (report answer) with
  | error obstacle =>
    exact refusal (by simp only [preparation, judged]) nofun (received _)
      (by simp only [passed, judged])
  | ok judgement =>
    cases judgement with
    | some rejection =>
      exact refusal (by simp only [preparation, judged]) nofun
        ((received _).trans (Log.grows_add _ now .validate _ (by decide)))
        (by simp only [passed, judged, List.cons_append, List.nil_append])
    | none =>
      cases compiled : compile policy answer.plan with
      | error failure =>
        have refused : preparation policy run.prompt answer = .error (.compile, failure) := by
          simp only [preparation, judged, compiled]
        exact refusal refused (Desk.tells_of_compile compiled).alive (received _)
          (by simp only [passed, judged, refused])
      | ok sql =>
        cases hashed : queryKey sql with
        | error failure =>
          have refused : preparation policy run.prompt answer = .error (.compile, failure) := by
            simp only [preparation, judged, compiled, hashed]
          simp only [hashed]
          exact refusal refused (Desk.tells_of_queryKey hashed).alive (received _)
            (by simp only [passed, judged, refused])
        | ok hash =>
          have prepared : preparation policy run.prompt answer =
              .ok ⟨titleFor run.prompt answer, answer.plan, sql, hash⟩ := by
            simp only [preparation, judged, compiled, hashed]
          simp only [hashed]
          refine .goesOn (by simp [planning, Phase.stepsLeft]) (by rintro _ _ ⟨⟩) ?_ ?_
            fun answers => ⟨{ answers with plan := answer }, ?_, ?_⟩
          · simp only [List.flatMap_cons, List.flatMap_nil, passed, judged, prepared,
              List.append_nil]
            exact (received _).trans (Log.grows_add _ now .compile _ (by decide))
          · simp only [List.flatMap_cons, List.flatMap_nil, noted, prepared, List.append_nil]
            rfl
          · simp only [ahead, planning, planCalls, prepared, lookupCalls, List.cons_append,
              List.nil_append]
            rfl
          · simp only [verdict, planning, planVerdict, prepared, lookupVerdict]
            rfl

/-- A run points its prompt at the question that has the answer, where its script says so. -/
theorem point_advances (answers : Answers) {pairs : List (Call × Reply)} {pointing : Run}
    {prepared : Prepared} {known : QueryEntry} (now : Micros)
    (prompt : pointing.prompt = run.prompt) (nearer : 1 < run.phase.stepsLeft)
    (notes_eq : [] = pairs.flatMap (noted policy))
    (grows : run.log.Grows pointing.log (pairs.flatMap (passed policy)))
    (script : run.ahead policy answers = pairs ++ pointingCalls run.prompt known)
    (ending : run.verdict policy answers = hitVerdict run.prompt known) :
    Advances policy run pairs (pointing.point now prepared known) := by
  unfold point
  cases keyed : keyFor pointing.prompt with
  | ok key =>
    refine .goesOn nearer (fun _ _ _ => ⟨key, keyed⟩) grows notes_eq fun _ => ⟨answers, ?_, ?_⟩
    · rw [script, ← prompt]
      rfl
    · rw [ending, ← prompt]
      rfl
  | error failure =>
    have silent : pointingCalls run.prompt known = [] := by
      rw [pointingCalls, ← prompt]
      simp only [keyed]
    refine fail_advances answers now notes_eq grows (Desk.tells_of_keyFor keyed).alive ?_ ?_
    · rw [script, silent, List.append_nil]
    · rw [ending, hitVerdict, ← prompt]
      simp only [keyed]

/-- The store has looked the query up. -/
theorem lookedUp_advances {prepared : Prepared} (phase : run.phase = .lookingUp prepared)
    (now : Micros) (known : Option QueryEntry) :
    Advances policy run [(.findQuery prepared.hash, .found known)]
      (run.lookedUp now prepared known) := by
  cases known with
  | none =>
    refine .goesOn (by simp [phase, Phase.stepsLeft]) (by rintro _ _ ⟨⟩) (.refl _) rfl
      fun answers => ⟨{ answers with known := none }, ?_, ?_⟩
    · simp only [ahead, phase, lookupCalls, List.cons_append, List.nil_append]
    · simp only [verdict, phase, lookupVerdict]
  | some entry =>
    have told : run.log.Grows (run.logged now .dedup
        ("SQL already answered by question " ++ entry.questionId)).log [.dedup] :=
      run.log.grows_add now .dedup _ (by decide)
    simp only [lookedUp]
    split
    · next own =>
      refine point_advances { (default : Answers) with known := some entry } now rfl
        (by simp [phase, Phase.stepsLeft]) rfl told ?_ ?_
      · simp only [ahead, phase, lookupCalls, hitCalls, own, if_true, List.cons_append,
          List.nil_append]
      · simp only [verdict, phase, lookupVerdict]
    · next foreign =>
      refine .goesOn (by simp [phase, Phase.stepsLeft]) (by rintro _ _ ⟨⟩) told rfl
        fun answers => ⟨{ answers with known := some entry }, ?_, ?_⟩
      · simp only [ahead, phase, lookupCalls, hitCalls, foreign, if_false, List.cons_append,
          List.nil_append]
        rfl
      · simp only [verdict, phase, lookupVerdict]
        rfl

/-- A call has failed: it is the last one, and its failure is what the run ends with. -/
theorem failed_advances {call : Call} (calls : run.call? = some call) (now : Micros)
    (failure : Failure) :
    Advances policy run [(call, .failed failure)] (run.receive policy now (.failed failure)) := by
  obtain ⟨reply, later, next⟩ := ahead_of_call policy calls default
  have silent : [(call, Reply.failed failure)].flatMap (noted policy) = [] := by
    cases call <;> rfl
  have still : [(call, Reply.failed failure)].flatMap (passed policy) = [] := by
    cases call <;> rfl
  have keeps : Keeps (run.ahead policy default) (run.verdict policy default)
      [(call, .failed failure)] (.ended (.error failure)) (some call.stage) :=
    @Keeps.failed _ _ [] _ _ _ _ next
  by_cases cancelled : failure = .cancelled
  · subst cancelled
    rw [receive, if_pos rfl, cutOff]
    exact .ends default (by rw [silent]; rfl) keeps (by rw [still]; exact .refl _) (.cancelled _)
  · rw [receive, if_neg fun same => cancelled (Reply.failed.inj same)]
    have fails : run.resume policy now (.failed failure) =
        run.fail now run.phase.stage failure [] := by
      simp only [resume]
    rw [fails, stage_of_call calls]
    exact .ends default (by rw [silent]) keeps (by rw [still]; exact .refl _)
      (.failed now call.stage cancelled)

/-- A call has given something. -/
theorem resume_advances {call : Call} {reply : Reply} (calls : run.call? = some call)
    (gives : call.Gives reply) (now : Micros) :
    Advances policy run [(call, reply)] (run.resume policy now reply) := by
  have logs : ∀ stage message, run.log.Grows (run.logged now stage message).log [stage] :=
    fun stage message => run.log.grows_add now stage message (by decide)
  unfold call? at calls
  -- In each phase what is ahead begins with its call, and the run goes on with the others.
  cases phase : run.phase with
  | opening => rw [phase] at calls; cases calls
  | queueing prepared => rw [phase] at calls; cases calls
  | planning =>
    rw [phase] at calls
    obtain rfl := Option.some.inj calls
    cases gives with
    | planned answer =>
      simp only [resume, phase]
      exact planned_advances phase now answer
  | lookingUp prepared =>
    rw [phase] at calls
    obtain rfl := Option.some.inj calls
    cases gives with
    | found known =>
      simp only [resume, phase]
      exact lookedUp_advances phase now known
  | removing prepared known =>
    rw [phase] at calls
    obtain rfl := Option.some.inj calls
    cases gives
    simp only [resume, phase]
    refine point_advances default now rfl (by simp [phase, Phase.stepsLeft]) rfl (.refl _) ?_ ?_
    · simp only [ahead, phase, List.cons_append, List.nil_append]
    · simp only [verdict, phase]
  | repointing prepared known =>
    rw [phase] at calls
    obtain ⟨key, keyed, rfl⟩ := pointed_of_call calls
    cases gives
    simp only [resume, phase]
    refine finish_advances default now rfl (.refl _) ?_ ?_
    · simp only [ahead, phase, pointingCalls, keyed]
    · simp only [verdict, phase, hitVerdict, keyed]
  | saving prepared =>
    rw [phase] at calls
    obtain rfl := Option.some.inj calls
    cases gives
    simp only [resume, phase]
    refine .goesOn (by simp [phase, Phase.stepsLeft]) (by rintro _ _ ⟨⟩) (logs _ _) rfl
      fun answers => ⟨answers, ?_, ?_⟩
    · simp only [ahead, phase]
      rfl
    · simp only [verdict, phase]
  | executing prepared =>
    rw [phase] at calls
    obtain rfl := Option.some.inj calls
    cases gives with
    | executed execution =>
      simp only [resume, phase]
      refine .goesOn (by simp [phase, Phase.stepsLeft]) (by rintro _ _ ⟨⟩) (logs _ _) rfl
        fun answers => ⟨{ answers with execution }, ?_, ?_⟩
      · simp only [ahead, phase]
        rfl
      · simp only [verdict, phase]
  | charting prepared execution =>
    rw [phase] at calls
    obtain rfl := Option.some.inj calls
    cases gives with
    | charted chart =>
      simp only [resume, phase]
      refine .goesOn (by simp [phase, Phase.stepsLeft]) (by rintro _ _ ⟨⟩) (logs _ _) rfl
        fun answers => ⟨{ answers with chart }, ?_, ?_⟩
      · simp only [ahead, phase]
        rfl
      · simp only [verdict, phase]
  | storing prepared execution chart =>
    rw [phase] at calls
    obtain rfl := Option.some.inj calls
    cases gives
    simp only [resume, phase]
    refine finish_advances default now rfl (logs _ _) ?_ ?_
    · simp only [ahead, phase]
      rfl
    · simp only [verdict, phase]

/-- A call has come to something. -/
theorem receive_advances {call : Call} {reply : Reply} (calls : run.call? = some call)
    (takes : call.Takes reply) (now : Micros) :
    Advances policy run [(call, reply)] (run.receive policy now reply) := by
  rcases takes with gives | ⟨failure, rfl⟩
  · have sound : reply ≠ .failed .cancelled := by
      rintro rfl
      cases gives
    rw [receive, if_neg sound]
    exact resume_advances calls gives now
  · exact failed_advances calls now failure

/-- A run that is cut off while it waits for its turn. -/
theorem abandoned_advances {prepared : Prepared} (queueing : run.phase = .queueing prepared)
    (now : Micros) :
    Advances policy run [] (.ended (.error .cancelled) (run.cutOff now)) := by
  have keeps : Keeps (run.ahead policy default) (run.verdict policy default) []
      (.ended (.error .cancelled)) none := by
    simp only [ahead, queueing, lookupCalls]
    exact @Keeps.abandoned _ _ [] _ _ _ rfl
  exact .ends default rfl keeps (.refl _) (.cancelled none)

end Run

/-- Every step of a run is one of its script, or ends the run. -/
theorem Steps.advances {policy : Policy} {run : Run} {pairs : List (Call × Reply)} {next : Next}
    (steps : Steps policy run pairs next) : Advances policy run pairs next := by
  cases steps with
  | opens opening now => exact Run.opened_advances opening now
  | admitted queueing => exact Run.admitted_advances queueing
  | abandoned queueing now => exact Run.abandoned_advances queueing now
  | calls calls takes now => exact Run.receive_advances calls takes now

end QuestionDesk.Pipeline
