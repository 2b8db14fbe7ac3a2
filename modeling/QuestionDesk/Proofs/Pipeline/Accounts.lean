import QuestionDesk.Proofs.Pipeline.Scripts

/-!
# Accounts of jobs

A run plays its script: whatever comes of its calls, it comes to an end, the calls that were made
are the first ones of a script, a call that fails is the last one, and what is noted on the job can
be read off what came of the calls.
-/
namespace QuestionDesk

/-! ## Fields that are written -/

namespace Fields

/-- The fields that are present after one was written: it and those before. -/
theorem has_set (fields : Fields) (name other : String) (value : Value) :
    (fields.set name value).has other = true ↔ other = name ∨ fields.has other = true := by
  by_cases here : other = name
  · subst here
    simp [has, get?_set_self]
  · simp [has_set_ne fields value here, here]

/-- A field is present after pairs were written exactly if one of them has its name, or it was
present before. -/
theorem has_foldl_set (pairs fields : Fields) (name : String) :
    (pairs.foldl (fun all pair => all.set pair.1 pair.2) fields).has name = true ↔
      (∃ value, (name, value) ∈ pairs) ∨ fields.has name = true := by
  induction pairs generalizing fields with
  | nil => simp
  | cons pair rest before =>
    obtain ⟨key, held⟩ := pair
    rw [List.foldl_cons, before, has_set]
    simp only [List.mem_cons, Prod.mk.injEq, exists_or, exists_and_left, exists_eq, and_true]
    rw [or_left_comm, or_assoc]

/-- The fields that pairs leave are those that one of the pairs has the name of. -/
theorem has_ofPairs (pairs : Fields) (name : String) :
    (ofPairs pairs).has name = true ↔ ∃ value, (name, value) ∈ pairs := by
  rw [ofPairs, has_foldl_set]
  simp [has, get?]

/-- The pair that is written last is there. -/
theorem get?_ofPairs_append (pairs : Fields) (name : String) (value : Value) :
    (ofPairs (pairs ++ [(name, value)])).get? name = some value := by
  rw [ofPairs, List.foldl_append]
  exact get?_set_self _ _ _

end Fields

namespace Pipeline

open Cache (QueryEntry)
open Remote (Execution PlannerAnswer)

/-! ## A whole run -/

/-- The last note of a job whose log was another one when the run came this far: the summary of the
log, once the run has ended. -/
inductive LastNote (log : Log) (stages : List Stage) (fault : Option Stage) :
    HandPhase → Fields → Prop where
  /-- The run goes on. -/
  | running (run : Run) : LastNote log stages fault (.running run) []
  /-- The run has ended. -/
  | ended {last final : Log} {outcome : Except Failure Value} (grows : log.Grows last stages)
    (closes : last.Closes final fault outcome) (now : Micros) :
    LastNote log stages fault (.ended outcome) [(Run.summaryNote, final.summary now)]

/-- What follows on a log that has grown. -/
theorem LastNote.behind {log between : Log} {stages more : List Stage} {fault : Option Stage}
    {phase : HandPhase} {last : Fields} (note : LastNote between more fault phase last)
    (grows : log.Grows between stages) : LastNote log (stages ++ more) fault phase last := by
  cases note with
  | running run => exact .running run
  | ended later closes now => exact .ended (grows.trans later) closes now

/-- How the calls and the notes that follow what a run does next stand to its script and to its
log. -/
def Kept (policy : Policy) (made : List (Call × Reply)) (notes : Fields) (phase : HandPhase) :
    Next → Prop
  | .goOn run earlier => ∃ (answers : Answers) (fault : Option Stage) (last : Fields),
      Keeps (run.ahead policy answers) (run.verdict policy answers) made phase fault ∧
        notes = earlier ++ (made.flatMap (noted policy) ++ last) ∧
          LastNote run.log (made.flatMap (passed policy)) fault phase last
  | .ended outcome given => made = [] ∧ notes = given ∧ phase = .ended outcome

/-- What follows a step keeps to the script of the run if the step does. -/
theorem Advances.kept {policy : Policy} {run : Run} {pairs made : List (Call × Reply)}
    {next : Next} {later : Fields} {phase : HandPhase} (advances : Advances policy run pairs next)
    (kept : Kept policy made later phase next) (earlier : Fields) :
    Kept policy (pairs ++ made) (earlier ++ later) phase (.goOn run earlier) := by
  cases advances with
  | goesOn _ _ grows notes_eq left =>
    obtain ⟨answers, fault, last, keeps, rfl, note⟩ := kept
    obtain ⟨before, script, ending⟩ := left answers
    refine ⟨before, fault, last, ?_, ?_, ?_⟩
    · rw [script, ending]
      exact keeps.behind pairs
    · rw [notes_eq, List.flatMap_append, List.append_assoc]
    · rw [List.flatMap_append]
      exact note.behind grows
  | @ends answers outcome notes final log now fault notes_eq keeps grows closes =>
    obtain ⟨rfl, rfl, rfl⟩ := kept
    refine ⟨answers, fault, [(Run.summaryNote, log.summary now)], ?_, ?_, ?_⟩
    · rwa [List.append_nil]
    · rw [notes_eq, List.append_nil]
    · rw [List.append_nil]
      exact .ended grows closes now

/-- Whatever comes of its calls, a run keeps to a script. -/
theorem Plays.kept {policy : Policy} {next : Next} {made : List (Call × Reply)} {notes : Fields}
    {phase : HandPhase} (plays : Plays policy next made notes phase) :
    Kept policy made notes phase next := by
  induction plays with
  | paused run notes =>
    exact ⟨default, none, [], .running rfl, by simp, .running run⟩
  | closed outcome notes => exact ⟨rfl, rfl, rfl⟩
  | step notes steps _ rest => exact steps.advances.kept rest notes

/-- A run can take a step, whatever its call comes to. -/
theorem Run.exists_steps (policy : Policy) {run : Run} (pointed : run.Pointed) (now : Micros)
    {respond : Call → Reply} (takes : ∀ call : Call, call.Takes (respond call)) :
    ∃ pairs next, Steps policy run pairs next ∧ ∀ pair ∈ pairs, pair.2 = respond pair.1 := by
  cases calls : run.call? with
  | some call =>
    exact ⟨_, _, .calls calls (takes call) now, fun pair member => by
      rw [List.mem_singleton.mp member]⟩
  | none =>
    cases phase : run.phase with
    | opening => exact ⟨_, _, .opens phase now, by simp⟩
    | queueing prepared => exact ⟨_, _, .admitted phase, by simp⟩
    | repointing prepared known =>
      obtain ⟨key, keyed⟩ := pointed prepared known phase
      simp [Run.call?, phase, keyed, Except.toOption] at calls
    | _ => simp [Run.call?, phase] at calls

/-- A run comes to an end, whatever its calls come to. -/
theorem Plays.exists_ended (policy : Policy) (now : Micros) {respond : Call → Reply}
    (takes : ∀ call : Call, call.Takes (respond call)) {run : Run} (pointed : run.Pointed)
    (notes : Fields) :
    ∃ made later outcome, Plays policy (.goOn run notes) made later (.ended outcome) ∧
      ∀ pair ∈ made, pair.2 = respond pair.1 := by
  induction left : run.phase.stepsLeft using Nat.strongRecOn generalizing run notes with
  | _ left shorter =>
    obtain ⟨pairs, next, steps, replies⟩ := Run.exists_steps policy pointed now takes
    have advances := steps.advances
    cases advances with
    | goesOn nearer sound =>
      obtain ⟨made, rest, outcome, plays, others⟩ := shorter _ (left ▸ nearer) sound _ rfl
      refine ⟨_, _, outcome, .step notes steps plays, fun pair member => ?_⟩
      exact (List.mem_append.mp member).elim (replies pair) (others pair)
    | @ends _ outcome more =>
      refine ⟨_, _, outcome, .step notes steps (.closed outcome more), fun pair member => ?_⟩
      exact replies pair (by simpa using member)

/-! ## What is noted -/

/-- The calls for a query that has been answered do not fail. -/
theorem given_of_hit {questionId prompt : Value} {known : QueryEntry} {pair : Call × Reply}
    (member : pair ∈ hitCalls questionId prompt known) : pair.1.Gives pair.2 := by
  rcases List.mem_append.mp member with removal | pointing
  · split at removal
    · cases removal
    · obtain rfl := List.mem_singleton.mp removal
      exact .removed
  · unfold pointingCalls at pointing
    split at pointing
    · obtain rfl := List.mem_singleton.mp pointing
      exact .pointed
    · cases pointing

/-- The calls for a query that has not been answered do not fail. -/
theorem given_of_miss {jobId : String} {questionId : Value} {prepared : Prepared}
    {execution : Execution} {chart : Fields} {pair : Call × Reply}
    (member : pair ∈ missCalls jobId questionId prepared execution chart) :
    pair.1.Gives pair.2 := by
  simp only [missCalls, List.mem_cons, List.not_mem_nil, or_false] at member
  rcases member with rfl | rfl | rfl | rfl
  · exact .saved
  · exact .executed _
  · exact .charted _
  · exact .stored

/-- The calls of a script do not fail. -/
theorem given_of_script {policy : Policy} {answers : Answers} {jobId : String} {payload : Fields}
    {pair : Call × Reply} (member : pair ∈ script policy answers jobId payload) :
    pair.1.Gives pair.2 := by
  simp only [script] at member
  split at member
  · cases member
  · rcases List.mem_cons.mp member with rfl | later
    · exact .planned _
    · split at later
      · cases later
      · rcases List.mem_cons.mp later with rfl | branch
        · exact .found _
        · split at branch
          · exact given_of_hit branch
          · exact given_of_miss branch

/-- What is noted comes of an answer of the planner or of the last call for a duplicate. -/
theorem noted_cases (policy : Policy) (pair : Call × Reply) :
    (∃ prompt answer, pair = (.plan prompt, .planned answer)) ∨
      (∃ fingerprint entry, pair = (.rememberPrompt fingerprint entry, .done)) ∨
        noted policy pair = [] := by
  unfold noted
  split
  · exact Or.inl ⟨_, _, rfl⟩
  · exact Or.inr (Or.inl ⟨_, _, rfl⟩)
  · exact Or.inr (Or.inr rfl)

/-- The title is noted exactly when the planner has answered. -/
theorem titled_iff {policy : Policy} {made : List (Call × Reply)} :
    (∃ value, (Run.titleNote, value) ∈ made.flatMap (noted policy)) ↔
      ∃ prompt answer, (Call.plan prompt, Reply.planned answer) ∈ made := by
  constructor
  · rintro ⟨value, member⟩
    obtain ⟨pair, among, notes⟩ := List.mem_flatMap.mp member
    rcases noted_cases policy pair with ⟨prompt, answer, rfl⟩ | ⟨fingerprint, entry, rfl⟩ | none
    · exact ⟨prompt, answer, among⟩
    · simp [noted, Run.titleNote, Run.duplicateNote] at notes
    · rw [none] at notes
      cases notes
  · rintro ⟨prompt, answer, among⟩
    exact ⟨_, List.mem_flatMap.mpr ⟨_, among, List.mem_cons_self⟩⟩

/-- A plan becomes a query exactly if it is accepted and can be written as a query that has a UTF-8
form. -/
theorem exists_preparation_iff {policy : Policy} {prompt : Value} {answer : PlannerAnswer} :
    (∃ prepared, preparation policy prompt answer = .ok prepared) ↔
      policy.safety.judge (.object answer.plan) (Run.report answer) = .ok none ∧
        ∃ sql, Run.compile policy answer.plan = .ok sql ∧ Text.flaw? sql = none := by
  unfold preparation
  rcases judged : policy.safety.judge (.object answer.plan) (Run.report answer) with
    obstacle | _ | rejection
  · simp
  · cases compiled : Run.compile policy answer.plan with
    | error failure => simp
    | ok sql => cases flawed : Text.flaw? sql <;> simp [queryKey, flawed]
  · simp

/-- The fingerprint of the query is noted exactly when the planner has answered with a plan that is
accepted and became a query that has a UTF-8 form. -/
theorem hashed_iff {policy : Policy} {made : List (Call × Reply)} :
    (∃ value, (Run.hashNote, value) ∈ made.flatMap (noted policy)) ↔
      ∃ prompt answer, (Call.plan prompt, Reply.planned answer) ∈ made ∧
        policy.safety.judge (.object answer.plan) (Run.report answer) = .ok none ∧
          ∃ sql, Run.compile policy answer.plan = .ok sql ∧ Text.flaw? sql = none := by
  constructor
  · rintro ⟨value, member⟩
    obtain ⟨pair, among, notes⟩ := List.mem_flatMap.mp member
    rcases noted_cases policy pair with ⟨prompt, answer, rfl⟩ | ⟨fingerprint, entry, rfl⟩ | none
    · refine ⟨prompt, answer, among, (@exists_preparation_iff policy prompt answer).mp ?_⟩
      cases became : preparation policy prompt answer with
      | ok query => exact ⟨query, rfl⟩
      | error refusal => simp [noted, became, Run.titleNote, Run.hashNote] at notes
    · simp [noted, Run.hashNote, Run.duplicateNote] at notes
    · rw [none] at notes
      cases notes
  · rintro ⟨prompt, answer, among, accepted⟩
    obtain ⟨prepared, became⟩ := (@exists_preparation_iff policy prompt answer).mpr accepted
    refine ⟨.text prepared.hash, List.mem_flatMap.mpr ⟨_, among, ?_⟩⟩
    simp only [noted, became]
    exact List.mem_cons_of_mem _ List.mem_cons_self

/-- A job is marked as a duplicate exactly when its prompt has been pointed at the question that has
the answer. -/
theorem marked_iff {policy : Policy} {made : List (Call × Reply)} :
    (∃ value, (Run.duplicateNote, value) ∈ made.flatMap (noted policy)) ↔
      ∃ fingerprint entry, (Call.rememberPrompt fingerprint entry, Reply.done) ∈ made := by
  constructor
  · rintro ⟨value, member⟩
    obtain ⟨pair, among, notes⟩ := List.mem_flatMap.mp member
    rcases noted_cases policy pair with ⟨prompt, answer, rfl⟩ | ⟨fingerprint, entry, rfl⟩ | none
    · simp only [noted] at notes
      split at notes <;> simp [Run.titleNote, Run.hashNote, Run.duplicateNote] at notes
    · exact ⟨fingerprint, entry, among⟩
    · rw [none] at notes
      cases notes
  · rintro ⟨fingerprint, entry, among⟩
    exact ⟨_, List.mem_flatMap.mpr ⟨_, among, List.mem_cons_self⟩⟩

/-! ## Processing a job -/

/-- What a run goes on with may be noted behind other notes. -/
theorem Plays.behind {policy : Policy} {run : Run} {made : List (Call × Reply)} {later : Fields}
    {phase : HandPhase} (plays : Plays policy (.goOn run []) made later phase) (notes : Fields) :
    Plays policy (.goOn run notes) made (notes ++ later) phase := by
  cases plays with
  | paused => simpa using Plays.paused run notes
  | step _ steps rest => simpa using rest.step notes steps

/-- What a run has played and what it plays from there on is played as a whole. -/
theorem Plays.append {policy : Policy} {next : Next} {run : Run} {made more : List (Call × Reply)}
    {notes later : Fields} {phase : HandPhase} (plays : Plays policy next made notes (.running run))
    (rest : Plays policy (.goOn run []) more later phase) :
    Plays policy next (made ++ more) (notes ++ later) phase := by
  generalize still : HandPhase.running run = middle at plays
  induction plays with
  | paused other notes =>
    cases still
    exact rest.behind notes
  | closed outcome notes => cases still
  | step before steps _ whole =>
    rw [List.append_assoc, List.append_assoc]
    exact .step before steps (whole still)

/-- A job is refused at a stage with a failure after some calls, none of which has failed. -/
inductive Refusal (policy : Policy) (payload : Fields) :
    List (Call × Reply) → Stage → Failure → Prop where
  /-- The payload lacks a key. -/
  | lacking {key : String} (lacks : payload.get? key = none) :
    Refusal policy payload [] .plan (.missingKey key)
  /-- The plan cannot be judged. -/
  | obstructed {questionId prompt : Value} {answer : PlannerAnswer} {obstacle : Plan.Obstacle}
    (asks : asked payload = .ok (questionId, prompt))
    (judged : policy.safety.judge (.object answer.plan) (Run.report answer) = .error obstacle) :
    Refusal policy payload [(.plan prompt, .planned answer)] .validate (.obstacle obstacle)
  /-- The plan is rejected. -/
  | rejected {questionId prompt : Value} {answer : PlannerAnswer} {rejection : Plan.Rejection}
    (asks : asked payload = .ok (questionId, prompt))
    (judged : policy.safety.judge (.object answer.plan) (Run.report answer) =
      .ok (some rejection)) :
    Refusal policy payload [(.plan prompt, .planned answer)] .validate
      (.abstention Run.abstentionMessage (some rejection.message))
  /-- The plan does not become a query. -/
  | uncompiled {questionId prompt : Value} {answer : PlannerAnswer} {failure : Failure}
    (asks : asked payload = .ok (questionId, prompt))
    (accepted : policy.safety.judge (.object answer.plan) (Run.report answer) = .ok none)
    (compiled : Run.compile policy answer.plan = .error failure) :
    Refusal policy payload [(.plan prompt, .planned answer)] .compile failure
  /-- The query has no UTF-8 form. -/
  | unhashed {questionId prompt : Value} {answer : PlannerAnswer} {sql : String}
    {flaw : Text.Flaw} (asks : asked payload = .ok (questionId, prompt))
    (accepted : policy.safety.judge (.object answer.plan) (Run.report answer) = .ok none)
    (compiled : Run.compile policy answer.plan = .ok sql) (flawed : Text.flaw? sql = some flaw) :
    Refusal policy payload [(.plan prompt, .planned answer)] .compile (.unencodable flaw)
  /-- The query has been answered, but the prompt has no fingerprint. -/
  | keyless {questionId prompt : Value} {answer : PlannerAnswer} {prepared : Prepared}
    {known : QueryEntry} {failure : Failure} (asks : asked payload = .ok (questionId, prompt))
    (became : preparation policy prompt answer = .ok prepared)
    (keyless : Run.keyFor prompt = .error failure) :
    Refusal policy payload
      ((.plan prompt, .planned answer) :: (.findQuery prepared.hash, .found (some known)) ::
        if Value.text known.questionId = questionId then [] else
          [(.deleteQuestion questionId, .done)]) .dedup failure

/-- A plan that does not become a query is refused. -/
theorem refusal_of_preparation {policy : Policy} {payload : Fields} {questionId prompt : Value}
    {answer : PlannerAnswer} {stage : Stage} {failure : Failure}
    (asks : asked payload = .ok (questionId, prompt))
    (refused : preparation policy prompt answer = .error (stage, failure)) :
    Refusal policy payload [(.plan prompt, .planned answer)] stage failure := by
  unfold preparation at refused
  split at refused
  · next obstacle judged =>
    cases refused
    exact .obstructed asks judged
  · next rejection judged =>
    cases refused
    exact .rejected asks judged
  · next accepted =>
    split at refused
    · next compiled =>
      cases refused
      exact .uncompiled asks accepted compiled
    · next sql compiled =>
      unfold queryKey at refused
      cases flawed : Text.flaw? sql with
      | some flaw =>
        rw [flawed] at refused
        cases refused
        exact .unhashed asks accepted compiled flawed
      | none =>
        rw [flawed] at refused
        cases refused

/-- A job whose script ends with a refusal is refused after all its calls. -/
theorem refusal_of_verdict {policy : Policy} {answers : Answers} {jobId : String}
    {payload : Fields} {stage : Stage} {failure : Failure}
    (ending : verdict policy answers payload = .error (stage, failure)) :
    Refusal policy payload (script policy answers jobId payload) stage failure := by
  unfold verdict at ending
  unfold script
  cases said : asked payload with
  | error lack =>
    rw [said] at ending
    cases ending
    obtain ⟨key, lacks, rfl⟩ := Run.asked_eq_error said
    exact .lacking lacks
  | ok pair =>
    obtain ⟨questionId, prompt⟩ := pair
    rw [said] at ending
    simp only [planVerdict] at ending
    simp only [planCalls]
    cases became : preparation policy prompt answers.plan with
    | error refusal =>
      rw [became] at ending
      cases ending
      exact refusal_of_preparation said became
    | ok prepared =>
      rw [became] at ending
      simp only [lookupVerdict] at ending
      simp only [lookupCalls]
      cases found : answers.known with
      | none =>
        rw [found] at ending
        cases ending
      | some known =>
        rw [found] at ending
        simp only [hitVerdict] at ending
        cases keyed : Run.keyFor prompt with
        | ok key =>
          rw [keyed] at ending
          cases ending
        | error failure =>
          rw [keyed] at ending
          cases ending
          simp only [hitCalls, pointingCalls, keyed, List.append_nil]
          exact .keyless said became keyed

/-- What can be said of a job that is processed: of the calls that were made, of what is noted on
it, of how far it has come, and at which stage it has failed. -/
structure Accounted (policy : Policy) (jobId : String) (payload : Fields) (answers : Answers)
    (made : List (Call × Reply)) (notes : Fields) (phase : HandPhase) (fault : Option Stage) :
    Prop where
  /-- The calls and the end of the job keep to its script. -/
  keeps : Keeps (script policy answers jobId payload) (verdict policy answers payload) made phase
    fault
  /-- The calls are the first ones of the script. -/
  calls : made.map Prod.fst <+: (script policy answers jobId payload).map Prod.fst
  /-- A call that fails is the last one, and the job ends with its failure. -/
  last : ∀ {before after : List (Call × Reply)} {call : Call} {failure : Failure},
    made = before ++ (call, .failed failure) :: after →
      after = [] ∧ phase = .ended (.error failure) ∧ fault = some call.stage
  /-- The title is noted exactly when the planner has answered. -/
  titled : notes.has Run.titleNote = true ↔
    ∃ prompt answer, (Call.plan prompt, Reply.planned answer) ∈ made
  /-- A job that fails with no call that failed is refused. -/
  refused : ∀ {failure : Failure}, phase = .ended (.error failure) → failure ≠ .cancelled →
    (∀ call reason, (call, Reply.failed reason) ∉ made) →
      ∃ stage, fault = some stage ∧ Refusal policy payload made stage failure
  /-- The fingerprint is noted exactly when the plan was accepted and became a query that has a
  UTF-8 form. -/
  hashed : notes.has Run.hashNote = true ↔
    ∃ prompt answer, (Call.plan prompt, Reply.planned answer) ∈ made ∧
      policy.safety.judge (.object answer.plan) (Run.report answer) = .ok none ∧
        ∃ sql, Run.compile policy answer.plan = .ok sql ∧ Text.flaw? sql = none
  /-- The job is marked as a duplicate exactly when its prompt was pointed at another question. -/
  marked : notes.has Run.duplicateNote = true ↔
    ∃ fingerprint entry, (Call.rememberPrompt fingerprint entry, Reply.done) ∈ made
  /-- A job that has ended has a summary. It names the stages that the calls have come through and
  the one that failed, and of errors it repeats only the entry of that one. -/
  summed : ∀ {outcome : Except Failure Value}, phase = .ended outcome → ∃ summary,
    notes.get? Run.summaryNote = some (.object summary) ∧
      Summarises jobId (made.flatMap (passed policy)) fault outcome summary

/-- The calls that keep to a script are the first ones of it. -/
theorem Keeps.calls {script made : List (Call × Reply)} {verdict : Except (Stage × Failure) Value}
    {phase : HandPhase} {fault : Option Stage} (keeps : Keeps script verdict made phase fault) :
    made.map Prod.fst <+: script.map Prod.fst := by
  cases keeps with
  | running sofar => exact ⟨_, by rw [sofar, List.map_append]⟩
  | answered _ => exact List.prefix_rfl
  | refused _ _ => exact List.prefix_rfl
  | @failed made later call reply failure sofar =>
    refine ⟨later.map Prod.fst, ?_⟩
    rw [sofar]
    simp
  | abandoned sofar => exact ⟨_, by rw [sofar, List.map_append]⟩

/-- A failed call that keeps to a script without failures is the last one. -/
theorem Keeps.last {script made : List (Call × Reply)} {verdict : Except (Stage × Failure) Value}
    {phase : HandPhase} {fault : Option Stage} (keeps : Keeps script verdict made phase fault)
    (smooth : ∀ pair ∈ script, ∀ failure, pair.2 ≠ .failed failure)
    {before after : List (Call × Reply)} {call : Call} {failure : Failure}
    (split : made = before ++ (call, .failed failure) :: after) :
    after = [] ∧ phase = .ended (.error failure) ∧ fault = some call.stage := by
  have impossible : (call, Reply.failed failure) ∉ script := fun member => smooth _ member _ rfl
  have member : (call, Reply.failed failure) ∈ made := by
    rw [split]
    exact List.mem_append_right _ List.mem_cons_self
  cases keeps with
  | running sofar => exact absurd (sofar ▸ List.mem_append_left _ member) impossible
  | answered _ => exact absurd member impossible
  | refused _ _ => exact absurd member impossible
  | abandoned sofar => exact absurd (sofar ▸ List.mem_append_left _ member) impossible
  | @failed earlier later last reply reason sofar =>
    have smoothly : (call, Reply.failed failure) ∉ earlier := fun among =>
      impossible (sofar ▸ List.mem_append_left _ among)
    rcases List.eq_nil_or_concat after with rfl | ⟨rest, final, rfl⟩
    · obtain ⟨-, same⟩ := List.append_inj' split rfl
      cases same
      exact ⟨rfl, rfl, rfl⟩
    · have longer : earlier ++ [(last, Reply.failed reason)] =
          (before ++ (call, .failed failure) :: rest) ++ [final] := by
        rw [split, List.concat_eq_append]
        simp
      obtain ⟨same, -⟩ := List.append_inj' longer rfl
      exact absurd (same ▸ List.mem_append_right _ List.mem_cons_self) smoothly

/-- What can be said of a job however far it has come. -/
theorem account {policy : Policy} {now : Micros} {jobId : String} {payload : Fields}
    {made : List (Call × Reply)} {notes : Fields} {phase : HandPhase}
    (plays : Plays policy (.goOn (Run.start now jobId payload) []) made notes phase) :
    ∃ (answers : Answers) (fault : Option Stage),
      Accounted policy jobId payload answers made (Fields.ofPairs notes) phase fault := by
  obtain ⟨answers, fault, last, keeps, rfl, note⟩ := plays.kept
  change Keeps (script policy answers jobId payload) (verdict policy answers payload) made phase
    fault at keeps
  have smooth : ∀ pair ∈ script policy answers jobId payload, ∀ failure,
      pair.2 ≠ .failed failure := by
    rintro ⟨call, reply⟩ member failure rfl
    cases given_of_script member
  -- The summary is no note of another name.
  have apart : ∀ {name}, name ≠ Run.summaryNote →
      ((Fields.ofPairs (made.flatMap (noted policy) ++ last)).has name = true ↔
        ∃ value, (name, value) ∈ made.flatMap (noted policy)) := by
    intro name other
    rw [Fields.has_ofPairs]
    refine exists_congr fun value => ?_
    rw [List.mem_append, or_iff_left]
    intro member
    cases note with
    | running => cases member
    | ended grows closes now =>
      obtain ⟨rfl, -⟩ := Prod.mk.inj (List.mem_singleton.mp member)
      exact other rfl
  refine ⟨answers, fault, keeps, keeps.calls, keeps.last smooth, ?_, ?_, ?_, ?_, ?_⟩
  · exact (apart (by decide)).trans titled_iff
  · rintro failure rfl alive unfailed
    cases keeps with
    | refused ending _ => exact ⟨_, rfl, refusal_of_verdict ending⟩
    | failed sofar =>
      exact absurd (List.mem_append_right _ (List.mem_singleton.mpr rfl)) (unfailed _ _)
    | abandoned sofar => exact absurd rfl alive
  · exact (apart (by decide)).trans hashed_iff
  · exact (apart (by decide)).trans marked_iff
  · rintro outcome rfl
    cases note with
    | ended grows closes now =>
      obtain ⟨summary, document, summarises⟩ := closes.summarises rfl grows now
      refine ⟨summary, ?_, summarises⟩
      rw [List.nil_append, Fields.get?_ofPairs_append, document]

/-- Whatever the payload of a job and whatever comes of the calls that are made for it: the job
comes to an end; the calls are the first ones of the script of the job, where the first that fails
is the last and its failure is what the job ends with; and what is noted on the job tells how far it
has come and at which stage it has failed. -/
theorem processing_keeps_script (policy : Policy) (now : Micros) (jobId : String)
    (payload : Fields) :
    (∀ respond : Call → Reply, (∀ call : Call, call.Takes (respond call)) → ∃ made notes outcome,
      Plays policy (.goOn (Run.start now jobId payload) []) made notes (.ended outcome) ∧
        ∀ pair ∈ made, pair.2 = respond pair.1) ∧
    ∀ (made : List (Call × Reply)) (notes : Fields) (phase : HandPhase),
      Plays policy (.goOn (Run.start now jobId payload) []) made notes phase →
        ∃ (answers : Answers) (fault : Option Stage),
          Accounted policy jobId payload answers made (Fields.ofPairs notes) phase fault := by
  refine ⟨fun respond takes => Plays.exists_ended policy now takes ?_ _, fun _ _ _ => account⟩
  intro prepared known phase
  cases phase

/-- A question that the planner will not answer. -/
def declinedPayload : Fields := [("question_id", .text "q1"), ("user_prompt", .text "Which?")]

/-- The answer of a planner that will not answer. -/
def declinedAnswer : PlannerAnswer :=
  { plan := [], title := none, fidelity := default, abstain := true }

/-- A question that the planner will not answer is refused when its plan is judged. -/
theorem processing_keeps_script_declined : ∃ (notes : Fields) (answers : Answers),
    Plays {} (.goOn (Run.start 0 "job" declinedPayload) [])
      [(.plan (.text "Which?"), .planned declinedAnswer)] notes
      (.ended (.error (.abstention Run.abstentionMessage (some "Planner abstained")))) ∧
    ∃ fault, Accounted {} "job" declinedPayload answers
      [(.plan (.text "Which?"), .planned declinedAnswer)] (Fields.ofPairs notes)
      (.ended (.error (.abstention Run.abstentionMessage (some "Planner abstained")))) fault := by
  have plays : ∃ notes, Plays {} (.goOn (Run.start 0 "job" declinedPayload) [])
      [(.plan (.text "Which?"), .planned declinedAnswer)] notes
      (.ended (.error (.abstention Run.abstentionMessage (some "Planner abstained")))) :=
    ⟨_, .step [] (.opens rfl 0)
      (.step _ (.calls rfl (.inl (.planned declinedAnswer)) 0) (.closed _ _))⟩
  obtain ⟨notes, plays⟩ := plays
  obtain ⟨answers, fault, accounted⟩ := (processing_keeps_script _ _ _ _).2 _ _ _ plays
  exact ⟨notes, answers, plays, fault, accounted⟩

/-- A run ends whose query has no UTF-8 form. -/
theorem Run.receive_unhashed {policy : Policy} {answer : PlannerAnswer} {sql : String}
    {flaw : Text.Flaw} {run : Run} (planning : run.phase = .planning) (now : Micros)
    (accepted : policy.safety.judge (.object answer.plan) (Run.report answer) = .ok none)
    (compiled : Run.compile policy answer.plan = .ok sql) (flawed : Text.flaw? sql = some flaw) :
    ∃ notes, run.receive policy now (.planned answer) =
      .ended (.error (.unencodable flaw)) notes := by
  rw [Run.receive, if_neg (by rintro ⟨⟩)]
  simp only [Run.resume, planning, Run.planned, accepted, compiled, queryKey, flawed]
  exact ⟨_, rfl⟩

/-- The answer of a planner that compares a column with half of a pair. -/
def halvedAnswer : PlannerAnswer :=
  { plan := [("main_query", .object [("table", .text "events"), ("columns", .list [.text "type"]),
      ("filters", .list [.object [("column", .text "type"), ("op", .text "="),
        ("value", .text (String.ofList (Text.standIn 0xd800)))]])])]
    title := none
    fidelity := .ofQuotient false 1 1
    abstain := false }

/-- A plan that compares a column with half of a pair is accepted and becomes a query, and no call
fails. But the query has no UTF-8 form, so the job fails with no fingerprint noted. -/
theorem halved_query_unhashed : ∃ (notes : Fields) (flaw : Text.Flaw),
    Plays {} (.goOn (Run.start 0 "job" declinedPayload) [])
      [(.plan (.text "Which?"), .planned halvedAnswer)] notes
      (.ended (.error (.unencodable flaw))) ∧
    (∃ sql, Run.compile {} halvedAnswer.plan = .ok sql) ∧
      (Fields.ofPairs notes).has Run.hashNote = false := by
  have flaws : (Run.compile {} halvedAnswer.plan).toOption.any
      (fun sql => (Text.flaw? sql).isSome) = true := by decide +kernel
  have judged : ({} : Policy).safety.judge (.object halvedAnswer.plan)
      (Run.report halvedAnswer) = .ok none := by decide +kernel
  cases compiled : Run.compile {} halvedAnswer.plan with
  | error failure =>
    rw [compiled] at flaws
    cases flaws
  | ok sql =>
    rw [compiled] at flaws
    obtain ⟨flaw, flawed⟩ := Option.isSome_iff_exists.mp flaws
    have plays : ∃ notes, Plays {} (.goOn (Run.start 0 "job" declinedPayload) [])
        [(.plan (.text "Which?"), .planned halvedAnswer)] notes
        (.ended (.error (.unencodable flaw))) := by
      let run : Run := { Run.start 0 "job" declinedPayload with
        questionId := .text "q1", prompt := .text "Which?", phase := .planning }
      obtain ⟨notes, ended⟩ := @Run.receive_unhashed _ _ _ _ run rfl 0 judged compiled flawed
      have closed := @Plays.closed {} (.error (.unencodable flaw)) notes
      rw [← ended] at closed
      have planned := Plays.step [] (.calls rfl (.inl (.planned halvedAnswer)) 0) closed
      exact ⟨_, .step [] (.opens rfl 0) planned⟩
    obtain ⟨notes, plays⟩ := plays
    obtain ⟨answers, fault, accounted⟩ := account plays
    refine ⟨notes, flaw, plays, ⟨sql, rfl⟩, ?_⟩
    by_contra hashed
    obtain ⟨prompt, answer, made, -, other, becomes, whole⟩ :=
      accounted.hashed.mp (Bool.not_eq_false _ ▸ hashed)
    simp only [List.mem_singleton, Prod.mk.injEq, Reply.planned.injEq] at made
    rw [made.2, compiled] at becomes
    rw [← Except.ok.inj becomes, flawed] at whole
    cases whole

end Pipeline

end QuestionDesk
