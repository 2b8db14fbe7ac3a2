import QuestionDesk.Proofs.Database.Refusals
import QuestionDesk.Proofs.Desk.Passage
import QuestionDesk.Proofs.Remote.Answers

/-!
# Reasons

A run that fails gives a reason that is told: it is not empty, and it is not that somebody cut off
the run. So a job whose run fails is failed and not completed.
-/
namespace QuestionDesk

open Pipeline (Run Runner)

namespace Failure

/-- A failure that gives a reason when it leaves the process. -/
structure Tells (failure : Failure) : Prop where
  /-- It is no cancellation. -/
  alive : failure ≠ .cancelled
  /-- The reason is not empty. -/
  said : failure.safeMessage ≠ ""

/-- A text that begins with a text that is not empty is not empty. -/
theorem append_ne_empty {front : String} (written : front ≠ "") (rest : String) :
    front ++ rest ≠ "" := by
  intro empty
  have chars := congrArg String.toList empty
  rw [String.toList_append] at chars
  exact written (String.toList_inj.mp (List.append_eq_nil_iff.mp chars).1)

/-- A failure whose message may not be shown gives the generic reason. -/
theorem tells_of_hidden {failure : Failure} (alive : failure ≠ .cancelled)
    (hidden : failure.isUserFacing = false) : failure.Tells := by
  refine ⟨alive, ?_⟩
  rw [safeMessage, hidden]
  exact (by decide : genericMessage ≠ "")

/-- A plan that cannot be read gives a reason. -/
theorem tells_ofIssue (issue : Schema.Issue) : (ofIssue issue).Tells := by
  refine ⟨nofun, ?_⟩
  change "Malformed plan at '" ++ issue.place ++ "': " ++ issue.flaw.message ≠ ""
  rw [String.append_assoc, String.append_assoc]
  exact append_ne_empty (by decide) _

/-- A plan that cannot be turned into a query gives a reason. -/
theorem tells_ofFault (fault : Sql.Fault) : (ofFault fault).Tells := by
  refine ⟨nofun, ?_⟩
  change fault.message ≠ ""
  cases fault with
  | strayFilter kind => exact append_ne_empty (by decide) _
  | forbiddenOperator operator => exact append_ne_empty (by decide) _
  | _ => decide

/-- A failure of depth gives the generic reason. -/
theorem tells_of_isDepth {failure : Failure} (deep : failure.isDepth = true) : failure.Tells := by
  unfold isDepth at deep
  split at deep
  · exact tells_of_hidden (by simp) rfl
  · exact tells_of_hidden (by simp) rfl
  · cases deep

end Failure

open Failure

/-- A response without a document gives a reason. -/
theorem Remote.tells_of_document {response : Remote.Response} {url : String} {failure : Failure}
    (refused : response.document url = .error failure) : failure.Tells := by
  rcases document_eq_error refused with ⟨_, _, rfl⟩ | ⟨_, rfl⟩ | ⟨_, _, _, _, _, _, rfl⟩ <;>
    exact tells_of_hidden (by simp) rfl

/-- A request that cannot be sent gives a reason. -/
theorem Remote.Planner.tells_of_planRequest? {base : String} {prompt : Value} {failure : Failure}
    (refused : planRequest? base prompt = .error failure) : failure.Tells := by
  have hindered : ∀ hindrance, (Failure.ofHindrance hindrance).Tells := by
    intro hindrance
    cases hindrance <;> exact tells_of_hidden (by simp [Failure.ofHindrance]) rfl
  unfold planRequest? at refused
  split at refused
  any_goals
    split at refused
    · next found =>
      cases refused
      obtain ⟨hindrance, -, rfl⟩ := Option.map_eq_some_iff.mp found
      exact hindered hindrance
    · cases refused
  cases refused
  exact tells_of_hidden (by simp) rfl

/-- A planner that gives no plan gives a reason. -/
theorem Remote.Planner.tells_of_readPlan {base : String} {prompt : Value}
    {response : Remote.Response} {failure : Failure}
    (refused : Planner.readPlan base prompt response = .error failure) : failure.Tells := by
  unfold Planner.readPlan at refused
  cases asked : planRequest? base prompt with
  | error failure =>
    rw [asked] at refused
    cases refused
    exact tells_of_planRequest? asked
  | ok request =>
    rw [asked] at refused
    cases received : response.document request.url with
    | error failure =>
      simp only [received, bind, Except.bind] at refused
      cases refused
      exact tells_of_document received
    | ok document =>
      cases checked : PlannerAnswer.check document with
      | valid answer =>
        simp only [received, checked, Failure.ofCheck, bind, Except.bind] at refused
        cases refused
      | invalid first rest =>
        simp only [received, checked, Failure.ofCheck, bind, Except.bind] at refused
        cases refused
        exact tells_of_hidden (by simp) rfl

/-- An executor that runs no query gives a reason. -/
theorem Remote.Executor.tells_of_refused {base : String} {query : Value}
    {response : Remote.Response} {failure : Failure}
    (refused : request? base query = .error failure ∨ read base response = .error failure) :
    failure.Tells := by
  rcases refused with unsent | unread
  · obtain ⟨message, rfl⟩ := execution_of_request? unsent
    exact tells_of_hidden (by simp) rfl
  · rcases read_eq_error unread with ⟨message, rfl⟩ | ⟨kind, rfl, -⟩ <;>
      exact tells_of_hidden (by simp) rfl

/-- A planner that gives no chart gives a reason. -/
theorem Remote.Planner.tells_of_chart {base : String} {rows : List Fields}
    {response : Remote.Response} {failure : Failure}
    (refused : chart base rows response = .error failure) : failure.Tells := by
  unfold chart at refused
  split at refused
  · next unsent =>
    cases refused
    unfold chartRequest? at unsent
    split at unsent
    · cases unsent
    · cases unsent
    · split at unsent
      · cases unsent
      · split at unsent
        · next tooDeep =>
          cases unsent
          exact tells_of_isDepth tooDeep
        · cases unsent
  · cases refused
  · unfold readChart at refused
    split at refused
    · cases refused
    · cases refused
    · split at refused
      · next tooDeep =>
        cases refused
        exact tells_of_isDepth tooDeep
      · cases refused

/-- A store that cannot be read says so. -/
theorem Cache.Store.failure_of_findEntry {α : Type} {store : Store} {now : Micros} {key : String}
    {check : Value → Schema.Check α} {failure : Failure}
    (failed : store.findEntry now key check = .error failure) :
    ∃ message, failure = .cache message := by
  unfold findEntry get getText at failed
  split at failed
  · next refused =>
    split at refused <;> cases refused
    cases failed
    exact ⟨_, rfl⟩
  · cases failed
  · cases failed

/-- A store that cannot be written to says so. -/
theorem Cache.Store.failure_of_set {store : Store} {now : Micros} {key : String} {value : Value}
    {seconds : Option Int} {failure : Failure}
    (failed : store.set now key value seconds = .error failure) :
    ∃ message, failure = .cache message := by
  simp only [set, setText] at failed
  split at failed
  · cases failed
    exact ⟨_, rfl⟩
  · split at failed
    · cases failed
    · split at failed
      · cases failed
        exact ⟨_, rfl⟩
      · cases failed

/-- A store that fails gives the generic reason. -/
theorem Failure.tells_of_cache {failure : Failure} (broken : ∃ message, failure = .cache message) :
    failure.Tells := by
  obtain ⟨message, rfl⟩ := broken
  exact tells_of_hidden (by simp) rfl

/-- An answer that is not remembered gives the generic reason. -/
theorem Desk.tells_of_rememberQuery {desk : Desk} {hash jobId : String} {questionId : Value}
    {result chart : Fields} {failure : Failure}
    (failed : desk.rememberQuery hash questionId result chart jobId = .error failure) :
    failure.Tells := by
  unfold rememberQuery at failed
  split at failed
  · exact Failure.tells_of_cache (Cache.Store.failure_of_set failed)
  · cases failed
    exact tells_of_hidden (by simp) rfl

/-- A database that refuses gives the generic reason. -/
theorem Failure.tells_of_refusal {failure : Failure} (refused : Database.IsRefusal failure) :
    failure.Tells := by
  obtain ⟨message, rfl⟩ := refused
  exact tells_of_hidden (by simp) rfl

namespace Desk

/-- A plan that does not become a query has an issue, or it cannot be written. -/
theorem compile_eq_error {policy : Pipeline.Policy} {plan : Fields} {failure : Failure}
    (refused : Run.compile policy plan = .error failure) :
    (∃ issue, failure = ofIssue issue) ∨ ∃ fault, failure = ofFault fault := by
  unfold Run.compile at refused
  cases accepted : Plan.read (.object plan) with
  | error issue =>
    rw [accepted] at refused
    cases refused
    exact Or.inl ⟨issue, rfl⟩
  | ok root =>
    rw [accepted] at refused
    obtain ⟨fault, -, rfl⟩ :=
      @Remote.error_of_mapError _ _ _ _ (policy.rules.statementText root) _ refused
    exact Or.inr ⟨fault, rfl⟩

/-- A plan that does not become a query gives a reason. -/
theorem tells_of_compile {policy : Pipeline.Policy} {plan : Fields} {failure : Failure}
    (refused : Run.compile policy plan = .error failure) : failure.Tells := by
  rcases compile_eq_error refused with ⟨issue, rfl⟩ | ⟨fault, rfl⟩
  · exact tells_ofIssue issue
  · exact tells_ofFault fault

/-- A query without a fingerprint gives a reason. -/
theorem tells_of_queryKey {query : String} {failure : Failure}
    (keyless : queryKey query = .error failure) : failure.Tells := by
  unfold queryKey at keyless
  split at keyless <;> cases keyless
  exact tells_of_hidden (by simp) rfl

/-- A prompt without a fingerprint gives a reason. -/
theorem tells_of_keyFor {prompt : Value} {failure : Failure}
    (keyless : Run.keyFor prompt = .error failure) : failure.Tells := by
  have flawed : ∀ {text : String} {failure : Failure}, promptKey text = .error failure →
      failure.Tells := by
    intro text failure keyless
    unfold promptKey at keyless
    split at keyless <;> cases keyless
    exact tells_of_hidden (by simp) rfl
  unfold Run.keyFor at keyless
  split at keyless
  · exact flawed keyless
  · split at keyless
    · cases keyless
      exact tells_of_hidden (by simp) rfl
    · exact flawed keyless

/-- The last notes of a run that fails: the summary, after the title where the plan is what failed. -/
inductive LastNotes (run : Run) : Fields → Prop where
  /-- There is no title. -/
  | untitled (summary : Value) : LastNotes run [(Run.summaryNote, summary)]
  /-- There is a title. -/
  | titled (planning : run.phase = .planning) (answer : Remote.PlannerAnswer) (summary : Value) :
    LastNotes run
      [(Run.titleNote, Run.titleFor run.prompt answer), (Run.summaryNote, summary)]

/-- A run that fails leaves its last notes and gives a reason. -/
theorem Passage.failed {desk between : Desk} {runner : Runner} {run : Run}
    {response : Remote.Response} {failure : Failure} {notes : Fields}
    (passage : desk.Passage runner run response (.ended (.error failure) notes) between) :
    failure.Tells ∧ LastNotes run notes := by
  cases passage with
  | unopened phase lacking => exact ⟨tells_of_hidden (by simp) rfl, .untitled _⟩
  | unplanned phase refused =>
    exact ⟨Remote.Planner.tells_of_readPlan refused, .untitled _⟩
  | obstructed phase read judged => exact ⟨tells_of_hidden (by simp) rfl, .titled phase _ _⟩
  | rejected phase read judged =>
    exact ⟨⟨nofun, (by decide : Run.abstentionMessage ≠ "")⟩, .titled phase _ _⟩
  | uncompiled phase read judged compiled =>
    exact ⟨tells_of_compile compiled, .titled phase _ _⟩
  | unhashed phase read judged compiled flawed =>
    exact ⟨tells_of_hidden (by simp) rfl, .titled phase _ _⟩
  | mistaken phase found own keyless => exact ⟨tells_of_keyFor keyless, .untitled _⟩
  | stranded phase done keyless => exact ⟨tells_of_keyFor keyless, .untitled _⟩
  | uncharted phase refused => exact ⟨Remote.Planner.tells_of_chart refused, .untitled _⟩
  | unexecuted phase refused => exact ⟨Remote.Executor.tells_of_refused refused, .untitled _⟩
  | unseen phase found =>
    exact ⟨tells_of_cache (Cache.Store.failure_of_findEntry found), .untitled _⟩
  | unremoved phase done =>
    exact ⟨tells_of_refusal (Database.refusal_of_deleteQuestion done), .untitled _⟩
  | unsaved phase done =>
    exact ⟨tells_of_refusal (Database.refusal_of_updateQuestion done), .untitled _⟩
  | unpointed phase keyed done =>
    exact ⟨tells_of_cache (Cache.Store.failure_of_set done), .untitled _⟩
  | unstored phase done => exact ⟨tells_of_rememberQuery done, .untitled _⟩

end Desk

end QuestionDesk
