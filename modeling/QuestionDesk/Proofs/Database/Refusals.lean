import QuestionDesk.Database.Popularity
import QuestionDesk.Database.Questions
import QuestionDesk.Database.Records

/-!
# Refusals

A call to the database that fails does so because the database refused: a statement of its failed or
broke a constraint, or a row that it needs is not there. No such failure is a cancellation, and none
tells more than that something went wrong.
-/
namespace QuestionDesk.Database

/-- A failure of the database. -/
def IsRefusal (failure : Failure) : Prop := ∃ message, failure = .persistence message

/-- A computation that stops only because the database refuses. -/
def Refuses {α : Type} (work : Except Stop α) : Prop :=
  ∀ stop, work = .error stop → ∀ action, IsRefusal (stop.failure action)

section Refuses

variable {α β : Type}

/-- A computation that does not stop. -/
theorem refuses_ok (value : α) : Refuses (.ok value : Except Stop α) := nofun

/-- A computation that is refused. -/
theorem refuses_refused : Refuses (.error .refused : Except Stop α) := by
  rintro stop ⟨⟩ action
  exact ⟨_, rfl⟩

/-- A computation that misses a row. -/
theorem refuses_failed (message : String) :
    Refuses (.error (.failed (.persistence message)) : Except Stop α) := by
  rintro stop ⟨⟩ action
  exact ⟨_, rfl⟩

/-- A demand stops only by being refused. -/
theorem refuses_demand (condition : Bool) : Refuses (demand condition) := by
  unfold demand
  split
  · exact refuses_ok _
  · exact refuses_refused

/-- A missing value is refused. -/
theorem refuses_required (value : Option α) : Refuses (required value) := by
  cases value with
  | none => exact refuses_refused
  | some value => exact refuses_ok value

/-- A statement stops only by being refused. -/
theorem refuses_sendIf (database : Database) (condition : Bool) (verb : Verb) (table : Table) :
    Refuses (database.sendIf condition verb table) := by
  unfold sendIf
  split
  · exact refuses_demand _
  · exact refuses_ok _

/-- The end of a transaction is refused or goes through. -/
theorem refuses_finish (database : Database) : Refuses database.finish := refuses_demand _

/-- Two computations, one after the other. -/
theorem Refuses.bind {first : Except Stop α} {next : α → Except Stop β} (refuses : Refuses first)
    (later : ∀ value, first = .ok value → Refuses (next value)) : Refuses (first >>= next) := by
  intro stop failed
  cases done : first with
  | error stopped =>
    rw [done] at failed
    cases failed
    exact refuses _ done
  | ok value =>
    rw [done] at failed
    exact later value done stop failed

/-- Steps after one another refuse where each of them does. -/
theorem refuses_all {σ ι : Type} {step : σ → ι → Except Stop σ}
    (each : ∀ state item, Refuses (step state item)) (items : List ι) (state : σ) :
    Refuses (items.foldlM step state) := by
  induction items generalizing state with
  | nil => exact refuses_ok _
  | cons item rest ih =>
    rw [List.foldlM_cons]
    exact (each state item).bind fun next _ => ih next

/-- Reading back stops only by being refused. -/
theorem refuses_readBack (database : Database) (table : Table) :
    Refuses (database.readBack table) :=
  (refuses_demand _).bind fun _ _ => refuses_demand _

/-- A transaction that fails is refused. -/
theorem Refuses.commit {database : Database} {action : String} {work : Except Stop (α × Tables)}
    {reading : Except Stop Unit} (refuses : Refuses work) (reads : Refuses reading)
    {failure : Failure} (failed : (database.commit action work reading).1 = .error failure) :
    IsRefusal failure := by
  cases done : work with
  | error stop =>
    rw [done] at failed
    cases failed
    exact refuses stop done action
  | ok result =>
    cases read : reading with
    | error stop =>
      rw [done, read] at failed
      cases failed
      exact reads stop read action
    | ok value =>
      rw [done, read] at failed
      cases failed

/-- A reading that fails is refused. -/
theorem Refuses.answering {action : String} {work : Except Stop α} (refuses : Refuses work)
    {failure : Failure} (failed : Database.answering action work = .error failure) :
    IsRefusal failure := by
  cases done : work with
  | error stop =>
    rw [done] at failed
    cases failed
    exact refuses stop done action
  | ok value =>
    rw [done] at failed
    cases failed

end Refuses

variable {database : Database} {failure : Failure}

/-- A question that cannot be stored is refused. -/
theorem refusal_of_createQuestion {now : Micros} {draft : Draft}
    (failed : (database.createQuestion now draft).1 = .error failure) : IsRefusal failure := by
  refine Refuses.commit ?_ (refuses_readBack _ _) failed
  refine (refuses_demand _).bind fun _ _ => Refuses.bind ?_ fun _ _ =>
    (refuses_demand _).bind fun _ _ => (refuses_finish _).bind fun _ _ => refuses_ok _
  exact (refuses_required _).bind fun _ _ => (refuses_required _).bind fun _ _ => refuses_ok _

/-- Changes to a question stop only where a value is missing or a key may not be changed. -/
theorem refuses_changes (tables : Tables) (changes : List QuestionChange) (question : Question) :
    Refuses (changes.foldlM (QuestionChange.apply tables) question) := by
  refine refuses_all (fun question change => ?_) changes question
  cases change with
  | id key =>
    exact (refuses_required key).bind fun _ _ => (refuses_demand _).bind fun _ _ =>
      (refuses_demand _).bind fun _ _ => refuses_ok _
  | plan value => exact refuses_ok _
  | _ value => exact (refuses_required value).bind fun _ _ => refuses_ok _

/-- A question that cannot be changed is refused. -/
theorem refusal_of_updateQuestion {id : String} {changes : List QuestionChange}
    (failed : (database.updateQuestion id changes).1 = .error failure) : IsRefusal failure := by
  refine Refuses.commit ((refuses_demand _).bind fun _ _ => ?_) (refuses_readBack _ _) failed
  split
  · exact refuses_failed _
  · exact (refuses_sendIf _ _ _ _).bind fun _ _ => (refuses_changes _ _ _).bind fun _ _ =>
      (refuses_finish _).bind fun _ _ => refuses_ok _

/-- A question that cannot be removed is refused. -/
theorem refusal_of_deleteQuestion {id : String}
    (failed : (database.deleteQuestion id).1 = .error failure) : IsRefusal failure := by
  refine Refuses.commit ?_ (refuses_ok ()) failed
  refine (refuses_demand _).bind fun _ _ => ?_
  split
  · refine Refuses.bind ?_ fun _ _ => refuses_ok _
    exact (refuses_demand _).bind fun _ _ => (refuses_demand _).bind fun _ _ =>
      (refuses_demand _).bind fun _ _ => (refuses_sendIf _ _ _ _).bind fun _ _ =>
        (refuses_sendIf _ _ _ _).bind fun _ _ => (refuses_sendIf _ _ _ _).bind fun _ _ =>
          (refuses_demand _).bind fun _ _ => (refuses_finish _).bind fun _ _ => refuses_ok _
  · exact refuses_ok _

/-- A question that cannot be read is refused. -/
theorem refusal_of_getQuestion {id : String} (failed : database.getQuestion id = .error failure) :
    IsRefusal failure := by
  refine Refuses.answering ((refuses_demand _).bind fun _ _ => ?_) failed
  split
  · exact refuses_ok _
  · exact (refuses_demand _).bind fun _ _ => (refuses_demand _).bind fun _ _ => refuses_ok _

/-- Suggested questions that cannot be read are refused. -/
theorem refusal_of_suggestedQuestions (failed : database.suggestedQuestions = .error failure) :
    IsRefusal failure :=
  Refuses.answering ((refuses_demand _).bind fun _ _ => refuses_ok _) failed

/-- Questions of users that cannot be read are refused. -/
theorem refusal_of_userQuestions (failed : database.userQuestions = .error failure) :
    IsRefusal failure :=
  Refuses.answering ((refuses_demand _).bind fun _ _ => refuses_ok _) failed

/-- What is known about a job and cannot be stored is refused. -/
theorem refusal_of_createRecord {now : Micros} {questionId jobId status reason : Option String}
    (failed : (database.createRecord now questionId jobId status reason).1 = .error failure) :
    IsRefusal failure := by
  refine Refuses.commit ?_ (refuses_readBack _ _) failed
  exact (refuses_demand _).bind fun _ _ => (refuses_required _).bind fun _ _ =>
    (refuses_required _).bind fun _ _ => (refuses_demand _).bind fun _ _ =>
      (refuses_demand _).bind fun _ _ => (refuses_finish _).bind fun _ _ => refuses_ok _

/-- Changes to a record stop only where a value or a question is missing or a key is taken. -/
theorem refuses_recordChanges (tables : Tables) (changes : List RecordChange)
    (record : JobRecord) : Refuses (changes.foldlM (RecordChange.apply tables) record) := by
  refine refuses_all (fun record change => ?_) changes record
  cases change with
  | question id =>
    exact (refuses_required id).bind fun _ _ => (refuses_demand _).bind fun _ _ => refuses_ok _
  | job id =>
    exact (refuses_required id).bind fun _ _ => (refuses_demand _).bind fun _ _ => refuses_ok _
  | failedReason text => exact refuses_ok _
  | _ value => exact (refuses_required value).bind fun _ _ => refuses_ok _

/-- What is known about a job and cannot be changed is refused. -/
theorem refusal_of_updateRecord {jobId : String} {changes : List RecordChange}
    (failed : (database.updateRecord jobId changes).1 = .error failure) : IsRefusal failure := by
  refine Refuses.commit ((refuses_demand _).bind fun _ _ => ?_) (refuses_ok ()) failed
  split
  · exact refuses_ok _
  · exact Refuses.bind ((refuses_sendIf _ _ _ _).bind fun _ _ =>
      (refuses_recordChanges _ _ _).bind fun _ _ =>
        (refuses_finish _).bind fun _ _ => refuses_ok _) fun _ _ => refuses_ok _

/-- A job with something to store that cannot be marked as completed is refused. -/
theorem refusal_of_completeJob {jobId : String} {returned result : Value}
    (stored : storedResult returned = .ok result)
    (failed : (database.completeJob jobId returned).1 = .error failure) : IsRefusal failure := by
  refine Refuses.commit ((refuses_demand _).bind fun _ _ => ?_) (refuses_ok ()) failed
  split
  · exact refuses_failed _
  · unfold completion
    rw [stored]
    refine (refuses_ok result).bind fun _ _ => (refuses_sendIf _ _ _ _).bind fun _ _ =>
      Refuses.bind ?_ fun _ _ => (refuses_finish _).bind fun _ _ => refuses_ok _
    refine (refuses_demand _).bind fun _ _ => ?_
    split
    · exact (refuses_demand _).bind fun _ _ => refuses_ok _
    · exact (refuses_sendIf _ _ _ _).bind fun _ _ => refuses_ok _

/-- A request that cannot be stored is refused. -/
theorem refusal_of_logRequest {now : Micros} {questionId source : Option String}
    (failed : (database.logRequest now questionId source).1 = .error failure) :
    IsRefusal failure := by
  refine Refuses.commit ?_ (refuses_ok ()) failed
  exact (refuses_demand _).bind fun _ _ => (refuses_required _).bind fun _ _ =>
    (refuses_demand _).bind fun _ _ => (refuses_finish _).bind fun _ _ => refuses_ok _

/-- Popular questions that cannot be suggested are refused. -/
theorem refusal_of_promoteSince {since : Micros} {threshold : Int}
    (failed : (database.promoteSince since threshold).1 = .error failure) : IsRefusal failure := by
  refine Refuses.commit ?_ (refuses_ok ()) failed
  exact (refuses_demand _).bind fun _ _ => (refuses_finish _).bind fun _ _ => refuses_ok _

end QuestionDesk.Database
