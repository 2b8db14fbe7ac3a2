import QuestionDesk.Database.Popularity
import QuestionDesk.Database.Questions
import QuestionDesk.Database.Records

/-!
# Effects of transactions

A transaction is undone, or it leaves the tables that it has worked out; in the latter case it fails
all the same where what it has stored cannot be read back. For each call to the database one lemma
says what the tables are that it works out and under which conditions it gets there.
-/
namespace QuestionDesk.Database

/-! ## Rows -/

/-- The rows of a question after one row of its was replaced. -/
theorem filter_replaced {α : Type} {rows : List α} {key : α → String} {chosen : α → Bool}
    {row : α} (own : ∀ other ∈ rows, chosen other = true ↔ key other = key row) (id : String) :
    (rows.map fun other => if chosen other = true then row else other).filter (key · = id) =
      if id = key row then (rows.filter (key · = id)).map fun _ => row
      else rows.filter (key · = id) := by
  induction rows with
  | nil => simp
  | cons first rest ih =>
    have later := ih fun other member => own other (List.mem_cons_of_mem _ member)
    have here := own first List.mem_cons_self
    rw [List.map_cons]
    by_cases same : key first = key row
    · rw [if_pos (here.mpr same)]
      by_cases mine : id = key row
      · subst mine
        simpa [same] using later
      · simpa [same, mine, Ne.symm mine] using later
    · rw [if_neg fun chosen => same (here.mp chosen)]
      by_cases mine : id = key row
      · subst mine
        simpa [same] using later
      · by_cases first : key first = id <;> simpa [first, mine] using later

/-! ## Transactions -/

/-- A computation that succeeds has succeeded in its first part. -/
theorem ok_of_bind {ε α β : Type} {first : Except ε α} {next : α → Except ε β} {result : β}
    (done : (first >>= next) = .ok result) :
    ∃ value, first = .ok value ∧ next value = .ok result := by
  cases first with
  | error failure => cases done
  | ok value => exact ⟨value, rfl, done⟩

/-- What each of several steps keeps, they keep after one another. -/
theorem kept_by_all {ε σ ι : Type} {step : σ → ι → Except ε σ} {property : σ → Prop}
    (keeps : ∀ {state item next}, step state item = .ok next → property state → property next)
    {items : List ι} {state final : σ} (done : items.foldlM step state = .ok final)
    (holds : property state) : property final := by
  induction items generalizing state with
  | nil =>
    cases done
    exact holds
  | cons item rest ih =>
    rw [List.foldlM_cons] at done
    obtain ⟨next, first, done⟩ := ok_of_bind done
    exact ih done (keeps first holds)

/-- A demand that is met holds. -/
theorem of_demand {condition : Bool} (met : demand condition = .ok ()) : condition = true := by
  unfold demand at met
  split at met
  · assumption
  · cases met

/-- A value that is required and found is there. -/
theorem of_required {α : Type} {value : Option α} {found : α} (here : required value = .ok found) :
    value = some found := by
  cases value with
  | none => cases here
  | some value => exact congrArg some (Except.ok.inj here)

/-- A computation that succeeds has succeeded however its failures are told. -/
theorem of_mapError {ε δ α : Type} {tell : ε → δ} {outcome : Except ε α} {value : α}
    (done : outcome.mapError tell = .ok value) : outcome = .ok value := by
  cases outcome with
  | error failure => cases done
  | ok found => exact congrArg Except.ok (Except.ok.inj done)

/-- How a transaction ended, given how reading back what it has stored ends and what it may
store. -/
inductive Ended {α : Type} (database : Database) (reading : Except Stop Unit)
    (stores : α → Tables → Prop) : Except Failure α × Database → Prop
  /-- It was undone. -/
  | undone (failure : Failure) : Ended database reading stores (.error failure, database)
  /-- It went through. -/
  | through {value : α} {tables : Tables} (stored : stores value tables)
    (read : reading = .ok ()) :
    Ended database reading stores (.ok value, { database with tables := tables })
  /-- It went through, but what it has stored could not be read back. -/
  | unread (failure : Failure) {value : α} {tables : Tables} (stored : stores value tables)
    (unread : reading ≠ .ok ()) :
    Ended database reading stores (.error failure, { database with tables := tables })

section Ended

variable {α : Type} {database : Database} {reading : Except Stop Unit}
  {stores : α → Tables → Prop} {result : Except Failure α × Database}

/-- A transaction ends with what it has worked out. -/
theorem ended_commit {action : String} {work : Except Stop (α × Tables)}
    (works : ∀ {value tables}, work = .ok (value, tables) → stores value tables) :
    Ended database reading stores (database.commit action work reading) := by
  cases work with
  | error stop => exact .undone _
  | ok done =>
    cases reading with
    | error stop => exact .unread _ (works rfl) nofun
    | ok read => exact .through (works rfl) rfl

/-- A transaction was undone, or it left what it has worked out. -/
theorem Ended.cases (ended : Ended database reading stores result) :
    (∃ failure, result = (.error failure, database)) ∨
      ∃ value tables, stores value tables ∧ result.2 = { database with tables := tables } := by
  cases ended with
  | undone failure => exact Or.inl ⟨failure, rfl⟩
  | through stored => exact Or.inr ⟨_, _, stored, rfl⟩
  | unread _ stored => exact Or.inr ⟨_, _, stored, rfl⟩

/-- A transaction that succeeds left what it has worked out. -/
theorem Ended.stored {value : α} (ended : Ended database reading stores result)
    (done : result.1 = .ok value) :
    ∃ tables, stores value tables ∧ result.2 = { database with tables := tables } := by
  cases ended with
  | undone failure => cases done
  | through stored =>
    cases done
    exact ⟨_, stored, rfl⟩
  | unread failure stored => cases done

/-- A transaction that reads nothing back and fails was undone. -/
theorem Ended.unchanged {failure : Failure} (ended : Ended database (.ok ()) stores result)
    (failed : result.1 = .error failure) : result.2 = database := by
  cases ended with
  | undone failure => rfl
  | through stored => cases failed
  | unread failure stored unread => exact absurd rfl unread

end Ended

/-! ## Questions -/

variable (database : Database) (now : Micros)

/-- Storing a question adds it; its key was not taken. -/
theorem createQuestion_ended (draft : Draft) :
    Ended database (database.readBack .questions)
      (fun question tables => draft.question now = .ok question ∧
        database.tables.hasQuestion draft.id = false ∧ tables = { database.tables with
          questions := database.tables.questions ++ [question] })
      (database.createQuestion now draft) := by
  refine ended_commit fun work => ?_
  obtain ⟨_, _, work⟩ := ok_of_bind work
  obtain ⟨question, drafted, work⟩ := ok_of_bind work
  obtain ⟨_, free, work⟩ := ok_of_bind work
  obtain ⟨_, _, work⟩ := ok_of_bind work
  cases work
  exact ⟨drafted, by simpa using of_demand free, rfl⟩

/-- Changing a question replaces it by what the changes make of it. -/
theorem updateQuestion_ended (id : String) (changes : List QuestionChange) :
    Ended database (database.readBack .questions)
      (fun changed tables => ∃ question, database.tables.question? id = some question ∧
        (changes.filter (·.changes question)).foldlM (QuestionChange.apply database.tables)
          question = .ok changed ∧
        tables = database.tables.withQuestion question.id changed)
      (database.updateQuestion id changes) := by
  refine ended_commit fun work => ?_
  obtain ⟨_, _, work⟩ := ok_of_bind work
  split at work
  · cases work
  · next question found =>
    obtain ⟨_, _, work⟩ := ok_of_bind work
    obtain ⟨_, applied, work⟩ := ok_of_bind work
    obtain ⟨_, _, work⟩ := ok_of_bind work
    cases work
    exact ⟨question, found, applied, rfl⟩

/-- Removing a question that is there takes it away with whatever belongs to it. -/
theorem deleteQuestion_ended (id : String) :
    Ended database (.ok ())
      (fun (_ : Unit) tables => tables =
        if database.tables.hasQuestion id then database.tables.withoutQuestion id
        else database.tables)
      (database.deleteQuestion id) := by
  refine ended_commit fun work => ?_
  obtain ⟨_, _, work⟩ := ok_of_bind work
  split at work
  · next there =>
    obtain ⟨_, removal, work⟩ := ok_of_bind work
    cases work
    rw [if_pos there]
    unfold questionRemoval at removal
    obtain ⟨_, _, removal⟩ := ok_of_bind removal
    obtain ⟨_, _, removal⟩ := ok_of_bind removal
    obtain ⟨_, _, removal⟩ := ok_of_bind removal
    obtain ⟨_, _, removal⟩ := ok_of_bind removal
    obtain ⟨_, _, removal⟩ := ok_of_bind removal
    obtain ⟨_, _, removal⟩ := ok_of_bind removal
    obtain ⟨_, _, removal⟩ := ok_of_bind removal
    obtain ⟨_, _, removal⟩ := ok_of_bind removal
    exact (Except.ok.inj removal).symm
  · next absent =>
    cases work
    rw [if_neg absent]

/-! ## Records -/

/-- Storing what is known about a job adds it; its question is there, and nothing was known about
the job. -/
theorem createRecord_ended (questionId jobId status failedReason : Option String) :
    Ended database (database.readBack .records)
      (fun record tables => questionId = some record.questionId ∧ jobId = some record.jobId ∧
        record.status = status.getD pendingStatus ∧ record.failedReason = failedReason ∧
        record.createdAt = now ∧ database.tables.hasQuestion record.questionId = true ∧
        database.tables.hasRecord record.jobId = false ∧ tables = { database.tables with
          records := database.tables.records ++ [record] })
      (database.createRecord now questionId jobId status failedReason) := by
  refine ended_commit fun work => ?_
  obtain ⟨_, _, work⟩ := ok_of_bind work
  obtain ⟨_, question, work⟩ := ok_of_bind work
  obtain ⟨_, job, work⟩ := ok_of_bind work
  obtain ⟨_, there, work⟩ := ok_of_bind work
  obtain ⟨_, free, work⟩ := ok_of_bind work
  obtain ⟨_, _, work⟩ := ok_of_bind work
  cases work
  exact ⟨of_required question, of_required job, rfl, rfl, rfl, of_demand there,
    by simpa using of_demand free, rfl⟩

/-- Changing what is known about a job replaces it by what the changes make of it, if anything is
known. -/
theorem updateRecord_ended (jobId : String) (changes : List RecordChange) :
    Ended database (.ok ())
      (fun found tables =>
        database.tables.record? jobId = none ∧ found = none ∧ tables = database.tables ∨
        ∃ record changed, database.tables.record? jobId = some record ∧
          (changes.filter (·.changes record)).foldlM (RecordChange.apply database.tables) record =
            .ok changed ∧
          found = some changed ∧ tables = database.tables.withRecord record.jobId changed)
      (database.updateRecord jobId changes) := by
  refine ended_commit fun work => ?_
  obtain ⟨_, _, work⟩ := ok_of_bind work
  split at work
  · next unknown =>
    cases work
    exact Or.inl ⟨unknown, rfl, rfl⟩
  · next record known =>
    obtain ⟨_, update, work⟩ := ok_of_bind work
    cases work
    unfold recordUpdate at update
    obtain ⟨_, _, update⟩ := ok_of_bind update
    obtain ⟨changed, applied, update⟩ := ok_of_bind update
    obtain ⟨_, _, update⟩ := ok_of_bind update
    cases update
    exact Or.inr ⟨record, changed, known, applied, rfl, rfl⟩

/-- The tables with an answer stored: one that is there already is replaced if it differs. -/
def Tables.storing (tables : Tables) (answer : Answer) : Tables :=
  match tables.answer? answer.questionId with
  | none => { tables with answers := tables.answers ++ [answer] }
  | some known => if known.result.same answer.result then tables else tables.withAnswer answer

/-- Storing an answer leaves the tables with the answer. -/
theorem answerStorage_stored {tables after : Tables} {answer : Answer}
    (stored : database.answerStorage tables answer = .ok after) : after = tables.storing answer := by
  unfold answerStorage at stored
  unfold Tables.storing
  obtain ⟨_, _, stored⟩ := ok_of_bind stored
  cases found : tables.answer? answer.questionId with
  | none =>
    rw [found] at stored
    obtain ⟨_, _, stored⟩ := ok_of_bind stored
    exact (Except.ok.inj stored).symm
  | some known =>
    rw [found] at stored
    obtain ⟨_, _, stored⟩ := ok_of_bind stored
    rw [← Except.ok.inj stored]
    change _ = if known.result.same answer.result then tables else tables.withAnswer answer
    cases known.result.same answer.result <;> rfl

/-- Marking a job as completed marks what is known about it and stores the answer to its question. -/
theorem completeJob_ended (jobId : String) (returned : Value) :
    Ended database (.ok ())
      (fun answer tables => ∃ record, database.tables.record? jobId = some record ∧
        storedResult returned = .ok answer.result ∧ answer.questionId = record.questionId ∧
        tables = (database.tables.withRecord record.jobId
          { record with status := completedStatus }).storing answer)
      (database.completeJob jobId returned) := by
  refine ended_commit fun work => ?_
  obtain ⟨_, _, work⟩ := ok_of_bind work
  split at work
  · cases work
  · next record known =>
    unfold completion at work
    obtain ⟨result, shaped, work⟩ := ok_of_bind work
    obtain ⟨_, _, work⟩ := ok_of_bind work
    obtain ⟨_, storage, work⟩ := ok_of_bind work
    obtain ⟨_, _, work⟩ := ok_of_bind work
    cases work
    exact ⟨record, known, of_mapError shaped, rfl, answerStorage_stored _ storage⟩

/-! ## Requests -/

/-- That a question was asked is stored where the question is there. -/
theorem logRequest_ended (questionId source : Option String) :
    Ended database (.ok ())
      (fun request tables => questionId = some request.questionId ∧ request.source = source ∧
        request.createdAt = now ∧ database.tables.hasQuestion request.questionId = true ∧
        tables = { database.tables with requests := database.tables.requests ++ [request] })
      (database.logRequest now questionId source) := by
  refine ended_commit fun work => ?_
  obtain ⟨_, _, work⟩ := ok_of_bind work
  obtain ⟨_, question, work⟩ := ok_of_bind work
  obtain ⟨_, there, work⟩ := ok_of_bind work
  obtain ⟨_, _, work⟩ := ok_of_bind work
  cases work
  exact ⟨of_required question, rfl, rfl, of_demand there, rfl⟩

/-- Making questions suggested ones changes their kind and nothing else. -/
theorem promoteSince_ended (since : Micros) (threshold : Int) :
    Ended database (.ok ())
      (fun (_ : Int) tables => tables = { database.tables with
        questions := database.tables.questions.map fun question =>
          if database.tables.isPromoted since threshold question then
            { question with kind := suggestedKind } else question })
      (database.promoteSince since threshold) := by
  refine ended_commit fun work => ?_
  obtain ⟨_, _, work⟩ := ok_of_bind work
  obtain ⟨_, _, work⟩ := ok_of_bind work
  cases work
  rfl

/-! ## Where nothing fails -/

variable (tables : Tables)

/-- A question whose key is not taken is stored where nothing fails. -/
theorem createQuestion_calm {draft : Draft} {question : Question}
    (drafted : draft.question now = .ok question) (free : tables.hasQuestion draft.id = false) :
    createQuestion ⟨tables, []⟩ now draft =
      (.ok question, ⟨{ tables with questions := tables.questions ++ [question] }, []⟩) := by
  simp only [createQuestion, drafted, free]
  rfl

/-- A question that can be changed is changed where nothing fails. -/
theorem updateQuestion_calm {id : String} {changes : List QuestionChange}
    {question changed : Question} (found : tables.question? id = some question)
    (applied : (changes.filter (·.changes question)).foldlM (QuestionChange.apply tables) question =
      .ok changed) :
    updateQuestion ⟨tables, []⟩ id changes =
      (.ok changed, ⟨tables.withQuestion question.id changed, []⟩) := by
  have sent (condition : Bool) : sendIf ⟨tables, []⟩ condition .update .questions = .ok () := by
    cases condition <;> rfl
  simp only [updateQuestion, found, questionUpdate, applied, sent]
  rfl

/-- What is known about a job is stored where nothing fails, if its question is there and nothing
was known about the job. -/
theorem createRecord_calm {questionId jobId : String} (status failedReason : Option String)
    (there : tables.hasQuestion questionId = true) (free : tables.hasRecord jobId = false) :
    let record : JobRecord := ⟨questionId, jobId, status.getD pendingStatus, failedReason, now⟩
    createRecord ⟨tables, []⟩ now (some questionId) (some jobId) status failedReason =
      (.ok record, ⟨{ tables with records := tables.records ++ [record] }, []⟩) := by
  simp only [createRecord, required, bind, Except.bind, there, free]
  rfl

end QuestionDesk.Database
