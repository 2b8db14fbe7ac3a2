import QuestionDesk.Proofs.Database.Integrity

/-!
# Histories of the database

All calls to the database are one kind of thing here, so that a history of the database is a list of
calls, each with what fails while it is made. From tables that are sound every history leads to
tables that are sound.
-/
namespace QuestionDesk.Database

/-- A call to the database. -/
inductive Operation where
  /-- Storing a question. -/
  | createQuestion (now : Micros) (draft : Draft)
  /-- Changing a question. -/
  | updateQuestion (id : String) (changes : List QuestionChange)
  /-- Removing a question. -/
  | deleteQuestion (id : String)
  /-- Reading a question. -/
  | getQuestion (id : String)
  /-- Reading the suggested questions. -/
  | suggestedQuestions
  /-- Reading the questions of users. -/
  | userQuestions
  /-- Storing what is known about a job. -/
  | createRecord (now : Micros) (questionId jobId status failedReason : Option String)
  /-- Changing what is known about a job. -/
  | updateRecord (jobId : String) (changes : List RecordChange)
  /-- Marking a job as completed, with what it returned. -/
  | completeJob (jobId : String) (returned : Value)
  /-- Storing that a question was asked. -/
  | logRequest (now : Micros) (questionId source : Option String)
  /-- Making popular questions suggested ones. -/
  | promote (now : Micros) (threshold windowHours : Int)

namespace Operation

/-- Whether a call succeeded, without its answer. -/
def settled {α : Type} (result : Except Failure α × Database) : Except Failure Unit × Database :=
  (result.1.map fun _ => (), result.2)

/-- What a call leads to. -/
def perform (database : Database) : Operation → Except Failure Unit × Database
  | .createQuestion now draft => settled (database.createQuestion now draft)
  | .updateQuestion id changes => settled (database.updateQuestion id changes)
  | .deleteQuestion id => settled (database.deleteQuestion id)
  | .getQuestion id => settled (database.getQuestion id, database)
  | .suggestedQuestions => settled (database.suggestedQuestions, database)
  | .userQuestions => settled (database.userQuestions, database)
  | .createRecord now questionId jobId status failedReason =>
    settled (database.createRecord now questionId jobId status failedReason)
  | .updateRecord jobId changes => settled (database.updateRecord jobId changes)
  | .completeJob jobId returned => settled (database.completeJob jobId returned)
  | .logRequest now questionId source => settled (database.logRequest now questionId source)
  | .promote now threshold windowHours => settled (database.promote now threshold windowHours)

/-- A call that is given what there is something to store of, and moments that have a date. -/
def Proper : Operation → Prop
  | .completeJob _ returned => ∃ result, storedResult returned = .ok result
  | .promote now _ windowHours => ∃ since, hoursBefore now windowHours = .ok since
  | _ => True

/-- The table from which a call reads back what it has stored. -/
def readsBack? : Operation → Option Table
  | .createQuestion .. => some .questions
  | .updateQuestion .. => some .questions
  | .createRecord .. => some .records
  | _ => none

/-- How reading back what a call has stored ends. -/
def reading (database : Database) (operation : Operation) : Except Stop Unit :=
  (operation.readsBack?).elim (.ok ()) database.readBack

/-- The tables that a call makes of others where nothing keeps it from it. -/
def Stores (tables : Tables) (operation : Operation) (after : Tables) : Prop :=
  match operation with
  | .createQuestion now draft => ∃ question, draft.question now = .ok question ∧
      tables.hasQuestion draft.id = false ∧
      after = { tables with questions := tables.questions ++ [question] }
  | .updateQuestion id changes => ∃ question changed, tables.question? id = some question ∧
      (changes.filter (·.changes question)).foldlM (QuestionChange.apply tables) question =
        .ok changed ∧
      after = tables.withQuestion question.id changed
  | .deleteQuestion id =>
    after = if tables.hasQuestion id then tables.withoutQuestion id else tables
  | .createRecord now questionId jobId status failedReason => ∃ record : JobRecord,
      questionId = some record.questionId ∧ jobId = some record.jobId ∧
      record = ⟨record.questionId, record.jobId, status.getD pendingStatus, failedReason, now⟩ ∧
      tables.hasQuestion record.questionId = true ∧ tables.hasRecord record.jobId = false ∧
      after = { tables with records := tables.records ++ [record] }
  | .updateRecord jobId changes =>
    tables.record? jobId = none ∧ after = tables ∨
      ∃ record changed, tables.record? jobId = some record ∧
        (changes.filter (·.changes record)).foldlM (RecordChange.apply tables) record =
          .ok changed ∧
        after = tables.withRecord record.jobId changed
  | .completeJob jobId returned => ∃ record result, tables.record? jobId = some record ∧
      storedResult returned = .ok result ∧
      after = (tables.withRecord record.jobId { record with status := completedStatus }).storing
        ⟨record.questionId, result⟩
  | .logRequest now questionId source => ∃ id, questionId = some id ∧
      tables.hasQuestion id = true ∧
      after = { tables with requests := tables.requests ++ [⟨id, source, now⟩] }
  | .promote now threshold windowHours => ∃ since, hoursBefore now windowHours = .ok since ∧
      after = { tables with
        questions := tables.questions.map fun question =>
          if tables.isPromoted since threshold question then
            { question with kind := suggestedKind } else question }
  | _ => after = tables

end Operation

/-! ## One call -/

/-- A change to a question leaves its key, or gives it one that is not taken where nothing belongs
to it. -/
theorem key_of_change {tables : Tables} {change : QuestionChange} {question changed : Question}
    {key : String} (applied : QuestionChange.apply tables question change = .ok changed)
    (keyed : question.id = key ∨
      tables.hasQuestion question.id = false ∧ tables.hasBelongings key = false) :
    changed.id = key ∨ tables.hasQuestion changed.id = false ∧ tables.hasBelongings key = false := by
  cases change with
  | id new =>
    obtain ⟨name, _, applied⟩ := ok_of_bind applied
    obtain ⟨_, free, applied⟩ := ok_of_bind applied
    obtain ⟨_, bare, applied⟩ := ok_of_bind applied
    cases applied
    refine Or.inr ⟨by simpa using of_demand free, ?_⟩
    -- The tables stay those before the call, so only the first key it had belongs to anything.
    rcases keyed with kept | ⟨_, bare⟩
    · rw [← kept]
      simpa using of_demand bare
    · exact bare
  | plan value =>
    cases applied
    exact keyed
  | _ value =>
    cases value <;> cases applied
    exact keyed

/-- Changes to a question leave its key, or give it one that is not taken where nothing belongs to
it. -/
theorem key_of_changes {tables : Tables} {changes : List QuestionChange} {question changed : Question}
    {key : String}
    (keyed : question.id = key ∨
      tables.hasQuestion question.id = false ∧ tables.hasBelongings key = false)
    (applied : changes.foldlM (QuestionChange.apply tables) question = .ok changed) :
    changed.id = key ∨ tables.hasQuestion changed.id = false ∧ tables.hasBelongings key = false :=
  kept_by_all (fun first before => key_of_change first before) applied keyed

/-- A change to what is known about a job leaves its key or gives it one that is not taken, and
leaves its question or gives it one that is there. -/
theorem keys_of_change {tables : Tables} {change : RecordChange} {record changed : JobRecord}
    {key : String} (applied : RecordChange.apply tables record change = .ok changed)
    (before : (record.jobId = key ∨ tables.hasRecord record.jobId = false) ∧
      tables.hasQuestion record.questionId = true) :
    (changed.jobId = key ∨ tables.hasRecord changed.jobId = false) ∧
      tables.hasQuestion changed.questionId = true := by
  cases change with
  | question id =>
    obtain ⟨name, _, applied⟩ := ok_of_bind applied
    obtain ⟨_, found, applied⟩ := ok_of_bind applied
    cases applied
    exact ⟨before.1, of_demand found⟩
  | job id =>
    obtain ⟨name, _, applied⟩ := ok_of_bind applied
    obtain ⟨_, free, applied⟩ := ok_of_bind applied
    cases applied
    exact ⟨Or.inr (by simpa using of_demand free), before.2⟩
  | failedReason text =>
    cases applied
    exact before
  | _ value =>
    cases value <;> cases applied
    exact before

/-- Changes to what is known about a job leave its key or give it one that is not taken, and leave
its question or give it one that is there. -/
theorem keys_of_changes {tables : Tables} {changes : List RecordChange}
    {record changed : JobRecord} {key : String}
    (keyed : record.jobId = key ∨ tables.hasRecord record.jobId = false)
    (there : tables.hasQuestion record.questionId = true)
    (applied : changes.foldlM (RecordChange.apply tables) record = .ok changed) :
    (changed.jobId = key ∨ tables.hasRecord changed.jobId = false) ∧
      tables.hasQuestion changed.questionId = true :=
  kept_by_all (fun first before => keys_of_change first before) applied ⟨keyed, there⟩

/-- A call that ends as a transaction does ends so without its answer too. -/
theorem Ended.settled {α : Type} {database : Database} {reading : Except Stop Unit}
    {stores : α → Tables → Prop} {result : Except Failure α × Database}
    (ended : Ended database reading stores result) {makes : Tables → Prop}
    (stored : ∀ {value tables}, stores value tables → makes tables) :
    Ended database reading (fun _ => makes) (Operation.settled result) := by
  cases ended with
  | undone failure => exact .undone failure
  | through did read => exact @Ended.through Unit _ _ _ () _ (stored did) read
  | unread failure did unread => exact @Ended.unread Unit _ _ _ failure () _ (stored did) unread

/-- Reading changes nothing. -/
theorem ended_read {α : Type} (database : Database) (outcome : Except Failure α) :
    Ended database (.ok ()) (fun _ => (· = database.tables))
      (Operation.settled (outcome, database)) := by
  cases outcome with
  | error failure => exact .undone failure
  | ok value => exact @Ended.through Unit _ _ _ () database.tables rfl rfl

/-- Every call is undone, or it stores what it makes of the tables. -/
theorem Operation.ended (database : Database) (operation : Operation) :
    Ended database (operation.reading database) (fun _ => operation.Stores database.tables)
      (operation.perform database) := by
  cases operation with
  | createQuestion now draft =>
    exact (createQuestion_ended database now draft).settled fun stored => ⟨_, stored⟩
  | updateQuestion id changes =>
    refine (updateQuestion_ended database id changes).settled ?_
    rintro changed _ ⟨question, stored⟩
    exact ⟨question, changed, stored⟩
  | deleteQuestion id => exact (deleteQuestion_ended database id).settled fun after => after
  | getQuestion id => exact ended_read database _
  | suggestedQuestions => exact ended_read database _
  | userQuestions => exact ended_read database _
  | createRecord now questionId jobId status failedReason =>
    refine (createRecord_ended database now questionId jobId status failedReason).settled ?_
    rintro ⟨_, _, _, _, _⟩ _ ⟨question, job, rfl, rfl, rfl, there, free, after⟩
    exact ⟨_, question, job, rfl, there, free, after⟩
  | updateRecord jobId changes =>
    refine (updateRecord_ended database jobId changes).settled ?_
    rintro _ _ (⟨unknown, _, after⟩ | ⟨record, changed, found, applied, _, after⟩)
    · exact Or.inl ⟨unknown, after⟩
    · exact Or.inr ⟨record, changed, found, applied, after⟩
  | completeJob jobId returned =>
    refine (completeJob_ended database jobId returned).settled ?_
    rintro ⟨_, result⟩ _ ⟨record, found, shaped, rfl, after⟩
    exact ⟨record, result, found, shaped, after⟩
  | logRequest now questionId source =>
    refine (logRequest_ended database now questionId source).settled ?_
    rintro ⟨_, _, _⟩ _ ⟨question, rfl, rfl, there, after⟩
    exact ⟨_, question, there, after⟩
  | promote now threshold windowHours =>
    simp only [perform, Database.promote]
    split
    · next since dated =>
      exact (promoteSince_ended database since threshold).settled fun after => ⟨since, dated, after⟩
    · exact .undone _

/-- What a call makes of sound tables is sound. -/
theorem Tables.Sound.stores {tables after : Tables} (sound : tables.Sound) {operation : Operation}
    (stored : operation.Stores tables after) : after.Sound := by
  cases operation with
  | createQuestion now draft =>
    obtain ⟨question, drafted, free, rfl⟩ := stored
    obtain ⟨_, _, drafted⟩ := ok_of_bind drafted
    obtain ⟨_, _, drafted⟩ := ok_of_bind drafted
    cases drafted
    exact sound.add_question free
  | updateQuestion id changes =>
    obtain ⟨question, changed, found, applied, rfl⟩ := stored
    exact sound.replace_question (key_of_changes (Or.inl rfl) applied)
  | deleteQuestion id =>
    obtain rfl := stored
    split
    · exact sound.without_question id
    · exact sound
  | getQuestion id => exact stored ▸ sound
  | suggestedQuestions => exact stored ▸ sound
  | userQuestions => exact stored ▸ sound
  | createRecord now questionId jobId status failedReason =>
    obtain ⟨record, _, _, _, there, free, rfl⟩ := stored
    exact sound.add_record there free
  | updateRecord jobId changes =>
    obtain ⟨_, rfl⟩ | ⟨record, changed, found, applied, rfl⟩ := stored
    · exact sound
    · obtain ⟨keyed, there⟩ := keys_of_changes (Or.inl rfl)
        (sound.recorded (of_record? found).1) applied
      exact sound.replace_record there keyed
  | completeJob jobId returned =>
    obtain ⟨record, result, found, _, rfl⟩ := stored
    have there := sound.recorded (of_record? found).1
    have marked : (tables.withRecord record.jobId
        { record with status := completedStatus }).Sound :=
      sound.replace_record there (Or.inl rfl)
    exact marked.storing there
  | logRequest now questionId source =>
    obtain ⟨id, _, there, rfl⟩ := stored
    exact sound.add_request there
  | promote now threshold windowHours =>
    obtain ⟨since, _, rfl⟩ := stored
    have keys : (tables.questions.map fun question =>
        if tables.isPromoted since threshold question then
          { question with kind := suggestedKind } else question).map (·.id) =
        tables.questions.map (·.id) := by
      rw [List.map_map]
      refine List.map_congr_left fun question _ => ?_
      simp only [Function.comp_apply]
      split <;> rfl
    exact sound.with_questions (keys ▸ sound.questions) fun id there _ => keys ▸ there

/-! ## Histories -/

/-- The tables after a call during which some things fail. -/
def Tables.after (tables : Tables) (step : List Fault × Operation) : Tables :=
  (step.2.perform ⟨tables, step.1⟩).2.tables

/-- A call leaves sound tables sound, whatever fails. -/
theorem Tables.Sound.after {tables : Tables} (sound : tables.Sound)
    (step : List Fault × Operation) : (tables.after step).Sound := by
  unfold Tables.after
  rcases (step.2.ended ⟨tables, step.1⟩).cases with ⟨_, undone⟩ | ⟨_, _, stored, later⟩
  · rw [undone]
    exact sound
  · rw [later]
    exact sound.stores stored

/-- Every history leaves sound tables sound. -/
theorem Tables.Sound.foldl {tables : Tables} (sound : tables.Sound)
    (history : List (List Fault × Operation)) : (history.foldl Tables.after tables).Sound := by
  induction history generalizing tables with
  | nil => exact sound
  | cons step rest ih => exact ih (sound.after step)

/-- Empty tables are sound. -/
theorem sound_empty : Tables.Sound {} :=
  ⟨List.nodup_nil, List.nodup_nil, List.nodup_nil, nofun, nofun, nofun⟩

/-! ## Failures -/

/-- Where nothing fails, a call succeeds that can store something, and stores it. -/
theorem Operation.Stores.perform {tables after : Tables} {operation : Operation}
    (stored : operation.Stores tables after) (reads : operation.readsBack?.isSome = true) :
    operation.perform ⟨tables, []⟩ = (.ok (), ⟨after, []⟩) := by
  cases operation with
  | createQuestion now draft =>
    obtain ⟨question, drafted, free, rfl⟩ := stored
    rw [Operation.perform, createQuestion_calm now tables drafted free]
    rfl
  | updateQuestion id changes =>
    obtain ⟨question, changed, found, applied, rfl⟩ := stored
    rw [Operation.perform, updateQuestion_calm tables found applied]
    rfl
  | createRecord now questionId jobId status failedReason =>
    obtain ⟨record, rfl, rfl, same, there, free, rfl⟩ := stored
    rw [Operation.perform, createRecord_calm now tables status failedReason there free, same]
    rfl
  | _ => cases reads

/-- A proper call that fails does so because the database refused. -/
theorem Operation.refusal {database : Database} {operation : Operation} {failure : Failure}
    (proper : operation.Proper) (failed : (operation.perform database).1 = .error failure) :
    IsRefusal failure := by
  have told {α : Type} {outcome : Except Failure α}
      (failed : outcome.map (fun _ => ()) = .error failure) : outcome = .error failure := by
    cases outcome with
    | error other => exact congrArg Except.error (Except.error.inj failed)
    | ok value => cases failed
  cases operation with
  | createQuestion now draft => exact refusal_of_createQuestion (told failed)
  | updateQuestion id changes => exact refusal_of_updateQuestion (told failed)
  | deleteQuestion id => exact refusal_of_deleteQuestion (told failed)
  | getQuestion id => exact refusal_of_getQuestion (told failed)
  | suggestedQuestions => exact refusal_of_suggestedQuestions (told failed)
  | userQuestions => exact refusal_of_userQuestions (told failed)
  | createRecord now questionId jobId status failedReason =>
    exact refusal_of_createRecord (told failed)
  | updateRecord jobId changes => exact refusal_of_updateRecord (told failed)
  | completeJob jobId returned =>
    obtain ⟨result, shaped⟩ := proper
    exact refusal_of_completeJob shaped (told failed)
  | logRequest now questionId source => exact refusal_of_logRequest (told failed)
  | promote now threshold windowHours =>
    obtain ⟨since, dated⟩ := proper
    simp only [perform, Database.promote, dated] at failed
    exact refusal_of_promoteSince (told failed)

/-- A call that fails has changed nothing, or it has stored what it would have stored where nothing
fails and could not read that back. -/
theorem Operation.left_by_failure {database : Database} {operation : Operation} {failure : Failure}
    (failed : (operation.perform database).1 = .error failure) :
    (operation.perform database).2 = database ∨
      operation.reading database ≠ .ok () ∧ ∃ after,
        operation.perform ⟨database.tables, []⟩ = (.ok (), ⟨after, []⟩) ∧
        (operation.perform database).2 = { database with tables := after } := by
  generalize result : operation.perform database = outcome at failed
  have ended := operation.ended database
  rw [result] at ended
  cases ended with
  | undone failure => exact Or.inl rfl
  | through stored read => cases failed
  | unread failure stored unread =>
    have reads : operation.readsBack?.isSome = true := by
      unfold reading at unread
      cases table : operation.readsBack? with
      | none =>
        rw [table] at unread
        exact absurd rfl unread
      | some table => rfl
    exact Or.inr ⟨unread, _, stored.perform reads, rfl⟩

/-! ## Completing and removing -/

section Sound

variable {database : Database} (sound : database.tables.Sound)

include sound

/-- Marking a job as completed changes both its status and the answer to its question, or nothing;
the question then has one answer, which is the one stored or one that does not differ from it. -/
theorem completeJob_both {returned result : Value} (shaped : storedResult returned = .ok result)
    (jobId : String) :
    (∃ failure, database.completeJob jobId returned = (.error failure, database)) ∨
    ∃ record ∈ database.tables.records, record.jobId = jobId ∧ ∃ answers held,
      database.completeJob jobId returned = (.ok ⟨record.questionId, result⟩, { database with
        tables := { database.tables.withRecord jobId
          { record with status := completedStatus } with answers } }) ∧
      answers.filter (·.questionId = record.questionId) = [held] ∧
      (held.result = result ∨
        held ∈ database.tables.answers ∧ held.result.same result = true) ∧
      answers.filter (·.questionId ≠ record.questionId) =
        database.tables.answers.filter (·.questionId ≠ record.questionId) := by
  generalize ends : database.completeJob jobId returned = outcome
  have ended := completeJob_ended database jobId returned
  rw [ends] at ended
  cases ended with
  | undone failure => exact Or.inl ⟨failure, rfl⟩
  | unread failure _ unread => exact absurd rfl unread
  | @through answer _ stored =>
    right
    obtain ⟨record, found, returns, own, rfl⟩ := stored
    obtain ⟨member, rfl⟩ := Tables.of_record? found
    obtain ⟨question, rows⟩ := answer
    simp only at own returns
    rw [shaped] at returns
    cases returns
    subst own
    have there := sound.recorded member
    have marked : (database.tables.withRecord record.jobId
        { record with status := completedStatus }).Sound :=
      sound.replace_record there (Or.inl rfl)
    obtain ⟨held, only, written, others, same⟩ :=
      marked.holds_stored ⟨record.questionId, result⟩
    exact ⟨record, member, rfl, _, held, by rw [same], only,
      written.imp_left (congrArg Answer.result), others⟩

/-- Removing a question takes away exactly what the tables hold of it, or changes nothing. -/
theorem deleteQuestion_exactly (id : String) :
    (∃ failure, database.deleteQuestion id = (.error failure, database)) ∨
      database.deleteQuestion id =
        (.ok (), { database with tables := database.tables.withoutQuestion id }) := by
  generalize ends : database.deleteQuestion id = outcome
  have ended := deleteQuestion_ended database id
  rw [ends] at ended
  cases ended with
  | undone failure => exact Or.inl ⟨failure, rfl⟩
  | unread failure _ unread => exact absurd rfl unread
  | through stored =>
    right
    split at stored
    · rw [stored]
    · next absent =>
      have bare {other : String} (there : database.tables.hasQuestion other = true) : other ≠ id :=
        fun same => absent (same ▸ there)
      have same : database.tables.withoutQuestion id = database.tables := by
        unfold Tables.withoutQuestion
        congr 1
        · exact List.filter_eq_self.mpr fun question member => decide_eq_true
            (bare (Tables.hasQuestion_iff_mem.mpr (List.mem_map_of_mem member)))
        · exact List.filter_eq_self.mpr fun record member =>
            decide_eq_true (bare (sound.recorded member))
        · exact List.filter_eq_self.mpr fun answer member =>
            decide_eq_true (bare (sound.answered member))
        · exact List.filter_eq_self.mpr fun request member =>
            decide_eq_true (bare (sound.requested member))
      rw [stored, same]

end Sound

/-- A question that was removed is not removed again. -/
theorem deleteQuestion_again (tables : Tables) (faults : List Fault) (id : String) :
    (deleteQuestion ⟨tables.withoutQuestion id, faults⟩ id).2 =
      ⟨tables.withoutQuestion id, faults⟩ := by
  have gone : (tables.withoutQuestion id).hasQuestion id = false := by
    simp [Tables.hasQuestion, Tables.withoutQuestion]
  rcases (deleteQuestion_ended ⟨tables.withoutQuestion id, faults⟩ id).cases with
    ⟨_, undone⟩ | ⟨_, _, rfl, after⟩
  · rw [undone]
  · rw [after]
    simp only [gone]
    rfl

/-- After every history that began with sound tables, and whatever fails next, the tables are sound; a
call that fails does so because the database refused, and has changed nothing unless it could not
read back what it has stored; a job is marked as completed together with the answer to its question;
and a question is removed with exactly what belongs to it, once. -/
theorem histories_keep_integrity {tables : Tables} (sound : tables.Sound)
    (history : List (List Fault × Operation)) (faults : List Fault) :
    let database : Database := ⟨history.foldl Tables.after tables, faults⟩
    database.tables.Sound ∧
    (∀ (operation : Operation) failure, (operation.perform database).1 = .error failure →
      (operation.Proper → IsRefusal failure) ∧
      ((operation.perform database).2 = database ∨
        operation.reading database ≠ .ok () ∧ ∃ after,
          operation.perform ⟨database.tables, []⟩ = (.ok (), ⟨after, []⟩) ∧
          (operation.perform database).2 = { database with tables := after })) ∧
    (∀ jobId returned result, storedResult returned = .ok result →
      (∃ failure, database.completeJob jobId returned = (.error failure, database)) ∨
      ∃ record ∈ database.tables.records, record.jobId = jobId ∧ ∃ answers held,
        database.completeJob jobId returned = (.ok ⟨record.questionId, result⟩, { database with
          tables := { database.tables.withRecord jobId
            { record with status := completedStatus } with answers } }) ∧
        answers.filter (·.questionId = record.questionId) = [held] ∧
        (held.result = result ∨
          held ∈ database.tables.answers ∧ held.result.same result = true) ∧
        answers.filter (·.questionId ≠ record.questionId) =
          database.tables.answers.filter (·.questionId ≠ record.questionId)) ∧
    ∀ id, ((∃ failure, database.deleteQuestion id = (.error failure, database)) ∨
        database.deleteQuestion id =
          (.ok (), { database with tables := database.tables.withoutQuestion id })) ∧
      ∀ later, (deleteQuestion ⟨database.tables.withoutQuestion id, later⟩ id).2 =
        ⟨database.tables.withoutQuestion id, later⟩ := by
  have kept := sound.foldl history
  refine ⟨kept, fun operation failure failed => ?_, fun jobId returned result shaped => ?_,
    fun id => ?_⟩
  · exact ⟨fun proper => Operation.refusal proper failed, Operation.left_by_failure failed⟩
  · exact completeJob_both kept shaped jobId
  · exact ⟨deleteQuestion_exactly kept id, fun later => deleteQuestion_again _ later id⟩

/-- A record that cannot be stored is refused and leaves the tables with the question that was stored
before. -/
theorem integrity_of_unrecorded : Tables.Sound {} ∧
    let draft : Draft := { id := "a", content := some "Which types?" }
    let history : List (List Fault × Operation) := [([], .createQuestion 0 draft)]
    let database : Database := ⟨history.foldl Tables.after {}, [.statement .insert .records]⟩
    database.tables.Sound ∧ ∃ failure,
      (Operation.perform database (.createRecord 0 "a" "job" none none)) =
        (.error failure, database) ∧ IsRefusal failure := by
  refine ⟨sound_empty, ?_⟩
  obtain ⟨kept, fails, _⟩ := histories_keep_integrity sound_empty
    [([], .createQuestion 0 { id := "a", content := some "Which types?" })]
    [.statement .insert .records]
  obtain ⟨refused, _⟩ := fails (.createRecord 0 "a" "job" none none) _ rfl
  exact ⟨kept, _, rfl, refused trivial⟩

/-- A question that was stored and could not be read back stays, though storing it failed. -/
theorem unread_question_stays :
    ¬∀ (database : Database) (operation : Operation) failure, database.tables.Sound →
      operation.Proper → (operation.perform database).1 = .error failure →
        (operation.perform database).2 = database := by
  intro unchanged
  have same := unchanged ⟨{}, [.statement .select .questions]⟩
    (.createQuestion 0 { id := "q1", content := some "Which types?" }) _ sound_empty trivial rfl
  exact absurd same (by decide)

end QuestionDesk.Database
