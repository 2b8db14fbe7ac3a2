import QuestionDesk.Desk.Calls
import QuestionDesk.Proofs.Database.Effects

/-!
# Ledgers

The ledger of a question is what all four tables hold about it. A call to the database that succeeds
changes the ledger of one question in a simple way and leaves the ledgers of all others alone, so
whatever is said about a question is said about its ledger.
-/
namespace QuestionDesk.Database

/-- What is written about a question: its title and its query. -/
structure Wording where
  /-- The title. -/
  title : String
  /-- The query. -/
  sqlText : String
  /-- The fingerprint of the query. -/
  sqlHash : String
  /-- The plan of the query. -/
  plan : Value
  deriving DecidableEq, Repr

/-- What is written about a question. -/
def Question.wording (question : Question) : Wording :=
  ⟨question.title, question.sqlText, question.sqlHash, question.plan⟩

/-- What is written about a question before there is a query for it. -/
def Wording.draft : Wording := ⟨processingTitle, "", "", .null⟩

/-- What is written about a question with its query. -/
def Wording.saved (prepared : Pipeline.Prepared) : Wording :=
  ⟨prepared.title.shown, prepared.sql, prepared.hash, .object prepared.plan⟩

/-- What the tables hold about a question. -/
structure Ledger where
  /-- What is written about the question, if it is there. -/
  wording : Option Wording := none
  /-- What is known about its jobs. -/
  records : List JobRecord := []
  /-- Its answers. -/
  answers : List Answer := []
  /-- Its requests. -/
  requests : List Request := []
  deriving DecidableEq, Repr

/-- The ledger of a question. -/
def Tables.ledger (tables : Tables) (id : String) : Ledger where
  wording := (tables.question? id).map Question.wording
  records := tables.records.filter (·.questionId = id)
  answers := tables.answers.filter (·.questionId = id)
  requests := tables.requests.filter (·.questionId = id)

/-- A question is there where something is written about it. -/
theorem hasQuestion_iff (tables : Tables) (id : String) :
    tables.hasQuestion id = true ↔ ∃ wording, (tables.ledger id).wording = some wording := by
  unfold Tables.hasQuestion Tables.ledger Tables.question?
  rw [List.any_eq_true, ← List.find?_isSome, Option.isSome_iff_exists]
  constructor
  · rintro ⟨question, found⟩
    exact ⟨question.wording, by rw [found]; rfl⟩
  · rintro ⟨wording, written⟩
    obtain ⟨question, found, _⟩ := Option.map_eq_some_iff.mp written
    exact ⟨question, found⟩

/-- A question is not there where nothing is written about it. -/
theorem question?_eq_none {tables : Tables} {id : String} (absent : tables.hasQuestion id = false) :
    tables.question? id = none := by
  exact List.find?_eq_none.mpr (List.any_eq_false.mp absent)

/-! ## Questions -/

/-- What a draft becomes when it is stored. -/
theorem question_of_draft {now : Micros} {id content : String} {question : Question}
    (drafted : Draft.question { id, content := some content } now = .ok question) :
    question.id = id ∧ question.wording = .draft := by
  cases drafted
  exact ⟨rfl, rfl⟩

/-- Storing a question fails and changes nothing, or adds the question, which was not there. -/
theorem createQuestion_tables (database : Database) (now : Micros) (id content : String) :
    (∃ failure, database.createQuestion now { id, content := some content } =
      (.error failure, database)) ∨
    ∃ question, question.id = id ∧ question.wording = .draft ∧
      database.tables.hasQuestion id = false ∧
      (database.createQuestion now { id, content := some content }).2 = { database with
        tables := { database.tables with
          questions := database.tables.questions ++ [question] } } := by
  rcases (createQuestion_ended database now { id, content := some content }).cases with
    failed | ⟨question, _, ⟨drafted, absent, rfl⟩, after⟩
  · exact Or.inl failed
  · obtain ⟨key, draft⟩ := question_of_draft drafted
    exact Or.inr ⟨question, key, draft, absent, after⟩

/-- Storing a question fails and changes nothing, or writes the question, which was not there. -/
theorem createQuestion_cases (database : Database) (now : Micros) (id content : String) :
    (∃ failure, database.createQuestion now { id, content := some content } =
      (.error failure, database)) ∨
    (database.tables.ledger id).wording = none ∧ ∀ other,
      (database.createQuestion now { id, content := some content }).2.tables.ledger other =
        if other = id then { database.tables.ledger id with wording := some .draft }
        else database.tables.ledger other := by
  rcases createQuestion_tables database now id content with failed |
    ⟨question, key, draft, absent, after⟩
  · exact Or.inl failed
  · right
    rw [after]
    have none := question?_eq_none absent
    refine ⟨by rw [Tables.ledger, none]; rfl, fun other => ?_⟩
    unfold Tables.ledger Tables.question? at *
    by_cases own : other = id
    · subst own
      simp [List.find?_append, none, draft, key]
    · simp [List.find?_append, own, Ne.symm own, key]

/-- Replacing a question that is there leaves all others. -/
theorem question?_withQuestion (tables : Tables) (question : Question) (id : String) :
    (tables.withQuestion question.id question).question? id =
      if id = question.id then (tables.question? id).map fun _ => question
      else tables.question? id := by
  unfold Tables.question? Tables.withQuestion
  induction tables.questions with
  | nil => simp
  | cons first rest ih =>
    simp only at ih
    by_cases here : first.id = question.id
    · by_cases own : id = question.id
      · simp [here, own]
      · simpa [here, own, Ne.symm own] using ih
    · by_cases mine : first.id = id
      · have other : id ≠ question.id := mine ▸ here
        simp [mine, other]
      · simpa [here, mine] using ih

/-- What is written about a question after a change to it. -/
def Wording.after (wording : Wording) : QuestionChange → Wording
  | .title (some text) => { wording with title := text }
  | .sqlText (some text) => { wording with sqlText := text }
  | .sqlHash (some text) => { wording with sqlHash := text }
  | .plan value => { wording with plan := value }
  | _ => wording

/-- A question changed in something other than its key keeps it, and what is written about it
changes as it should. -/
theorem wording_of_changes {tables : Tables} {changes : List QuestionChange}
    {question changed : Question} (keyed : ∀ change ∈ changes, ∀ key, change ≠ .id key)
    (applied : changes.foldlM (QuestionChange.apply tables) question = .ok changed) :
    changed.id = question.id ∧ changed.wording = changes.foldl Wording.after question.wording := by
  induction changes generalizing question with
  | nil =>
    cases applied
    exact ⟨rfl, rfl⟩
  | cons change rest ih =>
    rw [List.foldlM_cons] at applied
    obtain ⟨next, first, applied⟩ := ok_of_bind applied
    have one : next.id = question.id ∧ next.wording = question.wording.after change := by
      cases change with
      | id key => exact absurd rfl (keyed _ List.mem_cons_self key)
      | plan value =>
        cases first
        exact ⟨rfl, rfl⟩
      | _ value =>
        cases value <;> cases first
        exact ⟨rfl, rfl⟩
    obtain ⟨key, written⟩ :=
      ih (fun other member => keyed other (List.mem_cons_of_mem _ member)) applied
    exact ⟨key.trans one.1, written.trans (by rw [one.2]; rfl)⟩

/-- What the changes of a query make of a draft, whichever of them change anything. -/
theorem saved_of_draft {prepared : Pipeline.Prepared} {question : Question}
    (draft : question.wording = .draft) :
    ((Desk.savedChanges prepared).filter (·.changes question)).foldl Wording.after .draft =
      .saved prepared := by
  obtain ⟨title, sqlText, sqlHash, plan⟩ : question.title = processingTitle ∧
      question.sqlText = "" ∧ question.sqlHash = "" ∧ question.plan = .null := by
    simpa only [Question.wording, Wording.draft, Wording.mk.injEq] using draft
  have planned : Value.same .null (.object prepared.plan) = false := rfl
  by_cases sql : prepared.sql = "" <;> by_cases hash : prepared.hash = "" <;>
    by_cases named : prepared.title.shown = processingTitle <;>
      simp [Desk.savedChanges, QuestionChange.changes, planned, sql, hash, named,
        title, sqlText, sqlHash, plan, Wording.after, Wording.saved, Wording.draft]

/-- Storing a query with a question fails and changes nothing, or writes the query over the
draft. -/
theorem updateQuestion_cases {database : Database} {id : String}
    (draft : (database.tables.ledger id).wording = some .draft) (prepared : Pipeline.Prepared) :
    (∃ failure, database.updateQuestion id (Desk.savedChanges prepared) =
      (.error failure, database)) ∨
    ∀ other, (database.updateQuestion id (Desk.savedChanges prepared)).2.tables.ledger other =
      if other = id then { database.tables.ledger id with wording := some (.saved prepared) }
      else database.tables.ledger other := by
  rcases (updateQuestion_ended database id (Desk.savedChanges prepared)).cases with
    failed | ⟨changed, _, ⟨question, found, applied, rfl⟩, after⟩
  · exact Or.inl failed
  · right
    rw [after]
    have same : question.wording = .draft := by
      rw [Tables.ledger, found] at draft
      exact Option.some.inj draft
    have keyed : ∀ change ∈ (Desk.savedChanges prepared).filter (·.changes question), ∀ key,
        change ≠ .id key := by
      intro change member key own
      rw [own] at member
      simp [Desk.savedChanges] at member
    obtain ⟨key, written⟩ := wording_of_changes keyed applied
    rw [same, saved_of_draft same] at written
    have own : question.id = id := by simpa using List.find?_some found
    intro other
    unfold Tables.ledger
    rw [← key, question?_withQuestion, key, own]
    split
    · next here =>
      rw [here, found, ← written]
      rfl
    · rfl

/-- Of the rows of all questions but one, those of the one are none and those of another are all. -/
theorem filter_without {α : Type} (rows : List α) (key : α → String) (removed id : String) :
    (rows.filter (key · ≠ removed)).filter (key · = id) =
      if id = removed then [] else rows.filter (key · = id) := by
  rw [List.filter_filter]
  split
  · next own =>
    simp [own]
  · next other =>
    apply List.filter_congr
    intro row _
    by_cases same : key row = id <;> simp [same, other]

/-- The ledgers without a question. -/
theorem ledger_withoutQuestion (tables : Tables) (removed id : String) :
    (tables.withoutQuestion removed).ledger id = if id = removed then {} else tables.ledger id := by
  have there : (tables.withoutQuestion removed).question? id =
      if id = removed then none else tables.question? id := by
    unfold Tables.question?
    rw [← List.head?_filter, ← List.head?_filter]
    simp only [Tables.withoutQuestion, filter_without]
    split <;> rfl
  unfold Tables.ledger
  rw [there]
  simp only [Tables.withoutQuestion, filter_without]
  split <;> rfl

/-- Removing a question that is there empties its ledger. -/
theorem ledger_deleteQuestion {database : Database} {key : String} {wording : Wording}
    (done : (database.deleteQuestion key).1 = .ok ())
    (asked : (database.tables.ledger key).wording = some wording) (id : String) :
    (database.deleteQuestion key).2.tables.ledger id =
      if id = key then {} else database.tables.ledger id := by
  obtain ⟨_, rfl, after⟩ := (deleteQuestion_ended database key).stored done
  have there : database.tables.hasQuestion key = true :=
    (hasQuestion_iff _ _).mpr ⟨wording, asked⟩
  rw [after, if_pos there]
  exact ledger_withoutQuestion database.tables key id

/-- Making questions suggested ones leaves every ledger as it is. -/
theorem ledger_promote (database : Database) (now : Micros) (threshold windowHours : Int)
    (id : String) :
    (database.promote now threshold windowHours).2.tables.ledger id =
      database.tables.ledger id := by
  unfold promote
  split
  · next since within =>
    rcases (promoteSince_ended database since threshold).cases with ⟨_, failed⟩ | ⟨_, _, rfl, after⟩
    · rw [failed]
    · rw [after]
      unfold Tables.ledger Tables.question?
      congr 1
      generalize database.tables.isPromoted since threshold = promoted
      simp only
      induction database.tables.questions with
      | nil => rfl
      | cons first rest ih =>
        by_cases chosen : promoted first = true <;> by_cases own : first.id = id <;>
          simp [chosen, own, Question.wording] at ih ⊢ <;> exact ih
  · rfl

/-! ## Requests -/

/-- That a question was asked is stored where the question is there, and nothing else happens. -/
theorem logRequest_cases (database : Database) (now : Micros) (key : String)
    (source : Option String) :
    (database.logRequest now (some key) source).2 = database ∨
      database.tables.hasQuestion key = true ∧ (database.logRequest now (some key) source).2 =
        { database with
          tables := { database.tables with
            requests := database.tables.requests ++ [⟨key, source, now⟩] } } := by
  rcases (logRequest_ended database now (some key) source).cases with
    ⟨_, failed⟩ | ⟨request, _, ⟨question, rfl, rfl, there, rfl⟩, after⟩
  · exact Or.inl (congrArg Prod.snd failed)
  · cases question
    exact Or.inr ⟨there, after⟩

/-- Storing that a question was asked changes nothing but the requests of a question that is
there. -/
theorem ledger_logRequest (database : Database) (now : Micros) (key : String)
    (source : Option String) (id : String) :
    (database.logRequest now (some key) source).2.tables.ledger id = database.tables.ledger id ∨
      (∃ wording, (database.tables.ledger id).wording = some wording) ∧ ∃ requests,
        (database.logRequest now (some key) source).2.tables.ledger id =
          { database.tables.ledger id with requests } := by
  rcases logRequest_cases database now key source with same | ⟨there, stored⟩
  · exact Or.inl (by rw [same])
  · rw [stored]
    by_cases own : key = id
    · subst own
      exact Or.inr ⟨(hasQuestion_iff _ _).mp there, _, rfl⟩
    · left
      simp [Tables.ledger, Tables.question?, own]

/-! ## Records -/

/-- Storing what is known about a job fails and changes nothing, or adds it; its question is there,
and nothing was known about the job. -/
theorem createRecord_tables (database : Database) (now : Micros) (key jobId status : String) :
    (∃ failure, database.createRecord now (some key) (some jobId) (some status) none =
      (.error failure, database)) ∨
    database.tables.hasQuestion key = true ∧
      (∀ record ∈ database.tables.records, record.jobId ≠ jobId) ∧
      (database.createRecord now (some key) (some jobId) (some status) none).2 = { database with
        tables := { database.tables with
          records := database.tables.records ++ [⟨key, jobId, status, none, now⟩] } } := by
  rcases (createRecord_ended database now (some key) (some jobId) (some status) none).cases with
    failed | ⟨⟨questionId, job, word, reason, moment⟩, _,
      ⟨question, keyed, rfl, rfl, rfl, there, unknown, rfl⟩, after⟩
  · exact Or.inl failed
  · cases question
    cases keyed
    refine Or.inr ⟨there, fun record member same => ?_, after⟩
    rw [Tables.hasRecord, List.any_eq_false] at unknown
    exact unknown record member (by simpa using same)

/-- Storing what is known about a job fails and changes nothing, or adds it to the ledger of its
question, which is there; nothing was known about the job. -/
theorem createRecord_cases (database : Database) (now : Micros) (key jobId status : String) :
    (∃ failure, database.createRecord now (some key) (some jobId) (some status) none =
      (.error failure, database)) ∨
    (∃ wording, (database.tables.ledger key).wording = some wording) ∧
      (∀ record ∈ database.tables.records, record.jobId ≠ jobId) ∧ ∀ id,
      (database.createRecord now (some key) (some jobId) (some status) none).2.tables.ledger id =
        if id = key then
          { database.tables.ledger key with
            records := (database.tables.ledger key).records ++ [⟨key, jobId, status, none, now⟩] }
        else database.tables.ledger id := by
  rcases createRecord_tables database now key jobId status with failed | ⟨there, unknown, after⟩
  · exact Or.inl failed
  · right
    rw [after]
    refine ⟨(hasQuestion_iff _ _).mp there, unknown, fun id => ?_⟩
    by_cases own : key = id
    · subst own
      simp [Tables.ledger, Tables.question?]
    · simp [Tables.ledger, Tables.question?, own, Ne.symm own]

/-- Where nothing is known about a job, changing it changes nothing. -/
theorem updateRecord_unknown {database : Database} {jobId : String}
    (unknown : database.tables.record? jobId = none) (changes : List RecordChange) :
    (database.updateRecord jobId changes).2 = database := by
  rcases (updateRecord_ended database jobId changes).cases with
    ⟨_, failed⟩ | ⟨_, _, ⟨_, _, rfl⟩ | ⟨record, _, known, _⟩, after⟩
  · rw [failed]
  · exact after
  · rw [unknown] at known
    cases known

/-- A change to what is known about a job that fails has changed nothing. -/
theorem updateRecord_failed {database : Database} {jobId : String} {changes : List RecordChange}
    {failure : Failure} (failed : (database.updateRecord jobId changes).1 = .error failure) :
    (database.updateRecord jobId changes).2 = database :=
  (updateRecord_ended database jobId changes).unchanged failed

/-- Where nothing is known about a job, it cannot be marked as completed. -/
theorem completeJob_unknown {database : Database} {jobId : String}
    (unknown : database.tables.record? jobId = none) (returned : Value) :
    ∃ failure, (database.completeJob jobId returned).1 = .error failure := by
  cases done : (database.completeJob jobId returned).1 with
  | error failure => exact ⟨failure, rfl⟩
  | ok answer =>
    obtain ⟨_, ⟨record, known, _⟩, _⟩ := (completeJob_ended database jobId returned).stored done
    rw [unknown] at known
    cases known

/-- Marking a job as completed, where that fails, changes nothing. -/
theorem completeJob_failed {database : Database} {jobId : String} {returned : Value}
    {failure : Failure} (failed : (database.completeJob jobId returned).1 = .error failure) :
    (database.completeJob jobId returned).2 = database :=
  (completeJob_ended database jobId returned).unchanged failed

/-- Nothing else is known about jobs of the question of a record, or about its job. -/
structure Tables.Sole (tables : Tables) (record : JobRecord) : Prop where
  /-- The record is the only one of its question. -/
  only : (tables.ledger record.questionId).records = [record]
  /-- No record of another question is about its job. -/
  apart : ∀ id ≠ record.questionId, ∀ other ∈ (tables.ledger id).records,
    other.jobId ≠ record.jobId

/-- The records about the job of a sole record are those of its question. -/
theorem Tables.Sole.own {tables : Tables} {record other : JobRecord} (sole : tables.Sole record)
    (member : other ∈ tables.records) :
    other.jobId = record.jobId ↔ other.questionId = record.questionId := by
  have listed : other ∈ (tables.ledger other.questionId).records :=
    List.mem_filter.mpr ⟨member, by simp⟩
  constructor
  · intro job
    apply Decidable.byContradiction
    intro different
    exact sole.apart _ different other listed job
  · intro question
    rw [question, sole.only, List.mem_singleton] at listed
    rw [listed]

/-- A sole record is found under the key of its job. -/
theorem Tables.Sole.record? {tables : Tables} {record : JobRecord} (sole : tables.Sole record) :
    tables.record? record.jobId = some record := by
  have member : record ∈ tables.records := by
    have listed : record ∈ (tables.ledger record.questionId).records := by simp [sole.only]
    exact (List.mem_filter.mp listed).1
  cases found : tables.record? record.jobId with
  | none =>
    have absent := List.find?_eq_none.mp found record member
    simp at absent
  | some other =>
    have inside := List.mem_of_find?_eq_some found
    have question := (sole.own inside).mp (by simpa using List.find?_some found)
    have listed : other ∈ (tables.ledger record.questionId).records :=
      List.mem_filter.mpr ⟨inside, by simpa using question⟩
    rw [sole.only, List.mem_singleton] at listed
    rw [listed]

/-- The ledgers after a sole record was replaced by one about the same job. -/
theorem Tables.Sole.ledger_withRecord {tables : Tables} {record : JobRecord}
    (sole : tables.Sole record) (changed : JobRecord)
    (question : changed.questionId = record.questionId) (id : String) :
    (tables.withRecord record.jobId changed).ledger id = if id = record.questionId then
      { tables.ledger id with records := [changed] } else tables.ledger id := by
  have own : ∀ other ∈ tables.records, decide (other.jobId = record.jobId) = true ↔
      other.questionId = changed.questionId := by
    intro other member
    rw [decide_eq_true_iff, question]
    exact sole.own member
  have records := filter_replaced own id
  simp only [decide_eq_true_iff] at records
  unfold Tables.ledger
  simp only [Tables.withRecord, records, question]
  split
  · next here =>
    have only : tables.records.filter (·.questionId = record.questionId) = [record] := sole.only
    rw [here, only]
    rfl
  · rfl

/-- A record marked as failed for a reason. -/
def JobRecord.failed (record : JobRecord) (reason : Option String) : JobRecord :=
  { record with status := failedStatus, failedReason := reason }

/-- The changes that mark a record as failed do so. -/
theorem failed_of_changes {tables : Tables} {record changed : JobRecord} {reason : Option String}
    (applied : ([.status (some failedStatus), .failedReason reason].filter
      fun change => RecordChange.changes change record).foldlM
        (RecordChange.apply tables) record = .ok changed) : changed = record.failed reason := by
  have status : RecordChange.changes (.status (some failedStatus)) record = false →
      record.status = failedStatus := by
    intro same
    exact (Option.some.inj (bne_eq_false_iff_eq.mp same)).symm
  have because : RecordChange.changes (.failedReason reason) record = false →
      record.failedReason = reason := by
    intro same
    exact (bne_eq_false_iff_eq.mp same).symm
  cases marks : RecordChange.changes (.status (some failedStatus)) record <;>
    cases gives : RecordChange.changes (.failedReason reason) record <;>
      simp only [List.filter_cons, List.filter_nil, marks, gives, if_true, Bool.false_eq_true,
        if_false] at applied <;> cases applied
  · rw [JobRecord.failed, ← status marks, ← because gives]
  · rw [JobRecord.failed, ← status marks]
  · rw [JobRecord.failed, ← because gives]
  · rfl

/-- Marking a job as failed marks its sole record and leaves everything else as it is. -/
theorem Tables.Sole.ledger_updateRecord {database : Database} {record : JobRecord}
    (sole : database.tables.Sole record) {reason : Option String} {found : Option JobRecord}
    (done : (database.updateRecord record.jobId
      [.status (some failedStatus), .failedReason reason]).1 = .ok found) (id : String) :
    (database.updateRecord record.jobId
      [.status (some failedStatus), .failedReason reason]).2.tables.ledger id =
        if id = record.questionId then
          { database.tables.ledger id with records := [record.failed reason] }
        else database.tables.ledger id := by
  obtain ⟨_, ⟨unknown, _⟩ | ⟨known, changed, here, applied, _, rfl⟩, after⟩ :=
    (updateRecord_ended database _ _).stored done
  · rw [sole.record?] at unknown
    cases unknown
  rw [sole.record?] at here
  cases here
  rw [after, failed_of_changes applied]
  exact sole.ledger_withRecord (record.failed reason) rfl id

/-- The ledgers after an answer was stored. -/
theorem ledger_withMore (tables : Tables) (answer : Answer) (id : String) :
    Tables.ledger { tables with answers := tables.answers ++ [answer] } id =
      if id = answer.questionId then
        { tables.ledger id with answers := (tables.ledger id).answers ++ [answer] }
      else tables.ledger id := by
  by_cases own : answer.questionId = id
  · simp [Tables.ledger, Tables.question?, own]
  · simp [Tables.ledger, Tables.question?, own, Ne.symm own]

/-- A record marked as completed. -/
def JobRecord.completed (record : JobRecord) : JobRecord :=
  { record with status := completedStatus }

/-- Marking a job as completed marks its sole record, stores the answer to a question that has none,
and leaves everything else as it is. -/
theorem Tables.Sole.ledger_completeJob {database : Database} {record : JobRecord}
    (sole : database.tables.Sole record)
    (unanswered : (database.tables.ledger record.questionId).answers = []) {returned : Value}
    {answer : Answer} (done : (database.completeJob record.jobId returned).1 = .ok answer) :
    ∃ result, storedResult returned = .ok result ∧ ∀ id,
      (database.completeJob record.jobId returned).2.tables.ledger id =
        if id = record.questionId then
          { database.tables.ledger id with
            records := [record.completed], answers := [⟨record.questionId, result⟩] }
        else database.tables.ledger id := by
  obtain ⟨question, result⟩ := answer
  obtain ⟨_, ⟨known, here, shaped, own, rfl⟩, after⟩ :=
    (completeJob_ended database record.jobId returned).stored done
  rw [sole.record?] at here
  cases here
  rw [after]
  have marked := sole.ledger_withRecord record.completed rfl
  simp only at own
  subst own
  have free : (database.tables.withRecord record.jobId record.completed).answer?
      record.questionId = none := by
    apply List.find?_eq_none.mpr
    intro other member own
    have listed : other ∈ (database.tables.ledger record.questionId).answers :=
      List.mem_filter.mpr ⟨member, own⟩
    rw [unanswered] at listed
    cases listed
  refine ⟨result, shaped, fun id => ?_⟩
  have more := ledger_withMore (database.tables.withRecord record.jobId record.completed)
    ⟨record.questionId, result⟩ id
  rw [marked] at more
  unfold JobRecord.completed at free more
  simp only [Tables.storing, free]
  refine more.trans ?_
  split
  · next own =>
    subst own
    rw [unanswered]
    rfl
  · rfl

end QuestionDesk.Database
