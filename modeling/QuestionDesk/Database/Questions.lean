import QuestionDesk.Database.Basic

/-!
# Questions in the database

Storing, changing, removing and reading questions. A question takes with it whatever belongs to it.
-/
namespace QuestionDesk.Database

/-- A question that is to be stored; what has no default must not be missing. -/
structure Draft where
  /-- The key. -/
  id : String
  /-- The question as it was asked. -/
  content : Option String
  /-- Its title. -/
  title : Option String := some processingTitle
  /-- The query that answers it. -/
  sqlText : Option String := some ""
  /-- The fingerprint of the query. -/
  sqlHash : Option String := some ""
  /-- The plan of the query. -/
  plan : Value := .null
  deriving DecidableEq, Repr

/-- The question that a draft becomes when it is stored now. -/
def Draft.question (draft : Draft) (now : Micros) : Except Stop Question := do
  let content ← required draft.content
  let title ← required draft.title
  return { id := draft.id, content, title, sqlText := draft.sqlText.getD "",
           sqlHash := draft.sqlHash.getD "", plan := draft.plan, kind := userKind,
           createdAt := now }

/-- Whether anything belongs to a question. -/
def Tables.hasBelongings (tables : Tables) (id : String) : Bool :=
  tables.records.any (·.questionId = id) || tables.answers.any (·.questionId = id) ||
    tables.requests.any (·.questionId = id)

/-- A change to one column of a question. -/
inductive QuestionChange where
  /-- The key. -/
  | id (key : Option String)
  /-- The question as it was asked. -/
  | content (text : Option String)
  /-- Its title. -/
  | title (text : Option String)
  /-- The query that answers it. -/
  | sqlText (text : Option String)
  /-- The fingerprint of the query. -/
  | sqlHash (text : Option String)
  /-- The plan of the query. -/
  | plan (value : Value)
  /-- Whether a user asked it or it is suggested. -/
  | kind (text : Option String)
  /-- When it was stored. -/
  | createdAt (moment : Option Micros)
  deriving DecidableEq, Repr

namespace QuestionChange

/-- Whether a change would change anything. -/
def changes (change : QuestionChange) (question : Question) : Bool :=
  match change with
  | .id key => key != some question.id
  | .content text => text != some question.content
  | .title text => text != some question.title
  | .sqlText text => text != some question.sqlText
  | .sqlHash text => text != some question.sqlHash
  | .plan value => !question.plan.same value
  | .kind text => text != some question.kind
  | .createdAt moment => moment != some question.createdAt

/-- A question after a change. A new key must not be taken, and a question to which anything belongs
keeps its key. -/
def apply (tables : Tables) (question : Question) (change : QuestionChange) :
    Except Stop Question :=
  match change with
  | .id key => do
    let key ← required key
    demand !(tables.hasQuestion key)
    demand !(tables.hasBelongings question.id)
    return { question with id := key }
  | .content text => return { question with content := ← required text }
  | .title text => return { question with title := ← required text }
  | .sqlText text => return { question with sqlText := ← required text }
  | .sqlHash text => return { question with sqlHash := ← required text }
  | .plan value => return { question with plan := value }
  | .kind text => return { question with kind := ← required text }
  | .createdAt moment => return { question with createdAt := ← required moment }

end QuestionChange

namespace Tables

/-- The tables with the question of a key replaced. -/
def withQuestion (tables : Tables) (key : String) (question : Question) : Tables :=
  { tables with
    questions := tables.questions.map fun other => if other.id = key then question else other }

/-- The tables without a question and whatever belongs to it. -/
def withoutQuestion (tables : Tables) (id : String) : Tables :=
  { questions := tables.questions.filter (·.id ≠ id)
    records := tables.records.filter (·.questionId ≠ id)
    answers := tables.answers.filter (·.questionId ≠ id)
    requests := tables.requests.filter (·.questionId ≠ id) }

/-- What is known about the jobs of a question, the newest first. -/
def recordsOf (tables : Tables) (id : String) : List JobRecord :=
  newestFirst (·.createdAt) (tables.records.filter (·.questionId = id))

end Tables

/-- A question with what is known about its jobs, and its answer. -/
structure Dossier where
  /-- The question. -/
  question : Question
  /-- What is known about its jobs, the newest first. -/
  records : List JobRecord
  /-- Its answer. -/
  answer : Option Answer
  deriving DecidableEq, Repr

/-- A dossier as a document. -/
def Dossier.document (dossier : Dossier) : Value :=
  .object (dossier.question.fields ++ [("job_metadata", .list (dossier.records.map (·.document))),
    ("result", (dossier.answer.map (·.result)).getD .null)])

/-- Stores a question. -/
def createQuestion (database : Database) (now : Micros) (draft : Draft) :
    Except Failure Question × Database :=
  let work : Except Stop (Question × Tables) := do
    database.send .insert .questions
    let question ← draft.question now
    demand !(database.tables.hasQuestion draft.id)
    database.finish
    return (question, { database.tables with questions := database.tables.questions ++ [question] })
  database.commit ("create question " ++ draft.id) work (database.readBack .questions)

/-- What changing a question sends, and what it leads to. -/
def questionUpdate (database : Database) (question : Question) (changes : List QuestionChange) :
    Except Stop (Question × Tables) := do
  database.sendIf (changes.any (·.changes question)) .update .questions
  let changed ←
    (changes.filter (·.changes question)).foldlM (QuestionChange.apply database.tables) question
  database.finish
  return (changed, database.tables.withQuestion question.id changed)

/-- Changes a question, which has to be there. Columns that hold the value already are left
alone. -/
def updateQuestion (database : Database) (id : String) (changes : List QuestionChange) :
    Except Failure Question × Database :=
  let work : Except Stop (Question × Tables) := do
    database.send .select .questions
    match database.tables.question? id with
    | none => .error (.failed (.persistence ("Question " ++ id ++ " does not exist")))
    | some question => database.questionUpdate question changes
  database.commit ("update question " ++ id) work (database.readBack .questions)

/-- What removing a question sends, and what it leads to. Whatever belongs to the question is read
first and removed with it. -/
def questionRemoval (database : Database) (id : String) : Except Stop Tables := do
  let tables := database.tables
  database.send .select .records
  database.send .select .answers
  database.send .select .requests
  database.sendIf (tables.records.any (·.questionId = id)) .delete .records
  database.sendIf (tables.answers.any (·.questionId = id)) .delete .answers
  database.sendIf (tables.requests.any (·.questionId = id)) .delete .requests
  database.send .delete .questions
  database.finish
  return tables.withoutQuestion id

/-- Removes a question and whatever belongs to it, if it is there. -/
def deleteQuestion (database : Database) (id : String) : Except Failure Unit × Database :=
  let work : Except Stop (Unit × Tables) := do
    database.send .select .questions
    let after ←
      if database.tables.hasQuestion id then database.questionRemoval id else .ok database.tables
    return ((), after)
  database.commit ("delete question " ++ id) work (.ok ())

/-- A question with what belongs to it. -/
def getQuestion (database : Database) (id : String) : Except Failure (Option Dossier) :=
  answering ("load question " ++ id) do
    database.send .select .questions
    match database.tables.question? id with
    | none => return none
    | some question =>
      database.send .select .records
      database.send .select .answers
      return some ⟨question, database.tables.recordsOf id, database.tables.answer? id⟩

/-- The questions that are suggested, the newest first. -/
def suggestedQuestions (database : Database) : Except Failure (List Question) :=
  answering "list suggested questions" do
    database.send .select .questions
    return newestFirst (·.createdAt) (database.tables.questions.filter (·.kind = suggestedKind))

/-- The questions of users that have been answered, the newest first. -/
def userQuestions (database : Database) : Except Failure (List Question) :=
  answering "list user questions" do
    database.send .select .questions
    return newestFirst (·.createdAt) (database.tables.questions.filter fun question =>
      question.kind = userKind && database.tables.isAnswered question.id)

end QuestionDesk.Database
