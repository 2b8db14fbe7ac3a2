import QuestionDesk.Database.Basic

/-!
# Popular questions

Each time a question is asked a request is stored. Questions of users that have been answered and
that were asked often enough of late become suggested ones.
-/
namespace QuestionDesk.Database

/-- Stores that a question was asked. The question has to be there. -/
def logRequest (database : Database) (now : Micros) (questionId : Option String)
    (source : Option String) : Except Failure Request × Database :=
  let work : Except Stop (Request × Tables) := do
    database.send .insert .requests
    let questionId ← required questionId
    demand (database.tables.hasQuestion questionId)
    database.finish
    let request : Request := { questionId, source, createdAt := now }
    return (request, { database.tables with requests := database.tables.requests ++ [request] })
  database.commit ("log request for question " ++ questionId.getD "None") work (.ok ())

/-- A span of whole hours. -/
def hours (count : Int) : Micros := Micros.ofSeconds (count * 3600)

/-- The moment some whole hours before another. Neither more days than a span can have nor a moment
that has no date can be worked with. -/
def hoursBefore (moment : Micros) (count : Int) : Except Failure Micros :=
  let days := count / 24
  if 999999999 < days.natAbs then
    .error (.other "OverflowError" ("days=" ++ Decimal.integerText days ++
      "; must have magnitude <= 999999999"))
  else if (moment - hours count).isDated then .ok (moment - hours count)
  else .error (.other "OverflowError" "date value out of range")

/-- Whether a question was asked often enough since a moment. -/
def Tables.isPopular (tables : Tables) (since : Micros) (threshold : Int) (id : String) : Bool :=
  let asked := tables.requests.countP fun request =>
    request.questionId = id && since ≤ request.createdAt
  0 < asked && threshold ≤ asked

/-- Whether a question is to be suggested. -/
def Tables.isPromoted (tables : Tables) (since : Micros) (threshold : Int)
    (question : Question) : Bool :=
  question.kind = userKind && tables.isPopular since threshold question.id &&
    tables.isAnswered question.id

/-- Makes the questions asked often enough since a moment suggested ones, and tells how many there
were. -/
def promoteSince (database : Database) (since : Micros) (threshold : Int) :
    Except Failure Int × Database :=
  let tables := database.tables
  let promoted := tables.isPromoted since threshold
  let work : Except Stop (Int × Tables) := do
    database.send .update .questions
    database.finish
    return (tables.questions.countP promoted,
      { tables with
        questions := tables.questions.map fun question =>
          if promoted question then { question with kind := suggestedKind } else question })
  database.commit "promote popular questions" work (.ok ())

/-- Makes the questions asked often enough in the last hours suggested ones, and tells how many there
were. -/
def promote (database : Database) (now : Micros) (threshold windowHours : Int) :
    Except Failure Int × Database :=
  match hoursBefore now windowHours with
  | .ok since => database.promoteSince since threshold
  | .error failure => (.error failure, database)

end QuestionDesk.Database
