import QuestionDesk.Desk.Reading

/-!
# Pages

A page is what a client is answered: a status, what the headers say, and a body. Every failure is
answered with one shape, and only a message that may be shown is told.
-/
namespace QuestionDesk.Web

/-- The answer to a client. -/
structure Page where
  /-- The status. -/
  status : Nat
  /-- The type of the body. -/
  mediaType : Option String := some "application/json"
  /-- Where else the client is sent. -/
  location : Option String := none
  /-- The methods that are allowed. -/
  allow : Option String := none
  /-- Whether the answer may be kept. -/
  cacheControl : Option String := none
  /-- The body. -/
  body : Value
  deriving DecidableEq, Repr

namespace Page

/-- A page as a document. -/
def document (page : Page) : Value :=
  let header (name : String) (value : Option String) : Fields :=
    (value.map fun text => (name, Value.text text)).toList
  .object ([("status", .int page.status), ("type", Jobs.Job.textValue page.mediaType)] ++
    header "location" page.location ++ header "allow" page.allow ++
    header "cache-control" page.cacheControl ++ [("body", page.body)])

/-- A page that tells what is wrong. -/
def wrong (status : Nat) (message : String) : Page :=
  { status, body := .object [("error", .text message)] }

/-- The page for a failure. -/
def ofFailure (failure : Failure) : Page :=
  wrong (if failure.isUserFacing then 400 else 500) failure.safeMessage

/-- The page for a method that a place does not take. -/
def wrongMethod : Page := { wrong 405 "Method Not Allowed" with allow := some "GET" }

/-- The page for a place that does not exist. -/
def notFound : Page := wrong 404 "Not Found"

/-- The page that sends a client elsewhere. -/
def moved (address : String) : Page :=
  { status := 307, mediaType := none, location := some address, body := .text "" }

/-- The page that welcomes a client. -/
def welcome : Page :=
  { status := 200,
    body := .object [("message", .text "Welcome to the GitHub Trends Questions API")] }

/-- The page of a stream that has ended. -/
def stream (frames : List String) : Page :=
  { status := 200, mediaType := some "text/event-stream; charset=utf-8",
    cacheControl := some "no-cache", body := .text (String.join frames) }

/-- The page for a client that asked a question. A failure of the service is told as one text. -/
def scheduled : Except Failure Ticket → Page
  | .ok ticket => { status := 202, body := (Scheduled.mk ticket.questionId ticket.jobId).document }
  | .error failure =>
    if failure.isService then wrong 500 "Failed to create question" else ofFailure failure

/-- The page of a status with a document, unless the document cannot be sent. -/
def ofDocument (status : Nat) (document : Value) : Page :=
  match Json.hindrance? Json.nestingLimit document with
  | none => { status, body := document }
  | some hindrance => ofFailure (.ofHindrance hindrance)

/-- The page with the lists of questions. -/
def questions (desk : Desk) : Page :=
  match desk.list with
  | .ok lists => ofDocument 200 lists
  | .error failure => ofFailure failure

/-- The page of a question. -/
def question (desk : Desk) (questionId : String) : Page :=
  match desk.detail questionId with
  | .ok (some detail) => ofDocument 200 detail.document
  | .ok none => wrong 404 "Question not found"
  | .error failure => ofFailure failure

end Page

/-! ## Places -/

/-- A place where clients are answered. -/
inductive Place where
  /-- The welcome. -/
  | welcome
  /-- The questions. -/
  | questions
  /-- One question. -/
  | question (id : String)
  /-- The updates of one question. -/
  | updates (id : String)
  deriving DecidableEq, Repr

namespace Place

/-- The place at a path. -/
def ofPath? (path : String) : Option Place :=
  match (path.toList.splitOn '/').map String.ofList with
  | ["", ""] => some .welcome
  | ["", "api", "questions"] => some .questions
  | ["", "api", "questions", id] => if id = "" then none else some (.question id)
  | ["", "api", "questions", id, "updates"] => if id = "" then none else some (.updates id)
  | _ => none

/-- A path with a slash at its end taken away or added. -/
def otherPath (path : String) : String :=
  if path.endsWith "/" then Remote.trimSlashes path else path ++ "/"

/-- The address at which clients reach the service. -/
def host : String := "http://test"

/-- The page for a path at which there is no place; a slash at the end may have to go or to be
added. -/
def missing (path query : String) : Page :=
  if path ≠ "/" ∧ (ofPath? (otherPath path)).isSome then
    .moved (host ++ otherPath path ++ query)
  else .notFound

end Place

/-! ## What clients send -/

/-- The body that a client sends. -/
inductive Body where
  /-- No body. -/
  | absent
  /-- A text, which is to be a JSON document. -/
  | text (text : String)
  /-- A JSON document. -/
  | document (value : Value)
  deriving DecidableEq, Repr

namespace Body

/-- What is wrong with a body at a place in it. -/
def complaint (code message : String) (place : List Value) (input : Value) (more : Fields) : Value :=
  .object ([("type", .text code), ("loc", .list (.text "body" :: place)), ("msg", .text message),
    ("input", input)] ++ more)

/-- The page that tells what is wrong with a body. -/
def refused (complaints : List Value) : Page :=
  .ofDocument 422 (.object [("detail", .list complaints)])

/-- A step on the way to a place, as a value. -/
def stepValue : Schema.Step → Value
  | .named label => .text label
  | .item position => .int position

/-- What is wrong with the fields of a body. -/
def issueComplaint (fields : Fields) (issue : Schema.Issue) : Value :=
  let input := match issue.path with
    | .named label :: _ => (fields.get? label).getD (.object fields)
    | _ => .object fields
  complaint issue.flaw.code issue.flaw.message (issue.path.map stepValue) input []

/-- The question in a document. -/
def readDocument : Value → Except Page Asked
  | .null => .error (refused [complaint "missing" "Field required" [] .null []])
  | .object fields =>
    let check := Asked.check (.object fields)
    match check with
    | .valid asked => .ok asked
    | .invalid .. => .error (refused (check.issues.map (issueComplaint fields)))
  | other =>
    .error (refused [complaint "model_attributes_type"
      "Input should be a valid dictionary or object to extract fields from" [] other []])

/-- The question in a body. An empty text is as good as no body. -/
def read : Body → Except Page Asked
  | .absent | .text "" => readDocument .null
  | .document value => readDocument value
  | .text content =>
    match Json.readBody content with
    | .ok value => readDocument value
    | .error (.malformed problem _ _ position) =>
      .error (refused [complaint "json_invalid" "JSON decode error" [.int position] (.object [])
        [("ctx", .object [("error", .text problem.message)])]])
    | .error (.tooLong _) | .error (.tooDeep _) =>
      .error (.wrong 400 "There was an error parsing the body")

/-- The prompt in a body; blanks around it do not count, and it must not be empty. A prompt without
a fingerprint fails before anything is called. -/
def prompt (body : Body) : Except Page String := do
  let asked ← body.read
  let prompt := Text.strip (asked.userPrompt.getD "")
  if prompt = "" then throw (.wrong 400 "User prompt missing")
  match promptKey prompt with
  | .ok _ => return prompt
  | .error failure => throw (.scheduled (.error failure))

end Body

/-- Where a question was asked, when a client asks it. -/
def requestSource : String := "api"

end QuestionDesk.Web
