import QuestionDesk.Json.Reader
import QuestionDesk.Json.Writer
import QuestionDesk.Plan.Reader
import QuestionDesk.Plan.Safety
import QuestionDesk.Sql.Statement

/-!
# Failures

Everything that can go wrong while a question is answered. The message of a user-facing failure
may be shown to the person who asked; every other failure is shown as one generic text, so that no
internal message leaves the process.
-/
namespace QuestionDesk

/-- How a request to a remote server came to nothing before an answer arrived. -/
inductive Outage where
  /-- No connection could be made. -/
  | refused
  /-- No answer came in time. -/
  | timedOut
  deriving DecidableEq, Repr

/-- Why something failed. -/
inductive Failure where
  /-- A failure whose message may be shown, with an optional code. -/
  | userFacing (message : String) (code : Option String)
  /-- A plan that cannot be used, with a code. -/
  | invalidPlan (message code : String)
  /-- A plan that cannot be turned into a query. -/
  | compilation (message : String)
  /-- A question that is not answered, with the reason. -/
  | abstention (message : String) (reason : Option String)
  /-- An unspecified failure of the service. -/
  | service (message : String)
  /-- The query could not be run. -/
  | execution (message : String)
  /-- The database refused. -/
  | persistence (message : String)
  /-- The cache refused. -/
  | cache (message : String)
  /-- A remote server was not reached. -/
  | outage (outage : Outage) (message : String)
  /-- A remote server answered with a status that is no success. -/
  | status (message : String)
  /-- A text is no JSON document. -/
  | unreadable (refusal : Json.Refusal)
  /-- A document is not of the named shape; the number of issues is counted. -/
  | misshapen (shape : String) (issues : Nat)
  /-- A document cannot be judged. -/
  | obstacle (obstacle : Plan.Obstacle)
  /-- The length of a value of this kind was asked for. -/
  | noLength (kind : Kind)
  /-- A value of this kind was to be stripped of blanks. -/
  | noBlanks (kind : Kind)
  /-- A payload lacks a key. -/
  | missingKey (key : String)
  /-- A text names no member of a closed set. -/
  | unknownName (name set : String)
  /-- A number cannot be written where only finite ones may stand. -/
  | notFinite
  /-- A value nests too deep to be written. -/
  | tooDeep
  /-- A text has no UTF-8 form. -/
  | unencodable (flaw : Text.Flaw)
  /-- A use of the library in a state that does not allow it. -/
  | misuse (message : String)
  /-- An argument out of range. -/
  | badArgument (message : String)
  /-- Any other failure, of a named sort. -/
  | other (sort message : String)
  /-- The work was cancelled. -/
  | cancelled
  deriving DecidableEq, Repr

namespace Failure

/-- The text shown for a failure whose message may not be shown. -/
def genericMessage : String := "An unexpected error occurred. Please try again later."

/-- What is said of a text that has no UTF-8 form. -/
def flawText (flaw : Text.Flaw) : String :=
  let first := Decimal.naturalText flaw.position
  let place :=
    if flaw.count = 1 then
      " '" ++ String.ofList (Json.unitEscape flaw.unit) ++ "' in position " ++ first
    else "s in position " ++ first ++ "-" ++ Decimal.naturalText (flaw.position + flaw.count - 1)
  "'utf-8' codec can't encode character" ++ place ++ ": surrogates not allowed"

/-- The message of a failure. -/
def message : Failure → String
  | .userFacing message _ | .invalidPlan message _ | .compilation message
  | .abstention message _ | .service message | .execution message | .persistence message
  | .cache message | .outage _ message | .status message | .misuse message
  | .badArgument message | .other _ message => message
  | .unreadable refusal => refusal.message
  | .misshapen shape issues =>
    Decimal.naturalText issues ++ (if issues = 1 then " validation error for " else
      " validation errors for ") ++ shape
  | .obstacle (.notSequence kind) => "'" ++ kind.name ++ "' object is not iterable"
  | .obstacle (.noFields kind) => "'" ++ kind.name ++ "' object has no attribute 'get'"
  | .obstacle .oversizedNumber => "int too large to convert to float"
  | .noLength kind => "object of type '" ++ kind.name ++ "' has no len()"
  | .noBlanks kind => "'" ++ kind.name ++ "' object has no attribute 'strip'"
  | .missingKey key => "'" ++ key ++ "'"
  | .unknownName name set => "'" ++ name ++ "' is not a valid " ++ set
  | .notFinite => "Out of range float values are not JSON compliant"
  | .tooDeep => "maximum recursion depth exceeded while encoding a JSON object"
  | .unencodable flaw => flawText flaw
  | .cancelled => ""

/-- Whether the message of a failure may be shown. -/
def isUserFacing : Failure → Bool
  | .userFacing .. | .invalidPlan .. | .compilation _ | .abstention .. => true
  | _ => false

/-- Whether a failure is one of the service itself, rather than any other. -/
def isService : Failure → Bool
  | .service _ | .execution _ | .persistence _ | .cache _ => true
  | failure => failure.isUserFacing

/-- Whether a failure tells that values nest too deep. It is of a sort apart from the failures that
are expected when a remote server is called. -/
def isDepth : Failure → Bool
  | .unreadable (.tooDeep _) | .tooDeep => true
  | _ => false

/-- The failure of a value that cannot be sent. -/
def ofHindrance : Json.Hindrance → Failure
  | .notFinite => .notFinite
  | .tooDeep => .tooDeep
  | .unencodable flaw => .unencodable flaw

/-- The code of a user-facing failure. -/
def code? : Failure → Option String
  | .userFacing _ code => code
  | .invalidPlan _ code => some code
  | .compilation _ => some "COMPILE_ERROR"
  | .abstention .. => some "ABSTAINED"
  | _ => none

/-- The text of a failure that may leave the process. -/
def safeMessage (failure : Failure) : String :=
  if failure.isUserFacing then failure.message else genericMessage

/-- The failure of a plan with an issue. -/
def ofIssue (issue : Schema.Issue) : Failure :=
  .invalidPlan (Plan.malformedText issue) "INVALID_PLAN"

/-- The failure of a plan that cannot be turned into a query. -/
def ofFault (fault : Sql.Fault) : Failure := .compilation fault.message

/-- The value of a check, or the failure of the named shape. -/
def ofCheck {α : Type} (shape : String) : Schema.Check α → Except Failure α
  | .valid value => .ok value
  | .invalid _ rest => .error (.misshapen shape (rest.length + 1))

end Failure

/-- The text that a reason other than a failure is shown as: a text that is not empty is shown as
it is, anything else as the generic one. -/
def safeReason : Value → String
  | .text reason => if reason = "" then Failure.genericMessage else reason
  | _ => Failure.genericMessage

end QuestionDesk
