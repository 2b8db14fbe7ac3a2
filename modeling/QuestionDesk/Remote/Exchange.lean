import QuestionDesk.Failure

/-!
# Exchanges with remote servers

A request carries a JSON body to an address. What comes back is an answer with a status and a
body, or the news that the server was not reached. Only a status in the two hundreds is a success.
-/
namespace QuestionDesk.Remote

/-- A request to a remote server. -/
structure Request where
  /-- The address. -/
  url : String
  /-- The body. -/
  body : Value
  deriving DecidableEq, Repr

/-- Why a request cannot be sent: its body cannot be written. -/
def Request.refusal? (request : Request) : Option Failure :=
  (Json.hindrance? Json.nestingLimit request.body).map .ofHindrance

/-- What comes back for a request. -/
inductive Response where
  /-- An answer with its status and the text of its body. -/
  | answer (status : Nat) (body : String)
  /-- The server was not reached. -/
  | unreached (outage : Outage) (message : String)
  deriving DecidableEq, Repr

/-- The phrase of a status. -/
def phrase : Nat → String
  | 100 => "Continue"
  | 101 => "Switching Protocols"
  | 102 => "Processing"
  | 103 => "Early Hints"
  | 200 => "OK"
  | 201 => "Created"
  | 202 => "Accepted"
  | 203 => "Non-Authoritative Information"
  | 204 => "No Content"
  | 205 => "Reset Content"
  | 206 => "Partial Content"
  | 207 => "Multi-Status"
  | 208 => "Already Reported"
  | 226 => "IM Used"
  | 300 => "Multiple Choices"
  | 301 => "Moved Permanently"
  | 302 => "Found"
  | 303 => "See Other"
  | 304 => "Not Modified"
  | 305 => "Use Proxy"
  | 307 => "Temporary Redirect"
  | 308 => "Permanent Redirect"
  | 400 => "Bad Request"
  | 401 => "Unauthorized"
  | 402 => "Payment Required"
  | 403 => "Forbidden"
  | 404 => "Not Found"
  | 405 => "Method Not Allowed"
  | 406 => "Not Acceptable"
  | 407 => "Proxy Authentication Required"
  | 408 => "Request Timeout"
  | 409 => "Conflict"
  | 410 => "Gone"
  | 411 => "Length Required"
  | 412 => "Precondition Failed"
  | 413 => "Request Entity Too Large"
  | 414 => "Request-URI Too Long"
  | 415 => "Unsupported Media Type"
  | 416 => "Requested Range Not Satisfiable"
  | 417 => "Expectation Failed"
  | 418 => "I'm a teapot"
  | 421 => "Misdirected Request"
  | 422 => "Unprocessable Entity"
  | 423 => "Locked"
  | 424 => "Failed Dependency"
  | 425 => "Too Early"
  | 426 => "Upgrade Required"
  | 428 => "Precondition Required"
  | 429 => "Too Many Requests"
  | 431 => "Request Header Fields Too Large"
  | 451 => "Unavailable For Legal Reasons"
  | 500 => "Internal Server Error"
  | 501 => "Not Implemented"
  | 502 => "Bad Gateway"
  | 503 => "Service Unavailable"
  | 504 => "Gateway Timeout"
  | 505 => "HTTP Version Not Supported"
  | 506 => "Variant Also Negotiates"
  | 507 => "Insufficient Storage"
  | 508 => "Loop Detected"
  | 510 => "Not Extended"
  | 511 => "Network Authentication Required"
  | _ => ""

/-- Whether a status is a success. -/
def isSuccess (status : Nat) : Bool := 200 ≤ status && status < 300

/-- The class of a status that is no success. -/
def statusClass (status : Nat) : String :=
  match status / 100 with
  | 1 => "Informational response"
  | 3 => "Redirect response"
  | 4 => "Client error"
  | 5 => "Server error"
  | _ => "Invalid status code"

/-- What is said about an address that answered with a status that is no success. -/
def statusText (status : Nat) (url : String) : String :=
  statusClass status ++ " '" ++ Decimal.naturalText status ++ " " ++ phrase status ++
    "' for url '" ++ url ++ "'"

/-- An address without the slashes at its end. -/
def trimSlashes (url : String) : String :=
  String.ofList (Text.trimBack (· = '/') url.toList)

/-- The address of a path below a base. -/
def below (base path : String) : String := trimSlashes base ++ path

/-- The document in a response, or why there is none. -/
def Response.document (response : Response) (url : String) : Except Failure Value :=
  match response with
  | .unreached outage message => .error (.outage outage message)
  | .answer status body =>
    if isSuccess status then (Json.readBody body).mapError Failure.unreadable
    else .error (.status (statusText status url))

end QuestionDesk.Remote
