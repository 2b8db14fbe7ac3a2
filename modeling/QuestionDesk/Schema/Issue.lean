import QuestionDesk.Decimal.Digits

/-!
# Issues of a document

An issue says what is wrong at one place of a document. Places are paths of field names, list
positions and names of the alternatives that were tried.
-/
namespace QuestionDesk.Schema

/-- One step on the way to a place in a document. -/
inductive Step where
  /-- A field, or an alternative that was tried there. -/
  | named (label : String)
  /-- A position in a list, counted from zero. -/
  | item (position : Nat)
  deriving DecidableEq, Repr

/-- The text of a step. -/
def Step.text : Step → String
  | .named label => label
  | .item position => Decimal.naturalText position

/-- What is wrong at a place. -/
inductive Flaw where
  /-- A required field is absent. -/
  | missing
  /-- A field is not known. -/
  | unexpected
  /-- The value is no text. -/
  | notText
  /-- The value is no list. -/
  | notList
  /-- The value is no object. -/
  | notObject
  /-- The value is no object that could be the named record. -/
  | notRecord (record : String)
  /-- The value is none of the allowed texts. -/
  | notOneOf (allowed : List String)
  /-- The value is no member of a closed set of names. -/
  | notMember (allowed : List String)
  /-- The list is empty. -/
  | emptyList
  /-- The value is no integer. -/
  | notInteger
  /-- The text does not denote an integer. -/
  | unreadableInteger
  /-- The number is not integral. -/
  | fractionalInteger
  /-- The integral number is out of range. -/
  | oversizedInteger
  /-- The number is not finite. -/
  | notFinite
  /-- The value is no number. -/
  | notNumber
  /-- The text does not denote a number. -/
  | unreadableNumber
  /-- The value is no truth value. -/
  | notTruth
  /-- The text or number does not denote a truth value. -/
  | unreadableTruth
  deriving DecidableEq, Repr

/-- The texts of a choice, each in single quotes, the last two parted by a word. -/
def choiceText : List String → String
  | [] => ""
  | [only] => "'" ++ only ++ "'"
  | [first, last] => "'" ++ first ++ "' or '" ++ last ++ "'"
  | first :: rest => "'" ++ first ++ "', " ++ choiceText rest

/-- The short name of a flaw. -/
def Flaw.code : Flaw → String
  | .missing => "missing"
  | .unexpected => "extra_forbidden"
  | .notText => "string_type"
  | .notList => "list_type"
  | .notObject => "dict_type"
  | .notRecord _ => "model_type"
  | .notOneOf _ => "literal_error"
  | .notMember _ => "enum"
  | .emptyList => "too_short"
  | .notInteger => "int_type"
  | .unreadableInteger => "int_parsing"
  | .fractionalInteger => "int_from_float"
  | .oversizedInteger => "int_parsing_size"
  | .notFinite => "finite_number"
  | .notNumber => "float_type"
  | .unreadableNumber => "float_parsing"
  | .notTruth => "bool_type"
  | .unreadableTruth => "bool_parsing"

/-- The wording of a flaw. -/
def Flaw.message : Flaw → String
  | .missing => "Field required"
  | .unexpected => "Extra inputs are not permitted"
  | .notText => "Input should be a valid string"
  | .notList => "Input should be a valid list"
  | .notObject => "Input should be a valid dictionary"
  | .notRecord record => "Input should be a valid dictionary or instance of " ++ record
  | .notOneOf allowed => "Input should be " ++ choiceText allowed
  | .notMember allowed => "Input should be " ++ choiceText allowed
  | .emptyList => "List should have at least 1 item after validation, not 0"
  | .notInteger => "Input should be a valid integer"
  | .unreadableInteger => "Input should be a valid integer, unable to parse string as an integer"
  | .fractionalInteger => "Input should be a valid integer, got a number with a fractional part"
  | .oversizedInteger => "Unable to parse input string as an integer, exceeded maximum size"
  | .notFinite => "Input should be a finite number"
  | .notNumber => "Input should be a valid number"
  | .unreadableNumber => "Input should be a valid number, unable to parse string as a number"
  | .notTruth => "Input should be a valid boolean"
  | .unreadableTruth => "Input should be a valid boolean, unable to interpret input"

/-- A flaw and the place where it is. -/
structure Issue where
  /-- The way to the place, from the root. -/
  path : List Step
  /-- What is wrong there. -/
  flaw : Flaw
  deriving DecidableEq, Repr

/-- The text of a place: its steps parted by points. -/
def Issue.place (issue : Issue) : String := ".".intercalate (issue.path.map Step.text)

/-- The issue seen from one step further out. -/
def Issue.within (step : Step) (issue : Issue) : Issue := { issue with path := step :: issue.path }

end QuestionDesk.Schema
