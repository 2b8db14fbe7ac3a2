import QuestionDesk.Sql.Literal

/-!
# Conditions

The text of a filter tree. Groups always stand in parentheses, so their meaning never depends on
precedence. A leaf is refused for its operator before its operand is looked at, and of several
faults in a tree the first from left to right is reported.
-/
namespace QuestionDesk.Sql

open Plan (Operand Filter Junction)

/-- Why a plan cannot be turned into a query. -/
inductive Fault where
  /-- The columns are missing or hold the wildcard. -/
  | invalidColumns
  /-- A group has no parts. -/
  | emptyGroup
  /-- Something among the filters is no filter. -/
  | strayFilter (kind : Kind)
  /-- An operator is not allowed. -/
  | forbiddenOperator (operator : String)
  /-- A range does not have two ends. -/
  | rangeShape
  /-- A membership test has no list. -/
  | membershipShape
  deriving DecidableEq, Repr

/-- The wording of a fault. -/
def Fault.message : Fault → String
  | .invalidColumns => "Invalid columns"
  | .emptyGroup => "Filter group requires at least one filter"
  | .strayFilter kind => "Unknown filter node: " ++ kind.name
  | .forbiddenOperator operator => "Operator not allowed: " ++ operator
  | .rangeShape => "BETWEEN operator requires an array value of length 2"
  | .membershipShape => "IN operator requires array value"

/-- What may stand in a query and how many rows it gives. -/
structure Rules where
  /-- The operators that leaves may use. -/
  operators : List String := ["=", "!=", ">", "<", ">=", "<=", "IN", "BETWEEN"]
  /-- The limit of a main query that asks for none. -/
  defaultLimit : Int := 20
  /-- The greatest limit. -/
  maximumLimit : Int := 50
  deriving DecidableEq, Repr

namespace Rules

/-- The text of a leaf. -/
def leafText (rules : Rules) (column operator : String) (operand : Operand) :
    Except Fault String :=
  if !rules.operators.contains operator then .error (.forbiddenOperator operator)
  else if operator = "BETWEEN" then
    match operand with
    | .list [low, high] =>
      .ok (column ++ " BETWEEN " ++ operandText low ++ " AND " ++ operandText high)
    | _ => .error .rangeShape
  else
    match operator, operand with
    | _, .list items => .ok (column ++ " " ++ operator ++ " " ++ operandText (.list items))
    | "IN", _ => .error .membershipShape
    | _, single => .ok (column ++ " " ++ operator ++ " " ++ operandText single)

mutual

/-- The text of a filter. -/
def filterText (rules : Rules) : Filter → Except Fault String
  | .group _ [] => .error .emptyGroup
  | .group junction (part :: parts) =>
    match filterTexts rules (part :: parts) with
    | .ok texts => .ok ("(" ++ Text.joined (" " ++ junction.word ++ " ") texts ++ ")")
    | .error fault => .error fault
  | .leaf column operator operand => rules.leafText column operator operand
  | .stray kind => .error (.strayFilter kind)

/-- The texts of several filters. -/
def filterTexts (rules : Rules) : List Filter → Except Fault (List String)
  | [] => .ok []
  | filter :: filters =>
    match filterText rules filter with
    | .error fault => .error fault
    | .ok text =>
      match filterTexts rules filters with
      | .ok texts => .ok (text :: texts)
      | .error fault => .error fault

end

/-- The text of a condition whose filters all hold. -/
def conditionText (rules : Rules) (filters : List Filter) : Except Fault String :=
  match filterTexts rules filters with
  | .ok texts => .ok (Text.joined " AND " texts)
  | .error fault => .error fault

end Rules

end QuestionDesk.Sql
