import QuestionDesk.Text.Blank
import QuestionDesk.Value

/-!
# Safety of plans

A plan is judged as the document it arrives in, before it is read. It is rejected when the planner
abstained or was not sure enough, when a query lacks a table or columns or selects the wildcard,
and when it reads a table sharded by day without bounding the days. A field that holds something
that cannot be searched where a list is expected makes the judgement itself fail.
-/
namespace QuestionDesk.Plan

open Decimal (Double Number)

/-- Why a document is rejected. -/
inductive Rejection where
  /-- The planner abstained. -/
  | abstained
  /-- The fidelity is below the threshold. -/
  | unfaithful (fidelity threshold : Double)
  /-- The plan is absent or no object. -/
  | invalidPlan
  /-- The main query is absent or no object. -/
  | missingMain
  /-- A common table has no query. -/
  | invalidCommonTable
  /-- A query has no table. -/
  | missingTable
  /-- A query has no columns. -/
  | missingColumns
  /-- A query selects the wildcard. -/
  | wildcardColumns
  /-- A query reads all days of a table sharded by day. -/
  | unboundedDays (column : String)
  deriving DecidableEq, Repr

/-- The wording of a rejection. -/
def Rejection.message : Rejection → String
  | .abstained => "Planner abstained"
  | .unfaithful fidelity threshold =>
    "Fidelity " ++ fidelity.fixed 2 ++ " is below threshold " ++ threshold.fixed 2
  | .invalidPlan => "Invalid plan"
  | .missingMain => "Missing main_query"
  | .invalidCommonTable => "Invalid CTE"
  | .missingTable => "Missing table"
  | .missingColumns => "Missing columns"
  | .wildcardColumns => "Wildcard columns are not allowed"
  | .unboundedDays column => "Wildcard day table requires " ++ column ++ " filter"

/-- What keeps a document from being judged. -/
inductive Obstacle where
  /-- A value of this kind stands where a sequence is searched. -/
  | notSequence (kind : Kind)
  /-- An integer is too large to be shown as a double. -/
  | oversizedNumber
  /-- A value of this kind stands where fields are looked up. -/
  | noFields (kind : Kind)
  deriving DecidableEq, Repr

/-- What the judge goes by. -/
structure Safety where
  /-- The least fidelity that is accepted. -/
  threshold : Number := .float (Decimal.Scientific.toDouble ⟨false, 7, -1⟩)
  /-- The column that bounds the days of a sharded table. -/
  partitionColumn : String := "_TABLE_SUFFIX"

/-- The outcome of a judgement: accepted, rejected, or not possible. -/
abbrev Judgement := Except Obstacle (Option Rejection)

/-- The values that a search of a field goes over; whatever counts as false is searched as empty.
The items found in a text or an object are no objects, so their values do not matter. -/
def searched (value : Value) : Except Obstacle (List Value) :=
  if !value.isTruthy then .ok []
  else
    match value with
    | .list items => .ok items
    | .text text => .ok (text.toList.map fun char => .text (String.singleton char))
    | .object fields => .ok (fields.map fun field => .text field.1)
    | other => .error (.notSequence other.kind)

/-- The fields of a value in which fields are looked up. -/
def fieldsIn : Value → Except Obstacle Fields
  | .object fields => .ok fields
  | other => .error (.noFields other.kind)

/-- The fields of what the planner reported; whatever counts as false reports nothing. -/
def reportIn (report : Value) : Except Obstacle Fields :=
  if report.isTruthy then fieldsIn report else .ok []

/-- The name that all tables sharded by day start with. -/
def shardedName : List Char := "githubarchive.day.".toList

/-- The characters after a word, if they start with it. -/
def afterWord? : List Char → List Char → Option (List Char)
  | [], chars => some chars
  | letter :: word, char :: chars => if letter = char then afterWord? word chars else none
  | _ :: _, [] => none

/-- Whether characters start with a day wildcard: the star, or four digits and the star. -/
def startsDayWildcard (chars : List Char) : Bool :=
  match chars with
  | '*' :: _ => true
  | first :: second :: third :: fourth :: '*' :: _ =>
    [first, second, third, fourth].all Decimal.isDigit
  | _ => false

/-- Whether characters hold a wildcard over a table sharded by day. -/
def holdsDayWildcard : List Char → Bool
  | [] => false
  | char :: rest =>
    (match afterWord? shardedName (char :: rest) with
      | some after => startsDayWildcard after
      | none => false) || holdsDayWildcard rest

/-- Whether a table name refers to several days of a sharded table. -/
def isShardedWildcard (table : String) : Bool := holdsDayWildcard table.toList

/-- Whether an operator bounds the column it is used on. -/
def isBounding (operator : Value) : Bool :=
  operator = .text "=" || operator = .text "IN" || operator = .text "BETWEEN"

mutual

/-- Whether a filter bounds the column: a leaf on it with a bounding operator, or a group that
joins all its parts and has a part that does. -/
def boundsColumn (column : String) : Value → Except Obstacle Bool
  | .object fields =>
    if Fields.has fields "logic" then
      if Fields.get fields "logic" = .text "AND" then partsBound column fields else .ok false
    else
      .ok (Fields.get fields "column" = .text column && isBounding (Fields.get fields "op"))
  | _ => .ok false

/-- Whether some part of a group bounds the column. -/
def partsBound (column : String) : List (String × Value) → Except Obstacle Bool
  | [] => .ok false
  | (name, value) :: rest =>
    if name = "filters" then valueBounds column value else partsBound column rest

/-- Whether something in a value that holds filters bounds the column. -/
def valueBounds (column : String) : Value → Except Obstacle Bool
  | .list items => anyBounds column items
  | other => (searched other).map fun _ => false

/-- Whether some filter bounds the column; the filters after the first that does are not looked
at. -/
def anyBounds (column : String) : List Value → Except Obstacle Bool
  | [] => .ok false
  | filter :: filters =>
    match boundsColumn column filter with
    | .error obstacle => .error obstacle
    | .ok true => .ok true
    | .ok false => anyBounds column filters

end

namespace Safety

/-- Whether the filters of a query bound the days of a sharded table. -/
def hasPartitionFilter (safety : Safety) (filters : Value) : Except Obstacle Bool :=
  valueBounds safety.partitionColumn filters

/-- Whether filters that stand on their own bound the days of a sharded table; unlike the field of
a query they have to be a sequence. -/
def filtersBoundDays (safety : Safety) : Value → Except Obstacle Bool
  | .list filters => anyBounds safety.partitionColumn filters
  | .text _ | .object _ => .ok false
  | other => .error (.notSequence other.kind)

/-- Whether a value is a column text that selects everything. -/
def isWildcardColumn : Value → Bool
  | .text column => Text.stripChars column.toList == ['*']
  | _ => false

/-- The judgement of a query. -/
def judgeQuery (safety : Safety) (query : Fields) : Judgement :=
  match query.get "table" with
  | .text table =>
    if table = "" then .ok (some .missingTable)
    else
      match query.get "columns" with
      | .list (column :: columns) =>
        if (column :: columns).any isWildcardColumn then .ok (some .wildcardColumns)
        else if isShardedWildcard table then
          match safety.hasPartitionFilter (query.get "filters") with
          | .error obstacle => .error obstacle
          | .ok true => .ok none
          | .ok false => .ok (some (.unboundedDays safety.partitionColumn))
        else .ok none
      | _ => .ok (some .missingColumns)
  | _ => .ok (some .missingTable)

/-- The judgement of common tables one after the other. -/
def judgeCommonTables (safety : Safety) : List Value → Judgement
  | [] => .ok none
  | .object table :: tables =>
    match Fields.get table "query" with
    | .object query =>
      match safety.judgeQuery query with
      | .ok none => judgeCommonTables safety tables
      | other => other
    | _ => .ok (some .invalidCommonTable)
  | _ :: _ => .ok (some .invalidCommonTable)

/-- The judgement of a plan. -/
def judgePlan (safety : Safety) : Value → Judgement
  | .object plan =>
    if plan.isEmpty then .ok (some .invalidPlan)
    else
      match Fields.get plan "main_query" with
      | .object [] => .ok (some .missingMain)
      | .object main =>
        match safety.judgeQuery main with
        | .ok none =>
          match searched (Fields.get plan "ctes") with
          | .error obstacle => .error obstacle
          | .ok tables => safety.judgeCommonTables tables
        | other => other
      | _ => .ok (some .missingMain)
  | _ => .ok (some .invalidPlan)

/-- The fidelity that the planner reported, zero when it reported no number. -/
def fidelityOf : Value → Number
  | .int value => .int value
  | .float value => .float value
  | _ => .float (Double.zero false)

/-- The judgement of a plan with what the planner reported about it. -/
def judge (safety : Safety) (plan : Value) (report : Fields) : Judgement :=
  let fidelity := fidelityOf (report.get "fidelity")
  if (report.get "abstain").isTruthy then .ok (some .abstained)
  else if fidelity.lt safety.threshold then
    match fidelity.toDouble?, safety.threshold.toDouble? with
    | some shown, some threshold => .ok (some (.unfaithful shown threshold))
    | _, _ => .error .oversizedNumber
  else safety.judgePlan plan

end Safety

end QuestionDesk.Plan
