import QuestionDesk.Sql.Condition
import QuestionDesk.Text.Blank

/-!
# Statements

The text of a query and of a whole plan. Every main query has a limit; a common table has one only
when it asks for a positive one. Tables and columns are taken as they are, but the wildcard is
refused among the columns.
-/
namespace QuestionDesk.Sql

open Plan (SortKey Query CommonTable Root)

/-- Whether a column is the wildcard, blanks around it aside. -/
def isWildcard (column : String) : Bool := Text.stripChars column.toList == ['*']

/-- The text of a column to order by. -/
def sortKeyText (key : SortKey) : String :=
  match key.direction with
  | some direction => key.column ++ " " ++ direction.word
  | none => key.column

/-- A clause with its items, absent when there are none. -/
def clauseText (keyword : String) (items : List String) : String :=
  if items.isEmpty then "" else " " ++ keyword ++ " " ++ Text.joined ", " items

/-- The place of a query in a statement. -/
inductive Role where
  /-- The main query. -/
  | main
  /-- A common table. -/
  | common
  deriving DecidableEq, Repr

namespace Rules

/-- The limit that a query gets. -/
def effectiveLimit (rules : Rules) (role : Role) (asked : Option Int) : Option Int :=
  let positive := asked.filter (0 < ·)
  match role, positive with
  | _, some limit => some (min limit rules.maximumLimit)
  | .main, none => some (min rules.defaultLimit rules.maximumLimit)
  | .common, none => none

/-- The text of a query. -/
def queryText (rules : Rules) (role : Role) (query : Query) : Except Fault String :=
  if query.columns.isEmpty || query.columns.any isWildcard then .error .invalidColumns
  else
    let condition :=
      if query.filters.isEmpty then .ok "1=1" else rules.conditionText query.filters
    match condition with
    | .error fault => .error fault
    | .ok condition =>
      let limit :=
        match rules.effectiveLimit role query.limit with
        | some limit => " LIMIT " ++ Decimal.integerText limit
        | none => ""
      .ok ("SELECT " ++ Text.joined ", " query.columns ++ " FROM " ++ query.table ++ " WHERE " ++
        condition ++ clauseText "GROUP BY" query.groupBy ++
        clauseText "ORDER BY" (query.orderBy.map sortKeyText) ++ limit)

/-- The texts of common tables. -/
def commonTableTexts (rules : Rules) : List CommonTable → Except Fault (List String)
  | [] => .ok []
  | table :: tables =>
    match rules.queryText .common table.query with
    | .error fault => .error fault
    | .ok query =>
      match commonTableTexts rules tables with
      | .error fault => .error fault
      | .ok texts => .ok ((table.name ++ " AS (" ++ query ++ ")") :: texts)

/-- The text of a plan. The main query is examined before the common tables. -/
def statementText (rules : Rules) (plan : Root) : Except Fault String :=
  match rules.queryText .main plan.main with
  | .error fault => .error fault
  | .ok main =>
    if plan.commonTables.isEmpty then .ok main
    else
      match rules.commonTableTexts plan.commonTables with
      | .error fault => .error fault
      | .ok tables => .ok ("WITH " ++ Text.joined ", " tables ++ "\n" ++ main)

end Rules

end QuestionDesk.Sql
