import QuestionDesk.Plan.Basic

/-!
# Plans as documents

The document of a plan lists every field, those left out when it was read with their defaults.
-/
namespace QuestionDesk.Plan

/-- The document of a scalar. -/
def Scalar.document : Scalar → Value
  | .null => .null
  | .bool value => .bool value
  | .int value => .int value
  | .float value => .float value
  | .text value => .text value

mutual

/-- The document of an operand. -/
def Operand.document : Operand → Value
  | .variable name => .object [("var", .text name)]
  | .scalar value => value.document
  | .list items => .list (operandDocuments items)

/-- The documents of several operands. -/
def operandDocuments : List Operand → List Value
  | [] => []
  | item :: items => item.document :: operandDocuments items

end

mutual

/-- The document of a filter. -/
def Filter.document : Filter → Value
  | .group junction parts =>
    .object [("logic", .text junction.word), ("filters", .list (filterDocuments parts))]
  | .leaf column operator operand =>
    .object [("column", .text column), ("op", .text operator), ("value", operand.document)]
  | .stray kind => .text kind.name

/-- The documents of several filters. -/
def filterDocuments : List Filter → List Value
  | [] => []
  | filter :: filters => filter.document :: filterDocuments filters

end

/-- The document of a column to order by. -/
def SortKey.document (key : SortKey) : Value :=
  .object [("column", .text key.column),
    ("direction", (key.direction.map fun direction => .text direction.word).getD .null)]

/-- The document of a query. -/
def Query.document (query : Query) : Value :=
  .object [("table", .text query.table), ("columns", .list (query.columns.map .text)),
    ("filters", .list (filterDocuments query.filters)),
    ("groupBy", .list (query.groupBy.map .text)),
    ("orderBy", .list (query.orderBy.map SortKey.document)),
    ("limit", (query.limit.map .int).getD .null)]

/-- The document of a common table. -/
def CommonTable.document (table : CommonTable) : Value :=
  .object [("name", .text table.name), ("query", table.query.document)]

/-- The document of a plan. -/
def Root.document (plan : Root) : Value :=
  .object [("ctes", .list (plan.commonTables.map CommonTable.document)),
    ("main_query", plan.main.document)]

end QuestionDesk.Plan
