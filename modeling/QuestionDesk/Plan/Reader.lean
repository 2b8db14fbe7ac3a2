import QuestionDesk.Plan.Basic
import QuestionDesk.Schema.Convert

/-!
# Reading plans

A plan is read from a document. A filter is either exactly a group or exactly a leaf; when it is
neither, the issues of both alternatives are reported, those of the group first. No value of a
leaf changes its kind. Unknown fields are refused everywhere but at the root.
-/
namespace QuestionDesk.Plan

open Schema (Check Issue)

/-- A check of a named placeholder. -/
def checkVariable : Value → Check String :=
  Check.record "VariableRef" fun fields =>
    ((Check.required fields "var" Check.text).join (Check.noOthers ["var"] fields)).map Prod.fst

/-- The issues of a value that is none of the scalars. -/
def noScalar : Check Operand :=
  (((Check.flawed .notText).within (.named "str")).orElse
    ((Check.flawed .notTruth).within (.named "bool"))).orElse
    (((Check.flawed .notInteger).within (.named "int")).orElse
      ((Check.flawed .notNumber).within (.named "float")))

/-- A check of an item of a list operand: a scalar or a placeholder. -/
def checkElement : Value → Check Operand
  | .null => .valid (.scalar .null)
  | .bool value => .valid (.scalar (.bool value))
  | .int value => .valid (.scalar (.int value))
  | .float value => .valid (.scalar (.float value))
  | .text value => .valid (.scalar (.text value))
  | other => (((checkVariable other).map Operand.variable).within (.named "VariableRef")).orElse noScalar

/-- The name of the list alternative of an operand. -/
def listAlternative : String := "list[nullable[union[VariableRef,str,bool,int,float]]]"

/-- A check of an operand: a scalar, a placeholder or a list of these. -/
def checkOperand (value : Value) : Check Operand :=
  match value with
  | .list _ | .object _ =>
    (((checkVariable value).map Operand.variable).within (.named "VariableRef")).orElse
      ((((Check.listOf checkElement value).map Operand.list).within (.named listAlternative)).orElse
        noScalar)
  | scalar => checkElement scalar

/-- A check of the word of a junction. -/
def checkJunction : Value → Check Junction
  | .text "AND" => .valid .and
  | .text "OR" => .valid .or
  | _ => Check.flawed (.notOneOf ["AND", "OR"])

/-- A check of fields that are to be exactly those of a leaf. -/
def checkLeaf (fields : Fields) : Check Filter :=
  let column := Check.required fields "column" Check.text
  let operator := Check.required fields "op" Check.text
  let operand := Check.required fields "value" checkOperand
  (((column.join operator).join operand).join
    (Check.noOthers ["column", "op", "value"] fields)).map
    fun (((column, operator), operand), _) => .leaf column operator operand

/-- A check of fields that are to be exactly those of a group, given the check of its parts. -/
def checkGroup (fields : Fields) (parts : Check (List Filter)) : Check Filter :=
  let junction := Check.required fields "logic" checkJunction
  ((junction.join parts).join (Check.noOthers ["logic", "filters"] fields)).map
    fun ((junction, parts), _) => .group junction parts

mutual

/-- A check of a filter. -/
def checkFilter : Value → Check Filter
  | .object fields =>
    ((checkGroup fields ((checkPartsField fields).within (.named "filters"))).within
      (.named "FilterGroup")).orElse ((checkLeaf fields).within (.named "FilterLeaf"))
  | _ =>
    ((Check.flawed (.notRecord "FilterGroup")).within (.named "FilterGroup")).orElse
      ((Check.flawed (.notRecord "FilterLeaf")).within (.named "FilterLeaf"))

/-- A check of the field that holds the parts of a group. -/
def checkPartsField : List (String × Value) → Check (List Filter)
  | [] => Check.flawed .missing
  | (name, value) :: rest =>
    if name = "filters" then checkParts value else checkPartsField rest

/-- A check of the parts of a group, of which there is at least one. -/
def checkParts : Value → Check (List Filter)
  | .list [] => Check.flawed .emptyList
  | .list (item :: items) => checkFilters 0 (item :: items)
  | _ => Check.flawed .notList

/-- A check of filters at consecutive positions. -/
def checkFilters : Nat → List Value → Check (List Filter)
  | _, [] => .valid []
  | position, item :: items =>
    (((checkFilter item).within (.item position)).join (checkFilters (position + 1) items)).map
      fun (filter, filters) => filter :: filters

end

/-- A check of fields that are to be exactly those of a group. -/
def checkGroupFields (fields : Fields) : Check Filter :=
  checkGroup fields ((checkPartsField fields).within (.named "filters"))

/-- A check of a list of filters, which may be empty. -/
def checkForest : Value → Check (List Filter)
  | .list items => checkFilters 0 items
  | _ => Check.flawed .notList

/-- A check of the word of a direction. -/
def checkDirection : Value → Check Direction
  | .text "ASC" => .valid .ascending
  | .text "DESC" => .valid .descending
  | _ => Check.flawed (.notMember ["ASC", "DESC"])

/-- A check of a column to order by. -/
def checkSortKey : Value → Check SortKey :=
  Check.record "OrderBy" fun fields =>
    let column := Check.required fields "column" Check.text
    let direction := Check.optional fields "direction" none (Check.nullable checkDirection)
    ((column.join direction).join (Check.noOthers ["column", "direction"] fields)).map
      fun ((column, direction), _) => ⟨column, direction⟩

/-- A check of the plan of one query. -/
def checkQuery : Value → Check Query :=
  Check.record "QueryPlan" fun fields =>
    let table := Check.required fields "table" Check.text
    let columns := Check.required fields "columns" (Check.listOf Check.text)
    let filters := Check.optional fields "filters" [] checkForest
    let groupBy := Check.optional fields "groupBy" [] (Check.listOf Check.text)
    let orderBy := Check.optional fields "orderBy" [] (Check.listOf checkSortKey)
    let limit := Check.optional fields "limit" none (Check.nullable Check.integer)
    let others :=
      Check.noOthers ["table", "columns", "filters", "groupBy", "orderBy", "limit"] fields
    ((((((table.join columns).join filters).join groupBy).join orderBy).join limit).join others).map
      fun ((((((table, columns), filters), groupBy), orderBy), limit), _) =>
        ⟨table, columns, filters, groupBy, orderBy, limit⟩

/-- A check of a common table. -/
def checkCommonTable : Value → Check CommonTable :=
  Check.record "CTEPlan" fun fields =>
    let name := Check.required fields "name" Check.text
    let query := Check.required fields "query" checkQuery
    ((name.join query).join (Check.noOthers ["name", "query"] fields)).map
      fun ((name, query), _) => ⟨name, query⟩

/-- A check of a whole plan. -/
def checkRoot : Value → Check Root :=
  Check.record "RootQueryPlan" fun fields =>
    let commonTables := Check.optional fields "ctes" [] (Check.listOf checkCommonTable)
    let main := Check.required fields "main_query" checkQuery
    (commonTables.join main).map fun (commonTables, main) => ⟨commonTables, main⟩

/-- The plan that a document describes, or the first issue that it has. -/
def read (document : Value) : Except Issue Root :=
  match checkRoot document with
  | .valid plan => .ok plan
  | .invalid first _ => .error first

/-- The wording of an issue of a plan. -/
def malformedText (issue : Issue) : String :=
  "Malformed plan at '" ++ issue.place ++ "': " ++ issue.flaw.message

end QuestionDesk.Plan
