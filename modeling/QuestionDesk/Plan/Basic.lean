import QuestionDesk.Value

/-!
# Query plans

A plan names the tables, columns, filters, groups and order of a query, and the common tables
that it refers to. Filters form a tree: a group joins its parts by one junction, a leaf compares a
column with an operand. A tree put together by hand may also hold something that is no filter.
-/
namespace QuestionDesk.Plan

open Decimal (Double)

/-- A value without parts. -/
inductive Scalar where
  /-- Nothing. -/
  | null
  /-- A truth value. -/
  | bool (value : Bool)
  /-- An integer. -/
  | int (value : Int)
  /-- A double. -/
  | float (value : Double)
  /-- A text. -/
  | text (value : String)
  deriving DecidableEq, Repr

/-- What a column is compared with. -/
inductive Operand where
  /-- A named placeholder. -/
  | variable (name : String)
  /-- A value without parts. -/
  | scalar (value : Scalar)
  /-- A list of operands. -/
  | list (items : List Operand)
  deriving Repr

instance : Inhabited Operand := ⟨.scalar .null⟩

/-- How the parts of a group are joined. -/
inductive Junction where
  /-- All parts hold. -/
  | and
  /-- Some part holds. -/
  | or
  deriving DecidableEq, Repr

/-- The word of a junction. -/
def Junction.word : Junction → String
  | .and => "AND"
  | .or => "OR"

/-- A condition on rows. -/
inductive Filter where
  /-- Several conditions joined. -/
  | group (junction : Junction) (parts : List Filter)
  /-- A comparison of a column with an operand. -/
  | leaf (column operator : String) (operand : Operand)
  /-- Something that is no filter. -/
  | stray (kind : Kind)
  deriving Repr

instance : Inhabited Filter := ⟨.stray .null⟩

/-- The direction of an order. -/
inductive Direction where
  /-- Increasing. -/
  | ascending
  /-- Decreasing. -/
  | descending
  deriving DecidableEq, Repr

/-- The word of a direction. -/
def Direction.word : Direction → String
  | .ascending => "ASC"
  | .descending => "DESC"

/-- A column to order by. -/
structure SortKey where
  /-- The column. -/
  column : String
  /-- The direction, if one is asked for. -/
  direction : Option Direction
  deriving DecidableEq, Repr

/-- The plan of one query. -/
structure Query where
  /-- The table read from. -/
  table : String
  /-- The columns selected. -/
  columns : List String
  /-- The conditions, all of which hold. -/
  filters : List Filter
  /-- The columns grouped by. -/
  groupBy : List String
  /-- The columns ordered by. -/
  orderBy : List SortKey
  /-- The number of rows asked for. -/
  limit : Option Int
  deriving Repr

/-- A named query that others may read from. -/
structure CommonTable where
  /-- The name of the table. -/
  name : String
  /-- The query that fills it. -/
  query : Query
  deriving Repr

/-- A whole plan. -/
structure Root where
  /-- The common tables in order. -/
  commonTables : List CommonTable
  /-- The main query. -/
  main : Query
  deriving Repr

end QuestionDesk.Plan
