import QuestionDesk.Proofs.Sql.Tokens
import QuestionDesk.Sql.Statement

/-!
# The grammar of query texts

A reader of statements. Conditions joined by `AND` bind tighter than conditions joined by `OR`, a
range owns the `AND` between its ends, and parentheses hold a list where an operand is expected and
a group where a condition is expected. The reader descends at most as often as its fuel says, which
never matters when the fuel exceeds the number of tokens.
-/
namespace QuestionDesk.Sql

open Plan (CommonTable Direction Filter Operand Query Root SortKey)

/-- A reader answers with what it read and the tokens behind it. -/
abbrev Reader (α : Type) := List Token → Option (α × List Token)

/-! ## Sequences -/

/-- The tokens behind an expected one. -/
def expect (token : Token) : List Token → Option (List Token)
  | [] => none
  | next :: rest => if next = token then some rest else none

/-- An item put in front of others that were read. -/
def inFront {α : Type} (item : α) (read : List α × List Token) : List α × List Token :=
  (item :: read.1, read.2)

/-- Reads items, one at least, as long as the separator stands behind them. -/
def readSeparated {α : Type} (separator : Token) (read : Reader α) : Nat → Reader (List α)
  | 0, _ => none
  | fuel + 1, tokens =>
    match read tokens with
    | none => none
    | some (item, []) => some ([item], [])
    | some (item, next :: rest) =>
      if next = separator then (readSeparated separator read fuel rest).map (inFront item)
      else some ([item], next :: rest)

/-- Reads a name. -/
def readName : Reader String
  | .name name :: rest => some (name, rest)
  | _ => none

/-! ## Operands and conditions -/

/-- Reads an operand: a name, a literal, or a list in parentheses. -/
def readOperand : Nat → Reader Operand
  | 0, _ => none
  | fuel + 1, tokens =>
    match tokens with
    | .name name :: rest => some (.variable name, rest)
    | .keyword .nullWord :: rest => some (.scalar .null, rest)
    | .keyword .trueWord :: rest => some (.scalar (.bool true), rest)
    | .keyword .falseWord :: rest => some (.scalar (.bool false), rest)
    | .int value :: rest => some (.scalar (.int value), rest)
    | .float value :: rest => some (.scalar (.float value), rest)
    | .text value :: rest => some (.scalar (.text value), rest)
    | .opening :: rest =>
      match readSeparated .comma (readOperand fuel) fuel rest, rest with
      | some (items, .closing :: after), _ => some (.list items, after)
      | none, .closing :: after => some (.list [], after)
      | _, _ => none
    | _ => none

/-- Reads what a column is compared with. -/
def readComparison (fuel : Nat) (column : String) : Reader Filter
  | .sign operator :: rest =>
    (readOperand fuel rest).map fun read => (.leaf column operator read.1, read.2)
  | .keyword .inWord :: rest =>
    match readOperand fuel rest with
    | some (.list items, after) => some (.leaf column "IN" (.list items), after)
    | _ => none
  | .keyword .betweenWord :: rest =>
    match readOperand fuel rest with
    | some (low, .keyword .andWord :: middle) =>
      (readOperand fuel middle).map fun read =>
        (.leaf column "BETWEEN" (.list [low, read.1]), read.2)
    | _ => none
  | _ => none

/-- Several conditions that all hold, as one. -/
def conjunction : List Filter → Filter
  | [only] => only
  | parts => .group .and parts

/-- What stands in parentheses, as one condition. -/
def grouped : List (List Filter) → Filter
  | [parts] => .group .and parts
  | alternatives => .group .or (alternatives.map conjunction)

/-- Conditions joined by `OR`, each of which is several joined by `AND`. -/
def readAlternatives (read : Reader Filter) (fuel : Nat) : Reader (List (List Filter)) :=
  readSeparated (.keyword .orWord) (readSeparated (.keyword .andWord) read fuel) fuel

/-- Reads a condition that is a comparison or stands in parentheses. -/
def readFilter : Nat → Reader Filter
  | 0, _ => none
  | fuel + 1, tokens =>
    match tokens with
    | .name column :: rest => readComparison fuel column rest
    | .opening :: rest =>
      match readAlternatives (readFilter fuel) fuel rest with
      | some (alternatives, .closing :: after) => some (grouped alternatives, after)
      | _ => none
    | _ => none

/-- The conditions of a query, all of which hold. -/
def conditions : List (List Filter) → List Filter
  | [parts] => parts
  | alternatives => [grouped alternatives]

/-- Reads the condition that always holds. -/
def readTruth (tokens : List Token) : Option (List Filter × List Token) :=
  if tokens.take 3 = [.int 1, .sign "=", .int 1] then some ([], tokens.drop 3) else none

/-- Reads the condition of a query. -/
def readCondition (fuel : Nat) : Reader (List Filter) := fun tokens =>
  match readAlternatives (readFilter fuel) fuel tokens with
  | some (alternatives, rest) => some (conditions alternatives, rest)
  | none => readTruth tokens

/-! ## Queries and statements -/

/-- Reads a column to order by. -/
def readSortKey : Reader SortKey
  | .name column :: .keyword .ascendingWord :: rest => some (⟨column, some .ascending⟩, rest)
  | .name column :: .keyword .descendingWord :: rest => some (⟨column, some .descending⟩, rest)
  | .name column :: rest => some (⟨column, none⟩, rest)
  | _ => none

/-- Reads a clause that may be absent. -/
def readClause {α : Type} (keyword : Keyword) (read : Reader (List α)) : Reader (List α)
  | .keyword first :: .keyword .byWord :: rest =>
    if first = keyword then read rest else some ([], .keyword first :: .keyword .byWord :: rest)
  | tokens => some ([], tokens)

/-- Reads a limit that may be absent. -/
def readLimit : Reader (Option Int)
  | .keyword .limitWord :: .int limit :: rest => some (some limit, rest)
  | tokens => some (none, tokens)

/-- Reads a query. -/
def readQuery (fuel : Nat) : Reader Query := fun tokens => do
  let rest ← expect (.keyword .selectWord) tokens
  let (columns, rest) ← readSeparated .comma readName fuel rest
  let rest ← expect (.keyword .fromWord) rest
  let (table, rest) ← readName rest
  let rest ← expect (.keyword .whereWord) rest
  let (filters, rest) ← readCondition fuel rest
  let (groupBy, rest) ← readClause .groupWord (readSeparated .comma readName fuel) rest
  let (orderBy, rest) ← readClause .orderWord (readSeparated .comma readSortKey fuel) rest
  let (limit, rest) ← readLimit rest
  some ({ table, columns, filters, groupBy, orderBy, limit }, rest)

/-- Reads a common table. -/
def readCommonTable (fuel : Nat) : Reader CommonTable := fun tokens => do
  let (name, rest) ← readName tokens
  let rest ← expect (.keyword .asWord) rest
  let rest ← expect .opening rest
  let (query, rest) ← readQuery fuel rest
  let rest ← expect .closing rest
  some ({ name, query }, rest)

/-- Reads the common tables of a statement, if there are any. -/
def readCommonTables (fuel : Nat) : Reader (List CommonTable)
  | .keyword .withWord :: rest => readSeparated .comma (readCommonTable fuel) fuel rest
  | tokens => some ([], tokens)

/-- The plan that a text is the statement of. -/
def readStatement (sql : String) : Option Root := do
  let tokens ← tokens? sql.toList
  let (commonTables, rest) ← readCommonTables (tokens.length + 1) tokens
  let (main, rest) ← readQuery (tokens.length + 1) rest
  if rest = [] then some { commonTables, main } else none

end QuestionDesk.Sql

namespace QuestionDesk.Plan

/-! ## What a statement says -/

mutual

/-- A filter in which every group with a single part joins it by the same junction. -/
def Filter.relabelled : Filter → Filter
  | .group junction parts =>
    .group (if parts.length = 1 then .and else junction) (relabelledAll parts)
  | .leaf column operator operand => .leaf column operator operand
  | .stray kind => .stray kind

/-- Filters in which every group with a single part joins it by the same junction. -/
def relabelledAll : List Filter → List Filter
  | [] => []
  | filter :: filters => filter.relabelled :: relabelledAll filters

end

/-- Filters under one junction are as many as before. -/
theorem length_relabelledAll (filters : List Filter) :
    (relabelledAll filters).length = filters.length := by
  induction filters with
  | nil => rfl
  | cons filter filters ih => rw [relabelledAll, List.length_cons, List.length_cons, ih]

/-- The limit in force: of a positive limit at most fifty, else twenty for a main query and none for
a common table. -/
def limitInForce (role : Sql.Role) (asked : Option Int) : Option Int :=
  match role, asked.filter (0 < ·) with
  | _, some limit => some (min limit 50)
  | .main, none => some 20
  | .common, none => none

/-- The limit in force is the one that a query gets under the usual rules. -/
theorem effectiveLimit_eq (role : Sql.Role) (asked : Option Int) :
    ({} : Sql.Rules).effectiveLimit role asked = limitInForce role asked := by
  unfold Sql.Rules.effectiveLimit limitInForce
  cases role <;> cases asked.filter (0 < ·) <;> rfl

/-- A query with the limit in force. -/
def Query.effective (role : Sql.Role) (query : Query) : Query :=
  { query with
    filters := relabelledAll query.filters
    limit := limitInForce role query.limit }

/-- A common table with the limit in force. -/
def CommonTable.effective (table : CommonTable) : CommonTable :=
  { table with query := table.query.effective .common }

/-- A plan with the limits in force. -/
def Root.effective (plan : Root) : Root where
  commonTables := plan.commonTables.map CommonTable.effective
  main := plan.main.effective .main

/-! ## Plans with plain names -/

mutual

/-- Whether the names in an operand are plain and its doubles finite. -/
def Operand.isPlain : Operand → Bool
  | .variable name => Sql.isName name
  | .scalar (.float value) => value.isFinite
  | .scalar _ => true
  | .list items => allPlain items

/-- Whether several operands are plain. -/
def allPlain : List Operand → Bool
  | [] => true
  | item :: items => item.isPlain && allPlain items

end

mutual

/-- Whether the names in a filter are plain and its doubles finite. -/
def Filter.isPlain : Filter → Bool
  | .group _ parts => forestPlain parts
  | .leaf column _ operand => Sql.isName column && operand.isPlain
  | .stray _ => true

/-- Whether several filters are plain. -/
def forestPlain : List Filter → Bool
  | [] => true
  | filter :: filters => filter.isPlain && forestPlain filters

end

/-- Whether the names in a query are plain and its doubles finite. -/
def Query.isPlain (query : Query) : Bool :=
  Sql.isName query.table && query.columns.all Sql.isName && forestPlain query.filters &&
    query.groupBy.all Sql.isName && query.orderBy.all fun key => Sql.isName key.column

/-- Whether the names in a plan are plain and its doubles finite. -/
def Root.isPlain (plan : Root) : Bool :=
  plan.main.isPlain && plan.commonTables.all fun table => Sql.isName table.name && table.query.isPlain

end QuestionDesk.Plan
