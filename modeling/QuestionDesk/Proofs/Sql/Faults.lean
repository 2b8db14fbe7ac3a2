import QuestionDesk.Proofs.Plan.Bounds
import QuestionDesk.Proofs.Plan.Grammar
import QuestionDesk.Sql.Statement

/-!
# Faults of plans

All faults of a plan in one list: those of the main query before those of the common tables, in a
query the columns before the filters, of the filters the leaves from left to right however deep they
stand, and of a leaf the operator before the operand. The text of a plan fails with the first of them,
and exists when there are none.
-/
namespace QuestionDesk

namespace Plan

/-! ## Leaves -/

mutual

/-- The leaves of a filter from left to right. -/
def Filter.leaves : Filter → List Comparison
  | .group _ parts => forestLeaves parts
  | .leaf column operator operand => [(column, operator, operand)]
  | .stray _ => []

/-- The leaves of several filters from left to right. -/
def forestLeaves : List Filter → List Comparison
  | [] => []
  | filter :: filters => filter.leaves ++ forestLeaves filters

end

/-- Whether an operand is a list. -/
def Operand.isList : Operand → Bool
  | .list _ => true
  | _ => false

/-- Whether an operand is a list of two. -/
def Operand.isPair : Operand → Bool
  | .list [_, _] => true
  | _ => false

/-- A query selects nothing that can be written: it has no columns, or one of them is the wildcard,
blanks around it aside. -/
def Query.LacksColumns (query : Query) : Prop :=
  query.columns = [] ∨ ∃ column ∈ query.columns, Text.strip column = "*"

instance (query : Query) : Decidable query.LacksColumns := inferInstanceAs (Decidable (_ ∨ _))

/-- The wildcard is what is left of a column without the blanks around it. -/
theorem isWildcard_iff {column : String} :
    Sql.isWildcard column = true ↔ Text.strip column = "*" := by
  rw [Sql.isWildcard, beq_iff_eq, Text.strip]
  constructor
  · intro same
    rw [same]
  · intro same
    simpa using congrArg String.toList same

/-- An operand that is a list is one of some items. -/
theorem Operand.isList_iff {operand : Operand} :
    operand.isList = true ↔ ∃ items, operand = .list items := by
  cases operand <;> simp [isList]

/-- An operand that is a pair is a list of a low and a high end. -/
theorem Operand.isPair_iff {operand : Operand} :
    operand.isPair = true ↔ ∃ low high, operand = .list [low, high] := by
  unfold isPair
  split
  · exact iff_of_true rfl ⟨_, _, rfl⟩
  · next other => exact iff_of_false nofun fun ⟨low, high, same⟩ => other low high same

/-- The filters of a query are described where the query is. -/
theorem DescribesQuery.described_filters {fields : Fields} {query : Query}
    (described : DescribesQuery fields query) :
    ∃ items, List.Forall₂ DescribesFilter items query.filters := by
  rcases described.filters with ⟨_, none⟩ | ⟨_, _, items, _, each⟩
  · exact ⟨[], none ▸ .nil⟩
  · exact ⟨items, each⟩

/-- The queries of a plan are described where the plan is. -/
theorem DescribesPlan.described_queries {document : Value} {plan : Root}
    (described : DescribesPlan document plan) :
    ∀ query ∈ plan.queries, ∃ fields, DescribesQuery fields query := by
  obtain ⟨_, main, tables⟩ := described
  intro query member
  rcases List.mem_cons.mp member with rfl | later
  · exact ⟨_, main⟩
  · obtain ⟨table, listed, rfl⟩ := List.mem_map.mp later
    rcases tables with ⟨_, none⟩ | ⟨_, _, items, _, each⟩
    · rw [none] at listed
      cases listed
    · have documents := describes_tableDocuments each
      rw [List.forall₂_map_left_iff, List.forall₂_same] at documents
      obtain ⟨_, _, inner, _⟩ := documents table listed
      exact ⟨_, inner⟩

end Plan

namespace Sql

open Plan (CommonTable Comparison DescribesFilter DescribesPlan DescribesQuery Filter Operand Query
  Root forestLeaves)

/-! ## The list of faults -/

/-- The faults of a leaf: of its operator, then of the shape of its operand. -/
def Rules.leafFaults (rules : Rules) : Comparison → List Fault
  | (_, operator, operand) =>
    (if operator ∈ rules.operators then [] else [.forbiddenOperator operator]) ++
      (if operator = "BETWEEN" ∧ operand.isPair = false then [.rangeShape] else []) ++
      (if operator = "IN" ∧ operand.isList = false then [.membershipShape] else [])

/-- The faults of several filters. -/
def Rules.forestFaults (rules : Rules) (filters : List Filter) : List Fault :=
  (forestLeaves filters).flatMap rules.leafFaults

/-- The faults of a query: of its columns, then of its filters. -/
def Rules.queryFaults (rules : Rules) (query : Query) : List Fault :=
  (if query.LacksColumns then [.invalidColumns] else []) ++ rules.forestFaults query.filters

/-- The faults of a plan: of its main query, then of its common tables. -/
def Rules.planFaults (rules : Rules) (plan : Root) : List Fault :=
  plan.queries.flatMap rules.queryFaults

/-- The fault with which the making of a text failed. -/
def fault? {α : Type} : Except Fault α → Option Fault
  | .ok _ => none
  | .error fault => some fault

variable {rules : Rules}

/-! ## The first fault is reported -/

/-- A leaf fails with its first fault. -/
theorem fault?_leafText (column operator : String) (operand : Operand) :
    fault? (rules.leafText column operator operand) =
      (rules.leafFaults (column, operator, operand)).head? := by
  simp only [Rules.leafText, Rules.leafFaults]
  by_cases allowed : operator ∈ rules.operators
  · rw [if_neg (by simpa using allowed), if_pos allowed, List.nil_append]
    by_cases range : operator = "BETWEEN"
    · have noMember : ¬(operator = "IN" ∧ operand.isList = false) := by simp [range]
      rw [if_pos range, if_neg noMember, List.append_nil]
      split
      · next low high => simp [Operand.isPair, fault?]
      · next other =>
        have single : operand.isPair = false := Bool.eq_false_iff.mpr fun pair => by
          obtain ⟨low, high, same⟩ := Operand.isPair_iff.mp pair
          exact other low high same
        rw [if_pos ⟨range, single⟩]
        rfl
    · rw [if_neg range, if_neg fun both => range both.1, List.nil_append]
      split
      · next items => simp [Operand.isList, fault?]
      · next other =>
        have single : operand.isList = false := Bool.eq_false_iff.mpr fun list => by
          obtain ⟨items, same⟩ := Operand.isList_iff.mp list
          exact other items same
        rw [if_pos ⟨rfl, single⟩]
        rfl
      · next noMember _ =>
        rw [if_neg fun both => noMember both.1]
        rfl
  · rw [if_pos (by simpa using allowed), if_neg allowed]
    rfl

mutual

/-- A filter fails with the first fault of its leaves. -/
theorem fault?_filterText : (filter : Filter) → {value : Value} → DescribesFilter value filter →
    fault? (rules.filterText filter) = (filter.leaves.flatMap rules.leafFaults).head?
  | .group junction [], _, .group word listed filled each only => by
    cases each
    exact absurd rfl filled
  | .group junction (part :: parts), _, .group word listed filled each only => by
    rw [Rules.filterText, Filter.leaves, ← Rules.forestFaults,
      ← fault?_filterTexts (part :: parts) each]
    cases rules.filterTexts (part :: parts) <;> rfl
  | .leaf column operator operand, _, .leaf _ _ _ _ _ => by
    rw [Rules.filterText, Filter.leaves, List.flatMap_singleton]
    exact fault?_leafText column operator operand

/-- Several filters fail with the first fault of their leaves. -/
theorem fault?_filterTexts : (filters : List Filter) → {items : List Value} →
    List.Forall₂ DescribesFilter items filters →
      fault? (rules.filterTexts filters) = (rules.forestFaults filters).head?
  | [], _, .nil => rfl
  | filter :: filters, _, .cons first others => by
    rw [Rules.forestFaults, forestLeaves, List.flatMap_append, List.head?_append,
      ← fault?_filterText filter first, ← Rules.forestFaults, ← fault?_filterTexts filters others,
      Rules.filterTexts]
    cases rules.filterText filter <;> cases rules.filterTexts filters <;> rfl

end

/-- A query fails with its first fault. -/
theorem fault?_queryText {role : Role} {fields : Fields} {query : Query}
    (described : DescribesQuery fields query) :
    fault? (rules.queryText role query) = (rules.queryFaults query).head? := by
  obtain ⟨items, each⟩ := described.described_filters
  have columns : (query.columns.isEmpty || query.columns.any isWildcard) = true ↔
      query.LacksColumns := by
    simp only [Bool.or_eq_true, List.isEmpty_iff, List.any_eq_true, Plan.isWildcard_iff]
    rfl
  unfold Rules.queryText Rules.queryFaults
  by_cases lacks : query.LacksColumns
  · rw [if_pos (columns.mpr lacks), if_pos lacks]
    rfl
  · rw [if_neg (mt columns.mp lacks), if_neg lacks, List.nil_append, ← fault?_filterTexts _ each]
    cases filters : query.filters with
    | nil => rfl
    | cons filter rest =>
      simp only [List.isEmpty_cons, Bool.false_eq_true, if_false, Rules.conditionText]
      cases rules.filterTexts (filter :: rest) <;> rfl

/-- Common tables fail with the first fault of their queries. -/
theorem fault?_commonTableTexts {tables : List CommonTable}
    (each : ∀ table ∈ tables, ∃ fields, DescribesQuery fields table.query) :
    fault? (rules.commonTableTexts tables) =
      ((tables.map CommonTable.query).flatMap rules.queryFaults).head? := by
  induction tables with
  | nil => rfl
  | cons table tables others =>
    obtain ⟨fields, first⟩ := each table List.mem_cons_self
    rw [List.map_cons, List.flatMap_cons, List.head?_append, ← @fault?_queryText _ .common _ _ first,
      ← others fun other member => each other (List.mem_cons_of_mem _ member),
      Rules.commonTableTexts]
    cases rules.queryText .common table.query <;> cases rules.commonTableTexts tables <;> rfl

/-- A leaf has a fault if its operator is not allowed, or its operand does not have the shape that the
operator asks for. -/
theorem leafFaults_ne_nil {column operator : String} {operand : Operand} :
    rules.leafFaults (column, operator, operand) ≠ [] ↔ operator ∉ rules.operators ∨
      (operator = "BETWEEN" ∧ ∀ low high, operand ≠ .list [low, high]) ∨
        (operator = "IN" ∧ ∀ items, operand ≠ .list items) := by
  have pair : operand.isPair = false ↔ ∀ low high, operand ≠ .list [low, high] := by
    rw [← Bool.not_eq_true, Operand.isPair_iff]
    simp only [not_exists, ne_eq]
  have list : operand.isList = false ↔ ∀ items, operand ≠ .list items := by
    rw [← Bool.not_eq_true, Operand.isList_iff, not_exists]
  rw [← pair, ← list]
  simp only [Rules.leafFaults, ne_eq, List.append_eq_nil_iff, ite_eq_left_iff, ite_eq_right_iff,
    List.cons_ne_nil, imp_false, not_not]
  tauto

/-- A query has a fault if its columns cannot be selected or one of its leaves has one. -/
theorem queryFaults_ne_nil {query : Query} : rules.queryFaults query ≠ [] ↔
    query.LacksColumns ∨ ∃ leaf ∈ forestLeaves query.filters, rules.leafFaults leaf ≠ [] := by
  simp only [Rules.queryFaults, Rules.forestFaults, ne_eq, List.append_eq_nil_iff,
    List.flatMap_eq_nil_iff, ite_eq_right_iff, List.cons_ne_nil, imp_false, not_and_or, not_not,
    not_forall, exists_prop]

/-- A plan has a fault if one of its queries has one. -/
theorem planFaults_ne_nil {plan : Root} :
    rules.planFaults plan ≠ [] ↔ ∃ query ∈ plan.queries, rules.queryFaults query ≠ [] := by
  simp only [Rules.planFaults, ne_eq, List.flatMap_eq_nil_iff, not_forall, exists_prop]

/-- A plan fails with its first fault. -/
theorem fault?_statementText {document : Value} {plan : Root}
    (described : DescribesPlan document plan) :
    fault? (rules.statementText plan) = (rules.planFaults plan).head? := by
  have each := described.described_queries
  obtain ⟨fields, first⟩ := each plan.main List.mem_cons_self
  have others := @fault?_commonTableTexts rules plan.commonTables fun table member =>
    each _ (List.mem_cons_of_mem _ (List.mem_map_of_mem member))
  rw [Rules.planFaults, Root.queries, List.flatMap_cons, List.head?_append,
    ← @fault?_queryText _ .main _ _ first, ← others, Rules.statementText]
  cases rules.queryText .main plan.main with
  | error fault => rfl
  | ok main =>
    cases plan.commonTables with
    | nil => rfl
    | cons table tables =>
      simp only [List.isEmpty_cons, Bool.false_eq_true, if_false]
      cases rules.commonTableTexts (table :: tables) <;> rfl

end Sql

end QuestionDesk
