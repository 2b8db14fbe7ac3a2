import QuestionDesk.Pipeline.Run
import QuestionDesk.Proofs.Sql.Faults

/-!
# From documents to queries

What becomes of a document that is to be a plan: either it is described by the grammar of plans, or
it is refused as malformed. A plan that was read, and its document, become the same query as the
document that it was read from; and what keeps a plan from becoming a query is its first fault.
-/
namespace QuestionDesk.Pipeline

open Plan (CommonTable DescribesPlan DescribesQuery Operand Query Root Safety)
open Sql (Fault Rules fault?)

/-! ## Reading -/

/-- A document that was read becomes the query of the plan. -/
theorem compile_eq_of_read {policy : Policy} {fields : Fields} {plan : Root}
    (accepted : Plan.read (.object fields) = .ok plan) : Run.compile policy fields =
      (policy.rules.statementText plan).mapError Failure.ofFault := by
  rw [Run.compile, accepted]
  rfl

/-- A document is read as a plan exactly if it describes one, as the grammar of plans says; then it
describes no other. Every other document is refused as an invalid plan, with its first issue. The
document of a plan that was read is read as the same plan again; so the plan, its document and the
document that it was read from become the same query, or fail in the same way. -/
theorem plans_follow_grammar (document : Value) :
    (∀ plan, Plan.read document = .ok plan ↔ DescribesPlan document plan) ∧
    ((∀ plan, ¬DescribesPlan document plan) ↔ ∃ issue,
      (Plan.read document).mapError Failure.ofIssue =
        .error (.invalidPlan (Plan.malformedText issue) "INVALID_PLAN")) ∧
    ∀ plan, Plan.read document = .ok plan → ∃ fields dump, document = .object fields ∧
      plan.document = .object dump ∧ Plan.read (.object dump) = .ok plan ∧
        ∀ policy : Policy,
          Run.compile policy fields = (policy.rules.statementText plan).mapError Failure.ofFault ∧
          Run.compile policy dump = (policy.rules.statementText plan).mapError Failure.ofFault := by
  refine ⟨fun plan => Plan.read_iff, ⟨fun none => ?_, ?_⟩, fun plan accepted => ?_⟩
  · cases read : Plan.read document with
    | ok plan => exact absurd (Plan.read_iff.mp read) (none plan)
    | error issue => exact ⟨issue, rfl⟩
  · rintro ⟨issue, refused⟩ plan described
    rw [Plan.read_iff.mpr described] at refused
    cases refused
  · have described := Plan.read_iff.mp accepted
    have again := Plan.read_iff.mpr described.document
    cases described with
    | @mk fields => exact ⟨fields, _, rfl, rfl, again, fun policy =>
        ⟨compile_eq_of_read accepted, compile_eq_of_read again⟩⟩

/-- A document that describes a plan, in which every kind of value stands in one list, the parts of a
group stand before its junction, a text stands for the limit, and a field is not part of the plan. -/
def mixedFields : Fields :=
  [("fidelity", .int 1),
    ("main_query", .object [("table", .text "events"), ("columns", .list [.text "type"]),
      ("filters", .list [.object [
        ("filters", .list [.object [("value", .list [.null, .bool true, .int 1,
          .float (Decimal.Double.ofInt 1), .text "1", .object [("var", .text "since")]]),
          ("column", .text "size"), ("op", .text "IN")]]),
        ("logic", .text "AND")]]),
      ("orderBy", .list [.object [("column", .text "size"), ("direction", .text "DESC")]]),
      ("limit", .text "5")])]

/-- The plan in the document with values of every kind. -/
def mixedPlan : Root where
  commonTables := []
  main := ⟨"events", ["type"], [.group .and [.leaf "size" "IN" (.list [.scalar .null,
    .scalar (.bool true), .scalar (.int 1), .scalar (.float (Decimal.Double.ofInt 1)),
    .scalar (.text "1"), .variable "since"])]], [], [⟨"size", some .descending⟩], some 5⟩

/-- The values of every kind are kept apart, also when the plan is read from its own document. -/
theorem plans_follow_grammar_mixed : DescribesPlan (.object mixedFields) mixedPlan ∧
    ∃ dump, mixedPlan.document = .object dump ∧ Plan.read (.object dump) = .ok mixedPlan ∧
      Run.compile {} dump = Run.compile {} mixedFields := by
  have accepted : Plan.read (.object mixedFields) = .ok mixedPlan := rfl
  obtain ⟨described, _, again⟩ := plans_follow_grammar (.object mixedFields)
  obtain ⟨fields, dump, same, document, read, compiles⟩ := again mixedPlan accepted
  cases same
  exact ⟨(described mixedPlan).mp accepted, dump, document, read,
    (compiles {}).2.trans (compiles {}).1.symm⟩

/-! ## Faults -/

/-- A plan that was read does not become a query exactly if it has a fault, and what is reported is
the first one. -/
theorem compile_fails_iff {policy : Policy} {fields : Fields} {plan : Root}
    (accepted : Plan.read (.object fields) = .ok plan) {failure : Failure} :
    Run.compile policy fields = .error failure ↔ ∃ fault : Fault,
      (policy.rules.planFaults plan).head? = some fault ∧ failure = .compilation fault.message := by
  rw [compile_eq_of_read accepted, ← Sql.fault?_statementText (Plan.read_iff.mp accepted)]
  cases policy.rules.statementText plan with
  | ok sql => simp [fault?, Except.mapError]
  | error fault =>
    simp only [fault?, Except.mapError, Failure.ofFault, Except.error.injEq, Option.some.injEq,
      exists_eq_left']
    exact eq_comm

/-- A plan that was read does not become a query exactly if it has a fault. -/
theorem compile_fails {policy : Policy} {fields : Fields} {plan : Root}
    (accepted : Plan.read (.object fields) = .ok plan) :
    (∃ failure, Run.compile policy fields = .error failure) ↔ policy.rules.planFaults plan ≠ [] := by
  simp only [compile_fails_iff accepted]
  cases policy.rules.planFaults plan with
  | nil => simp
  | cons fault faults => exact iff_of_true ⟨_, fault, rfl, rfl⟩ (List.cons_ne_nil _ _)

/-- The columns of a query that was judged safe can be selected. -/
theorem selects_of_judgeQuery {safety : Safety} {fields : Fields} {query : Query}
    (accepted : (Plan.checkQuery (.object fields)).value? = some query)
    (judged : safety.judgeQuery fields = .ok none) : ¬query.LacksColumns := by
  obtain ⟨_, same, named, selected, _⟩ := Plan.checkQuery_accepts accepted
  cases same
  rw [Safety.judgeQuery, Plan.get_of_get? named] at judged
  simp only at judged
  split at judged
  · cases judged
  · rw [Plan.get_of_get? selected] at judged
    rintro (none | ⟨column, member, wildcard⟩)
    · rw [none] at judged
      cases judged
    · have found : (query.columns.map Value.text).any Safety.isWildcardColumn = true :=
        List.any_eq_true.mpr
          ⟨_, List.mem_map_of_mem member, Plan.isWildcard_iff.mpr wildcard⟩
      cases columns : query.columns with
      | nil =>
        rw [columns] at member
        cases member
      | cons first rest =>
        rw [columns] at judged found
        simp only [List.map_cons] at judged found
        rw [if_pos found] at judged
        cases judged

/-- A plan that was read, under any rules, does not become a query exactly if in its main query or in
a common table the columns are missing or hold the wildcard, or an operator of a leaf at any depth is
not allowed, or is a range over something that is no pair, or a membership test in something that is
no list. The failure is one of compilation, and it is that of the first fault: of the main query
before the common tables, of the columns before the filters, of the leaves from left to right, and of
an operator before its operand. The columns are in order whenever the judge accepted the document. -/
theorem first_fault_reported {policy : Policy} {fields : Fields} {plan : Root}
    (accepted : Plan.read (.object fields) = .ok plan) :
    ((∃ failure, Run.compile policy fields = .error failure) ↔ ∃ query ∈ plan.queries,
      query.columns = [] ∨ (∃ column ∈ query.columns, Text.strip column = "*") ∨
        ∃ column operator operand,
          (column, operator, operand) ∈ Plan.forestLeaves query.filters ∧
            (operator ∉ policy.rules.operators ∨
              (operator = "BETWEEN" ∧ ∀ low high, operand ≠ .list [low, high]) ∨
                (operator = "IN" ∧ ∀ items, operand ≠ .list items))) ∧
    (∀ failure, Run.compile policy fields = .error failure ↔ ∃ fault : Fault,
      (policy.rules.planFaults plan).head? = some fault ∧ failure = .compilation fault.message) ∧
    ∀ (safety : Safety) (report : Fields), safety.judge (.object fields) report = .ok none →
      ∀ query ∈ plan.queries, query.columns ≠ [] ∧ ∀ column ∈ query.columns, Text.strip column ≠ "*" := by
  refine ⟨?_, fun failure => compile_fails_iff accepted, fun safety report judged query member => ?_⟩
  · simp only [compile_fails accepted, Sql.planFaults_ne_nil, Sql.queryFaults_ne_nil,
      Query.LacksColumns, Prod.exists, Sql.leafFaults_ne_nil, or_assoc]
  · obtain ⟨inner, read, safe⟩ := Safety.judgeQuery_of_plan accepted
      (Safety.judgePlan_of_judge judged).2 query member
    have selects := selects_of_judgeQuery read safe
    rw [Query.LacksColumns, not_or, not_exists] at selects
    exact ⟨selects.1, fun column listed wildcard => selects.2 column ⟨listed, wildcard⟩⟩

/-- A document with a fault in each of two leaves of its main query and one in the columns of a
common table. -/
def faultyFields : Fields :=
  [("ctes", .list [.object [("name", .text "recent"),
      ("query", .object [("table", .text "events"), ("columns", .list [.text " * "])])]]),
    ("main_query", .object [("table", .text "recent"), ("columns", .list [.text "type"]),
      ("filters", .list [.object [("logic", .text "OR"), ("filters", .list [
        .object [("column", .text "size"), ("op", .text "BETWEEN"), ("value", .int 5)],
        .object [("column", .text "type"), ("op", .text "LIKE"), ("value", .text "%x%")]])]])])]

/-- The plan in the document with three faults. -/
def faultyPlan : Root where
  commonTables := [⟨"recent", ⟨"events", [" * "], [], [], [], none⟩⟩]
  main := ⟨"recent", ["type"], [.group .or [.leaf "size" "BETWEEN" (.scalar (.int 5)),
    .leaf "type" "LIKE" (.scalar (.text "%x%"))]], [], [], none⟩

/-- Of its three faults, the shape of the range is the first. -/
theorem first_fault_reported_range : Plan.read (.object faultyFields) = .ok faultyPlan ∧
    ({} : Rules).planFaults faultyPlan =
      [.rangeShape, .forbiddenOperator "LIKE", .invalidColumns] ∧
    Run.compile {} faultyFields =
      .error (.compilation "BETWEEN operator requires an array value of length 2") := by
  have accepted : Plan.read (.object faultyFields) = .ok faultyPlan := rfl
  have faults : ({} : Rules).planFaults faultyPlan =
      [.rangeShape, .forbiddenOperator "LIKE", .invalidColumns] := by decide +kernel
  exact ⟨accepted, faults, ((first_fault_reported accepted).2.1 _).mpr
    ⟨.rangeShape, congrArg List.head? faults, rfl⟩⟩

end QuestionDesk.Pipeline
