import QuestionDesk.Plan.Reader
import QuestionDesk.Proofs.Schema.Check

/-!
# Which documents are plans

For every part of a plan, the documents that are read as it: which fields there have to be, which
others may be, and what stands in them.
-/
namespace QuestionDesk.Plan

open Schema (Check)
open Schema.Check (join_accepts noOthers_accepts required_accepts optional_accepts listOf_accepts
  orElse_accepts record_accepts texts_accepts text_accepts value?_map value?_within)

/-! ## Filters -/

/-- The word of a junction is read as it. -/
theorem checkJunction_accepts {value : Value} {junction : Junction} :
    (checkJunction value).value? = some junction ↔ value = .text junction.word := by
  constructor
  · intro accepted
    unfold checkJunction at accepted
    split at accepted <;> cases accepted <;> rfl
  · rintro rfl
    cases junction <;> rfl

/-- The filters of a list are read one after the other. -/
theorem checkFilters_accepts {position : Nat} {items : List Value} {filters : List Filter} :
    (checkFilters position items).value? = some filters ↔
      List.Forall₂ (fun item filter => (checkFilter item).value? = some filter) items filters := by
  induction items generalizing position filters with
  | nil => simp [checkFilters, eq_comm]
  | cons item rest rest_accepts =>
    rw [checkFilters, value?_map, Option.map_eq_some_iff]
    constructor
    · rintro ⟨⟨first, others⟩, both, rfl⟩
      rw [join_accepts, value?_within] at both
      exact .cons both.1 (rest_accepts.mp both.2)
    · intro all
      cases all with
      | cons first others =>
        refine ⟨(_, _), join_accepts.mpr ⟨?_, rest_accepts.mpr others⟩, rfl⟩
        rwa [value?_within]

/-- The parts of a group stand in its field of that name, and there is one at least. -/
theorem checkPartsField_accepts {fields : Fields} {parts : List Filter} :
    (checkPartsField fields).value? = some parts ↔
      ∃ items, fields.get? "filters" = some (.list items) ∧ items ≠ [] ∧
        List.Forall₂ (fun item filter => (checkFilter item).value? = some filter) items parts := by
  induction fields with
  | nil => simp [checkPartsField, Fields.get?]
  | cons field rest rest_accepts =>
    obtain ⟨name, value⟩ := field
    by_cases here : name = "filters"
    · rw [checkPartsField, if_pos here, Fields.get?, List.lookup_cons, here]
      simp only [beq_self_eq_true, Option.some.injEq]
      cases value with
      | list items =>
        cases items with
        | nil => simp [checkParts]
        | cons item items => simp [checkParts, checkFilters_accepts]
      | _ => simp [checkParts]
    · have apart : ("filters" == name) = false := beq_false_of_ne fun same => here same.symm
      rw [checkPartsField, if_neg here, rest_accepts, Fields.get?, Fields.get?, List.lookup_cons, apart]

/-- The fields that are read as a group: its junction and its parts, and nothing else. -/
theorem checkGroup_accepts {fields : Fields} {filter : Filter} :
    (checkGroupFields fields).value? = some filter ↔ ∃ junction items parts,
      filter = .group junction parts ∧
        fields.get? "logic" = some (.text (Junction.word junction)) ∧
          fields.get? "filters" = some (.list items) ∧ items ≠ [] ∧
            List.Forall₂ (fun item part => (checkFilter item).value? = some part) items parts ∧
              ∀ field ∈ fields, field.1 ∈ ["logic", "filters"] := by
  rw [checkGroupFields, checkGroup, value?_map, Option.map_eq_some_iff]
  constructor
  · rintro ⟨⟨⟨junction, parts⟩, _⟩, accepted, rfl⟩
    rw [join_accepts, join_accepts, required_accepts, value?_within, checkPartsField_accepts,
      noOthers_accepts] at accepted
    obtain ⟨⟨⟨word, found, known⟩, items, list, some, all⟩, names⟩ := accepted
    rw [checkJunction_accepts] at known
    exact ⟨junction, items, parts, rfl, by rw [found, known], list, some, all, names⟩
  · rintro ⟨junction, items, parts, rfl, word, list, some, all, names⟩
    refine ⟨((junction, parts), ()), ?_, rfl⟩
    rw [join_accepts, join_accepts, required_accepts, value?_within, checkPartsField_accepts,
      noOthers_accepts]
    exact ⟨⟨⟨_, word, checkJunction_accepts.mpr rfl⟩, items, list, some, all⟩, names⟩

/-- The fields that are read as a leaf: its column, operator and operand, and nothing else. -/
theorem checkLeaf_accepts {fields : Fields} {filter : Filter} :
    (checkLeaf fields).value? = some filter ↔ ∃ column operator value operand,
      filter = .leaf column operator operand ∧ fields.get? "column" = some (.text column) ∧
        fields.get? "op" = some (.text operator) ∧ fields.get? "value" = some value ∧
          (checkOperand value).value? = some operand ∧
            ∀ field ∈ fields, field.1 ∈ ["column", "op", "value"] := by
  simp only [checkLeaf, value?_map, Option.map_eq_some_iff]
  constructor
  · rintro ⟨⟨⟨⟨column, operator⟩, operand⟩, _⟩, accepted, rfl⟩
    rw [join_accepts, join_accepts, join_accepts, required_accepts, required_accepts,
      required_accepts, noOthers_accepts] at accepted
    obtain ⟨⟨⟨⟨left, named, first⟩, right, compared, second⟩, value, held, third⟩, names⟩ := accepted
    rw [text_accepts] at first second
    subst first second
    exact ⟨column, operator, value, operand, rfl, named, compared, held, third, names⟩
  · rintro ⟨column, operator, value, operand, rfl, named, compared, held, accepted, names⟩
    refine ⟨(((column, operator), operand), ()), ?_, rfl⟩
    rw [join_accepts, join_accepts, join_accepts, required_accepts, required_accepts,
      required_accepts, noOthers_accepts]
    exact ⟨⟨⟨⟨_, named, rfl⟩, _, compared, rfl⟩, value, held, accepted⟩, names⟩

/-- The documents that are read as filters: objects that are exactly a group or exactly a leaf. -/
theorem checkFilter_accepts {value : Value} {filter : Filter} :
    (checkFilter value).value? = some filter ↔ ∃ fields, value = .object fields ∧
      ((checkGroupFields fields).value? = some filter ∨
        (checkLeaf fields).value? = some filter) := by
  cases value with
  | object fields =>
    rw [checkFilter, orElse_accepts, value?_within, value?_within]
    change (checkGroupFields fields).value? = some filter ∨
      (checkGroupFields fields).value? = none ∧ (checkLeaf fields).value? = some filter ↔ _
    constructor
    · rintro (group | ⟨_, leaf⟩)
      · exact ⟨fields, rfl, Or.inl group⟩
      · exact ⟨fields, rfl, Or.inr leaf⟩
    · rintro ⟨other, same, group | leaf⟩ <;> cases same
      · exact Or.inl group
      · refine Or.inr ⟨?_, leaf⟩
        cases read : (checkGroupFields fields).value? with
        | none => rfl
        | some other =>
          obtain ⟨junction, _, _, _, word, _⟩ := checkGroup_accepts.mp read
          obtain ⟨_, _, _, _, _, _, _, _, _, names⟩ := checkLeaf_accepts.mp leaf
          have member := names _ (Fields.mem_of_get? word)
          simp at member
  | _ => simp [checkFilter, Schema.Check.value?_orElse, value?_within]

/-! ## Queries -/

/-- The filters of a query are a list of filters. -/
theorem checkForest_accepts {value : Value} {filters : List Filter} :
    (checkForest value).value? = some filters ↔ ∃ items, value = .list items ∧
      List.Forall₂ (fun item filter => (checkFilter item).value? = some filter) items filters := by
  cases value <;> simp [checkForest, checkFilters_accepts]

/-- What is read as a query has its table, its columns and its filters in the fields of these
names; filters that are left out are none. -/
theorem checkQuery_accepts {value : Value} {query : Query}
    (accepted : (checkQuery value).value? = some query) : ∃ fields : Fields, value = .object fields ∧
      fields.get? "table" = some (.text query.table) ∧
      fields.get? "columns" = some (.list (query.columns.map .text)) ∧
      ((fields.get? "filters" = none ∧ query.filters = []) ∨ ∃ items,
        fields.get? "filters" = some (.list items) ∧ List.Forall₂
          (fun item filter => (checkFilter item).value? = some filter) items query.filters) := by
  obtain ⟨fields, rfl, read⟩ := record_accepts.mp accepted
  simp only [value?_map, Option.map_eq_some_iff] at read
  obtain ⟨⟨⟨⟨⟨⟨⟨table, columns⟩, filters⟩, groupBy⟩, orderBy⟩, limit⟩, _⟩, read, rfl⟩ := read
  simp only [join_accepts, required_accepts, optional_accepts, text_accepts, texts_accepts,
    checkForest_accepts] at read
  obtain ⟨⟨⟨⟨⟨⟨⟨_, named, rfl⟩, _, selected, rfl⟩, filtered⟩, _⟩, _⟩, _⟩, _⟩ := read
  refine ⟨fields, rfl, named, selected, ?_⟩
  rcases filtered with absent | ⟨_, found, items, rfl, all⟩
  · exact Or.inl absent
  · exact Or.inr ⟨items, found, all⟩

/-- What is read as a common table has its name and its query in the fields of these names. -/
theorem checkCommonTable_accepts {value : Value} {table : CommonTable}
    (accepted : (checkCommonTable value).value? = some table) : ∃ (fields : Fields) (query : Value),
      value = .object fields ∧ fields.get? "name" = some (.text table.name) ∧
        fields.get? "query" = some query ∧ (checkQuery query).value? = some table.query := by
  obtain ⟨fields, rfl, read⟩ := record_accepts.mp accepted
  simp only [value?_map, Option.map_eq_some_iff] at read
  obtain ⟨⟨⟨name, query⟩, _⟩, read, rfl⟩ := read
  simp only [join_accepts, required_accepts, text_accepts] at read
  obtain ⟨⟨⟨_, named, rfl⟩, document, found, accepted⟩, _⟩ := read
  exact ⟨fields, document, rfl, named, found, accepted⟩

/-- What is read as a plan has its main query and its common tables in the fields of these names;
common tables that are left out are none. -/
theorem read_eq_ok {value : Value} {plan : Root} (accepted : read value = .ok plan) :
    ∃ (fields : Fields) (main : Value), value = .object fields ∧ fields.get? "main_query" = some main ∧
      (checkQuery main).value? = some plan.main ∧
      ((fields.get? "ctes" = none ∧ plan.commonTables = []) ∨ ∃ items,
        fields.get? "ctes" = some (.list items) ∧ List.Forall₂
          (fun item table => (checkCommonTable item).value? = some table) items
            plan.commonTables) := by
  have valid : (checkRoot value).value? = some plan := by
    unfold read at accepted
    split at accepted <;> cases accepted
    next found => rw [found]; rfl
  obtain ⟨fields, rfl, read⟩ := record_accepts.mp valid
  simp only [value?_map, Option.map_eq_some_iff] at read
  obtain ⟨⟨commonTables, main⟩, read, rfl⟩ := read
  rw [join_accepts, optional_accepts, required_accepts] at read
  obtain ⟨tables, document, found, accepted⟩ := read
  refine ⟨fields, document, rfl, found, accepted, ?_⟩
  rcases tables with absent | ⟨_, found, listed⟩
  · exact Or.inl absent
  · obtain ⟨items, rfl, all⟩ := listOf_accepts.mp listed
    exact Or.inr ⟨items, found, all⟩

end QuestionDesk.Plan
