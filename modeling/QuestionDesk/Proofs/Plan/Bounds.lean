import QuestionDesk.Plan.Safety
import QuestionDesk.Proofs.Plan.Reader

/-!
# Bounded days

The judge searches the document of a plan for a leaf that bounds the days of a sharded table. Here
the leaf is found again in the plan that was read from the document, and the whole condition is
shown to imply it: whatever truth values the leaves have, where the condition holds the leaf does.
-/
namespace QuestionDesk.Plan

/-! ## What filters mean -/

/-- A leaf without its place: a column, an operator and an operand. -/
abbrev Comparison := String × String × Operand

mutual

/-- The leaf of a filter at a path, which gives the position of the part to go to at each group. -/
def Filter.leafAt? : Filter → List Nat → Option Comparison
  | .leaf column operator operand, [] => some (column, operator, operand)
  | .group _ parts, position :: path => forestLeaf? parts position path
  | _, _ => none

/-- The leaf of several filters at a path that starts with the position of one of them. -/
def forestLeaf? : List Filter → Nat → List Nat → Option Comparison
  | [], _, _ => none
  | filter :: _, 0, path => filter.leafAt? path
  | _ :: filters, position + 1, path => forestLeaf? filters position path

end

mutual

/-- Whether a filter holds, given the truth value of the leaf at each path. -/
def Filter.holds (truth : List Nat → Bool) : Filter → Bool
  | .leaf _ _ _ => truth []
  | .group .and parts => allHold truth 0 parts
  | .group .or parts => someHolds truth 0 parts
  | .stray _ => truth []

/-- Whether all filters from a position on hold. -/
def allHold (truth : List Nat → Bool) : Nat → List Filter → Bool
  | _, [] => true
  | position, filter :: filters =>
    filter.holds (fun path => truth (position :: path)) && allHold truth (position + 1) filters

/-- Whether some filter from a position on holds. -/
def someHolds (truth : List Nat → Bool) : Nat → List Filter → Bool
  | _, [] => false
  | position, filter :: filters =>
    filter.holds (fun path => truth (position :: path)) || someHolds truth (position + 1) filters

end

/-- The operators that bound a column. -/
def boundingOperators : List String := ["=", "IN", "BETWEEN"]

/-- Whether a filter has a leaf on a column with a bounding operator that holds whenever the filter
does. -/
def Filter.Pins (column : String) (filter : Filter) : Prop :=
  ∃ path operator operand, filter.leafAt? path = some (column, operator, operand) ∧
    operator ∈ boundingOperators ∧
      ∀ truth : List Nat → Bool, filter.holds truth = true → truth path = true

/-- Whether a query has a leaf on a column with a bounding operator that holds wherever all its
filters do. -/
def Query.Pins (column : String) (query : Query) : Prop :=
  ∃ position path operator operand,
    forestLeaf? query.filters position path = some (column, operator, operand) ∧
      operator ∈ boundingOperators ∧ ∀ truth : List Nat → Bool,
        allHold truth 0 query.filters = true → truth (position :: path) = true

/-- The queries of a plan, the main one first. -/
def Root.queries (plan : Root) : List Query :=
  plan.main :: plan.commonTables.map CommonTable.query

/-! ## The leaf that the judge finds -/

/-- The parts of a group stand in its field of that name. -/
theorem partsBound_eq (column : String) (fields : Fields) :
    partsBound column fields =
      match fields.get? "filters" with
      | some value => valueBounds column value
      | none => .ok false := by
  induction fields with
  | nil => rfl
  | cons field rest same =>
    obtain ⟨name, value⟩ := field
    by_cases here : name = "filters"
    · simp [partsBound, here, Fields.get?]
    · have apart : ("filters" == name) = false := beq_false_of_ne fun equal => here equal.symm
      rw [partsBound, if_neg here, same, Fields.get?, Fields.get?, List.lookup_cons, apart]

/-- A field that is looked up as present holds what is looked up. -/
theorem get_of_get? {fields : Fields} {name : String} {value : Value}
    (found : fields.get? name = some value) : fields.get name = value := by
  rw [Fields.get, found]
  rfl

/-- The operators that bound a column are those of the list. -/
theorem isBounding_iff {value : Value} :
    isBounding value = true ↔ ∃ operator ∈ boundingOperators, value = .text operator := by
  simp [isBounding, boundingOperators, or_assoc]

mutual

/-- A filter in which the judge finds a bounding leaf pins the column. -/
theorem Filter.pins_of_bounds (column : String) :
    (filter : Filter) → {value : Value} → (checkFilter value).value? = some filter →
      boundsColumn column value = .ok true → filter.Pins column
  | .group junction parts, value, accepted, bounds => by
    obtain ⟨fields, rfl, group | leaf⟩ := checkFilter_accepts.mp accepted
    · obtain ⟨_, items, _, same, word, list, _, all, _⟩ := checkGroup_accepts.mp group
      cases same
      have present : Fields.has fields "logic" = true := by rw [Fields.has, word]; rfl
      rw [boundsColumn, if_pos present, get_of_get? word, partsBound_eq, list] at bounds
      cases junction with
      | or => simp [Junction.word] at bounds
      | and =>
        simp only [Junction.word, if_true, valueBounds] at bounds
        obtain ⟨position, path, operator, operand, found, bounding, entails⟩ :=
          forest_pins_of_bounds column parts all bounds
        exact ⟨position :: path, operator, operand, found, bounding, fun truth holds => by
          simpa using entails truth 0 (by simpa [Filter.holds] using holds)⟩
    · obtain ⟨_, _, _, _, same, _⟩ := checkLeaf_accepts.mp leaf
      cases same
  | .leaf named operator operand, value, accepted, bounds => by
    obtain ⟨fields, rfl, group | leaf⟩ := checkFilter_accepts.mp accepted
    · obtain ⟨_, _, _, same, _⟩ := checkGroup_accepts.mp group
      cases same
    · obtain ⟨_, _, _, _, same, left, right, _, _, names⟩ := checkLeaf_accepts.mp leaf
      cases same
      have absent : Fields.has fields "logic" = false := by
        rw [Fields.has]
        cases word : Fields.get? fields "logic" with
        | none => rfl
        | some value => simpa using names _ (Fields.mem_of_get? word)
      rw [boundsColumn, if_neg (by simp [absent]), get_of_get? left, get_of_get? right] at bounds
      simp only [Except.ok.injEq, Bool.and_eq_true, decide_eq_true_eq, Value.text.injEq] at bounds
      obtain ⟨rfl, bounding⟩ := bounds
      obtain ⟨_, listed, same⟩ := isBounding_iff.mp bounding
      cases same
      exact ⟨[], operator, operand, rfl, listed, fun _ holds => holds⟩
  | .stray kind, value, accepted, bounds => by
    obtain ⟨fields, rfl, group | leaf⟩ := checkFilter_accepts.mp accepted
    · obtain ⟨_, _, _, same, _⟩ := checkGroup_accepts.mp group
      cases same
    · obtain ⟨_, _, _, _, same, _⟩ := checkLeaf_accepts.mp leaf
      cases same

/-- Filters that all have to hold, in one of which the judge finds a bounding leaf, pin the
column. -/
theorem forest_pins_of_bounds (column : String) :
    (filters : List Filter) → {items : List Value} →
      List.Forall₂ (fun item filter => (checkFilter item).value? = some filter) items filters →
        anyBounds column items = .ok true → ∃ position path operator operand,
          forestLeaf? filters position path = some (column, operator, operand) ∧
            operator ∈ boundingOperators ∧ ∀ (truth : List Nat → Bool) (start : Nat),
              allHold truth start filters = true → truth ((start + position) :: path) = true
  | [], items, all, bounds => by
    cases all
    simp [anyBounds] at bounds
  | filter :: filters, items, all, bounds => by
    cases all with
    | @cons item _ rest _ accepted others =>
      rw [anyBounds] at bounds
      cases first : boundsColumn column item with
      | error obstacle => simp [first] at bounds
      | ok found =>
        cases found with
        | true =>
          obtain ⟨path, operator, operand, leaf, bounding, entails⟩ :=
            Filter.pins_of_bounds column filter accepted first
          refine ⟨0, path, operator, operand, leaf, bounding, fun truth start holds => ?_⟩
          rw [allHold, Bool.and_eq_true] at holds
          exact entails (fun path => truth (start :: path)) holds.1
        | false =>
          simp only [first] at bounds
          obtain ⟨position, path, operator, operand, leaf, bounding, entails⟩ :=
            forest_pins_of_bounds column filters others bounds
          refine ⟨position + 1, path, operator, operand, leaf, bounding, fun truth start holds => ?_⟩
          rw [allHold, Bool.and_eq_true] at holds
          rw [show start + (position + 1) = start + 1 + position by omega]
          exact entails truth (start + 1) holds.2

end

namespace Safety

/-- A query that was judged safe and reads several days of a sharded table pins the column that
bounds the days. -/
theorem query_pins_of_judge {safety : Safety} {fields : Fields} {query : Query}
    (accepted : (checkQuery (.object fields)).value? = some query)
    (judged : safety.judgeQuery fields = .ok none)
    (sharded : isShardedWildcard query.table = true) : query.Pins safety.partitionColumn := by
  obtain ⟨_, same, named, selected, filtered⟩ := checkQuery_accepts accepted
  cases same
  rw [judgeQuery, get_of_get? named] at judged
  simp only at judged
  split at judged
  · cases judged
  · rw [get_of_get? selected] at judged
    split at judged
    · split at judged
      · cases judged
      · rw [hasPartitionFilter] at judged
        rcases filtered with ⟨absent, none⟩ | ⟨items, found, all⟩
        · simp [Fields.get, absent, valueBounds, searched, Value.isTruthy, Except.map] at judged
        · rw [get_of_get? found, valueBounds] at judged
          cases bounds : anyBounds safety.partitionColumn items with
          | error obstacle => simp [bounds] at judged
          | ok found =>
            cases found with
            | false => simp [bounds] at judged
            | true =>
              obtain ⟨position, path, operator, operand, leaf, bounding, entails⟩ :=
                forest_pins_of_bounds _ _ all bounds
              exact ⟨position, path, operator, operand, leaf, bounding, fun truth holds => by
                simpa using entails truth 0 holds⟩
    · cases judged

/-- Common tables that were judged safe are queries that were. -/
theorem judgeQuery_of_tables {safety : Safety} {items : List Value} {tables : List CommonTable}
    (all : List.Forall₂ (fun item table => (checkCommonTable item).value? = some table)
      items tables) (judged : safety.judgeCommonTables items = .ok none) :
    ∀ table ∈ tables, ∃ fields, (checkQuery (.object fields)).value? = some table.query ∧
      safety.judgeQuery fields = .ok none := by
  induction all with
  | nil => simp
  | cons accepted _ rest =>
    obtain ⟨fields, query, rfl, _, found, read⟩ := checkCommonTable_accepts accepted
    obtain ⟨inner, rfl, _⟩ := checkQuery_accepts read
    rw [judgeCommonTables, get_of_get? found] at judged
    simp only at judged
    split at judged
    · next first =>
      intro table member
      rcases List.mem_cons.mp member with rfl | later
      · exact ⟨inner, read, first⟩
      · exact rest judged table later
    · next other different =>
      exact absurd judged different

/-- A plan that was judged safe consists of queries that were. -/
theorem judgeQuery_of_plan {safety : Safety} {fields : Fields} {plan : Root}
    (accepted : read (.object fields) = .ok plan)
    (judged : safety.judgePlan (.object fields) = .ok none) :
    ∀ query ∈ plan.queries, ∃ inner, (checkQuery (.object inner)).value? = some query ∧
      safety.judgeQuery inner = .ok none := by
  obtain ⟨_, main, same, found, first, tables⟩ := read_eq_ok accepted
  cases same
  obtain ⟨inner, rfl, _⟩ := checkQuery_accepts first
  rw [judgePlan, get_of_get? found] at judged
  split at judged
  · cases judged
  · split at judged
    · cases judged
    · next same =>
      cases same
      split at judged
      · next safe =>
        intro query member
        rcases List.mem_cons.mp member with rfl | later
        · exact ⟨inner, first, safe⟩
        · obtain ⟨table, listed, rfl⟩ := List.mem_map.mp later
          rcases tables with ⟨_, none⟩ | ⟨items, found, all⟩
          · rw [none] at listed
            cases listed
          · have whole : searched (Fields.get fields "ctes") = .ok items := by
              rw [get_of_get? found]
              cases items <;> rfl
            rw [whole] at judged
            exact judgeQuery_of_tables all judged table listed
      · next different => exact absurd judged different
    · cases judged

/-- A plan that was judged safe was not abstained from and is safe itself. -/
theorem judgePlan_of_judge {safety : Safety} {plan : Value} {report : Fields}
    (judged : safety.judge plan report = .ok none) :
    (report.get "abstain").isTruthy = false ∧ safety.judgePlan plan = .ok none := by
  simp only [judge] at judged
  split at judged
  · cases judged
  · next willing =>
    refine ⟨by simpa using willing, ?_⟩
    split at judged
    · split at judged <;> cases judged
    · exact judged

end Safety

end QuestionDesk.Plan
