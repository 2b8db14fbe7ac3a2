import QuestionDesk.Plan.Document
import QuestionDesk.Proofs.Plan.Reader

/-!
# The grammar of plans

Which documents describe which plans: what stands in which field, which fields may be left out, and
that there are no others. The grammar is stated apart from the reader, which is shown to accept
exactly what it describes. The scalars of a leaf are described by themselves, so no value changes its
kind. The document of a plan that was read describes that plan again.
-/
namespace QuestionDesk.Plan

open Decimal (Double)
open Schema (Check integerOf?)
open Schema.Check (join_accepts noOthers_accepts required_accepts optional_accepts listOf_accepts
  orElse_accepts record_accepts texts_accepts text_accepts value?_map value?_within)

/-! ## The grammar -/

/-- Fields have no other names than those allowed. -/
def OnlyNamed (allowed : List String) (fields : Fields) : Prop :=
  ∀ field ∈ fields, field.1 ∈ allowed

/-- A field that may be left out describes a result: what is described by its value, or its default
when it is absent. -/
def MayHold {α : Type} (fields : Fields) (name : String) (default : α)
    (describes : Value → α → Prop) (result : α) : Prop :=
  (fields.get? name = none ∧ result = default) ∨
    ∃ value, fields.get? name = some value ∧ describes value result

/-- A list describes results, each item the result in its place. -/
def DescribesList {α : Type} (describes : Value → α → Prop) (value : Value) (results : List α) :
    Prop :=
  ∃ items, value = .list items ∧ List.Forall₂ describes items results

/-- A document describes an operand that may stand in a list. -/
inductive DescribesElement : Value → Operand → Prop where
  /-- A scalar is described by itself. -/
  | scalar {value : Value} {scalar : Scalar} (itself : value = scalar.document) :
    DescribesElement value (.scalar scalar)
  /-- A placeholder is described by an object with its name and nothing else. -/
  | placeholder {fields : Fields} {name : String} (named : fields.get? "var" = some (.text name))
    (only : OnlyNamed ["var"] fields) : DescribesElement (.object fields) (.variable name)

/-- A document describes an operand. -/
inductive DescribesOperand : Value → Operand → Prop where
  /-- A scalar or a placeholder. -/
  | element {value : Value} {operand : Operand} (element : DescribesElement value operand) :
    DescribesOperand value operand
  /-- A list of scalars and placeholders. -/
  | list {items : List Value} {operands : List Operand}
    (each : List.Forall₂ DescribesElement items operands) :
    DescribesOperand (.list items) (.list operands)

/-- A document describes a filter. -/
inductive DescribesFilter : Value → Filter → Prop where
  /-- A group is described by its junction and its parts, of which there is one at least. -/
  | group {fields : Fields} {junction : Junction} {items : List Value} {parts : List Filter}
    (word : fields.get? "logic" = some (.text junction.word))
    (listed : fields.get? "filters" = some (.list items)) (filled : items ≠ [])
    (each : List.Forall₂ DescribesFilter items parts) (only : OnlyNamed ["logic", "filters"] fields) :
    DescribesFilter (.object fields) (.group junction parts)
  /-- A leaf is described by its column, its operator and its operand. -/
  | leaf {fields : Fields} {column operator : String} {value : Value} {operand : Operand}
    (named : fields.get? "column" = some (.text column))
    (compared : fields.get? "op" = some (.text operator)) (held : fields.get? "value" = some value)
    (described : DescribesOperand value operand) (only : OnlyNamed ["column", "op", "value"] fields) :
    DescribesFilter (.object fields) (.leaf column operator operand)

/-- A document describes a direction that may be left open. -/
inductive DescribesDirection : Value → Option Direction → Prop where
  /-- No direction is asked for. -/
  | unasked : DescribesDirection .null none
  /-- A direction is described by its word. -/
  | word (direction : Direction) : DescribesDirection (.text direction.word) (some direction)

/-- A document describes a column to order by. -/
inductive DescribesSortKey : Value → SortKey → Prop where
  /-- It is described by its name and, where one is asked for, its direction. -/
  | mk {fields : Fields} {key : SortKey} (named : fields.get? "column" = some (.text key.column))
    (directed : MayHold fields "direction" none DescribesDirection key.direction)
    (only : OnlyNamed ["column", "direction"] fields) : DescribesSortKey (.object fields) key

/-- A document describes a limit that may be left open. A limit is taken from everything that stands
for an integer. -/
inductive DescribesLimit : Value → Option Int → Prop where
  /-- No limit is asked for. -/
  | unasked : DescribesLimit .null none
  /-- An integer stands for itself. -/
  | int (limit : Int) : DescribesLimit (.int limit) (some limit)
  /-- A truth value stands for one or zero. -/
  | truth (value : Bool) : DescribesLimit (.bool value) (some (if value then 1 else 0))
  /-- A double stands for the integer that it equals, which has to lie in the range of 64 bits. -/
  | integral {value : Double} {limit : Int} (equals : value.toInt? = some limit)
    (above : -9223372036854775808 < limit) (below : limit < 9223372036854775808) :
    DescribesLimit (.float value) (some limit)
  /-- A text that is not too long stands for the integer that is spelled out in it. -/
  | spelled {text : String} {limit : Int} (short : text.length ≤ 4300)
    (denotes : integerOf? text = some limit) : DescribesLimit (.text text) (some limit)

/-- A document describes the plan of a query. -/
structure DescribesQuery (fields : Fields) (query : Query) : Prop where
  /-- The table is a text. -/
  table : fields.get? "table" = some (.text query.table)
  /-- The columns are a list of texts. -/
  columns : fields.get? "columns" = some (.list (query.columns.map .text))
  /-- The filters are a list of filters, if they are there. -/
  filters : MayHold fields "filters" [] (DescribesList DescribesFilter) query.filters
  /-- The columns to group by are a list of texts, if they are there. -/
  groupBy : MayHold fields "groupBy" [] (fun value names => value = .list (names.map .text))
    query.groupBy
  /-- The columns to order by are a list of them, if they are there. -/
  orderBy : MayHold fields "orderBy" [] (DescribesList DescribesSortKey) query.orderBy
  /-- The limit stands for an integer or is open, if it is there. -/
  limit : MayHold fields "limit" none DescribesLimit query.limit
  /-- There is nothing else. -/
  only : OnlyNamed ["table", "columns", "filters", "groupBy", "orderBy", "limit"] fields

/-- A document describes a common table. -/
inductive DescribesTable : Value → CommonTable → Prop where
  /-- It is described by its name and its query. -/
  | mk {fields query : Fields} {table : CommonTable}
    (named : fields.get? "name" = some (.text table.name))
    (held : fields.get? "query" = some (.object query)) (described : DescribesQuery query table.query)
    (only : OnlyNamed ["name", "query"] fields) : DescribesTable (.object fields) table

/-- A document describes a plan: by its main query and, if there are any, its common tables. It may
have other fields. -/
inductive DescribesPlan : Value → Root → Prop where
  /-- Both stand in their fields. -/
  | mk {fields main : Fields} {plan : Root} (held : fields.get? "main_query" = some (.object main))
    (described : DescribesQuery main plan.main)
    (tables : MayHold fields "ctes" [] (DescribesList DescribesTable) plan.commonTables) :
    DescribesPlan (.object fields) plan

/-! ## The reader accepts what the grammar describes -/

/-- Fields with a default are accepted when they may hold what is accepted. -/
theorem mayHold_iff {α : Type} {fields : Fields} {name : String} {default result : α}
    {check : Value → Check α} {describes : Value → α → Prop}
    (accepts : ∀ value result, (check value).value? = some result ↔ describes value result) :
    (Check.optional fields name default check).value? = some result ↔
      MayHold fields name default describes result := by
  rw [optional_accepts, MayHold]
  simp only [accepts]

/-- Lists are accepted when they describe what is accepted of their items. -/
theorem describesList_iff {α : Type} {check : Value → Check α} {describes : Value → α → Prop}
    (accepts : ∀ value result, (check value).value? = some result ↔ describes value result)
    {value : Value} {results : List α} : (Check.listOf check value).value? = some results ↔
      DescribesList describes value results := by
  simp only [listOf_accepts, accepts, DescribesList]

/-- No value is one of the scalars when none of them was found. -/
theorem noScalar_value? : noScalar.value? = none := rfl

/-- A named placeholder is described by an object with its name. -/
theorem checkVariable_iff {value : Value} {name : String} :
    (checkVariable value).value? = some name ↔ ∃ fields : Fields, value = .object fields ∧
      fields.get? "var" = some (.text name) ∧ OnlyNamed ["var"] fields := by
  rw [checkVariable, record_accepts]
  refine exists_congr fun fields => and_congr_right fun _ => ?_
  rw [value?_map, Option.map_eq_some_iff]
  constructor
  · rintro ⟨⟨_, _⟩, accepted, rfl⟩
    rw [join_accepts, required_accepts, noOthers_accepts] at accepted
    obtain ⟨⟨_, found, text⟩, only⟩ := accepted
    rw [text_accepts] at text
    exact ⟨by rw [found, text], only⟩
  · rintro ⟨named, only⟩
    refine ⟨(name, ()), ?_, rfl⟩
    rw [join_accepts, required_accepts, noOthers_accepts]
    exact ⟨⟨_, named, rfl⟩, only⟩

/-- What is no scalar may only be a placeholder where an item of a list stands. -/
theorem checkElement_other {value : Value} (other : ∀ scalar : Scalar, value ≠ scalar.document) :
    (checkElement value).value? = (checkVariable value).value?.map Operand.variable := by
  cases value with
  | null => exact absurd rfl (other .null)
  | bool value => exact absurd rfl (other (.bool value))
  | int value => exact absurd rfl (other (.int value))
  | float value => exact absurd rfl (other (.float value))
  | text value => exact absurd rfl (other (.text value))
  | list _ | object _ =>
    simp only [checkElement, Schema.Check.value?_orElse, value?_within, value?_map, noScalar_value?,
      Option.or_none]

/-- The operands that may stand in a list are read as they are described. -/
theorem checkElement_iff {value : Value} {operand : Operand} :
    (checkElement value).value? = some operand ↔ DescribesElement value operand := by
  have scalars : ∀ scalar : Scalar, (checkElement scalar.document).value? = some (.scalar scalar) := by
    intro scalar
    cases scalar <;> rfl
  constructor
  · intro accepted
    by_cases known : ∃ scalar : Scalar, value = scalar.document
    · obtain ⟨scalar, rfl⟩ := known
      cases (scalars scalar).symm.trans accepted
      exact .scalar rfl
    · rw [checkElement_other fun scalar same => known ⟨scalar, same⟩, Option.map_eq_some_iff]
        at accepted
      obtain ⟨name, read, rfl⟩ := accepted
      obtain ⟨fields, rfl, named, only⟩ := checkVariable_iff.mp read
      exact .placeholder named only
  · intro described
    cases described with
    | scalar itself =>
      rw [itself]
      exact scalars _
    | @placeholder fields _ named only =>
      have other : ∀ scalar : Scalar, .object fields ≠ scalar.document := by
        intro scalar
        cases scalar <;> nofun
      rw [checkElement_other other, checkVariable_iff.mpr ⟨_, rfl, named, only⟩]
      rfl

/-- What is no list is read as an operand as it is as an item of a list. -/
theorem checkOperand_other {value : Value} (other : ∀ items, value ≠ .list items) :
    (checkOperand value).value? = (checkElement value).value? := by
  cases value with
  | list items => exact absurd rfl (other items)
  | object fields =>
    simp only [checkOperand, checkElement, Schema.Check.value?_orElse, value?_within, value?_map,
      noScalar_value?, Check.listOf, Schema.Check.value?_flawed, Option.map_none, Option.or_none]
  | _ => rfl

/-- Operands are read as they are described. -/
theorem checkOperand_iff {value : Value} {operand : Operand} :
    (checkOperand value).value? = some operand ↔ DescribesOperand value operand := by
  by_cases listed : ∃ items, value = .list items
  · obtain ⟨items, rfl⟩ := listed
    have list : (checkOperand (.list items)).value? =
        (Check.listOf checkElement (.list items)).value?.map Operand.list := by
      simp only [checkOperand, checkVariable, Check.record, Schema.Check.value?_orElse,
        value?_within, value?_map, noScalar_value?, Schema.Check.value?_flawed, Option.map_none,
        Option.or_none, Option.none_or]
    simp only [list, Option.map_eq_some_iff, listOf_accepts, checkElement_iff]
    constructor
    · rintro ⟨operands, ⟨_, same, each⟩, rfl⟩
      cases same
      exact .list each
    · intro described
      cases described with
      | element element =>
        cases element with
        | @scalar _ scalar itself => cases scalar <;> cases itself
      | list each => exact ⟨_, ⟨_, rfl, each⟩, rfl⟩
  · rw [checkOperand_other fun items same => listed ⟨items, same⟩, checkElement_iff]
    constructor
    · exact .element
    · intro described
      cases described with
      | element element => exact element
      | list each => exact absurd ⟨_, rfl⟩ listed

mutual

/-- Filters are read as they are described. -/
theorem checkFilter_iff : (filter : Filter) → {value : Value} →
    ((checkFilter value).value? = some filter ↔ DescribesFilter value filter)
  | .group junction parts, value => by
    constructor
    · intro accepted
      obtain ⟨fields, rfl, group | leaf⟩ := checkFilter_accepts.mp accepted
      · obtain ⟨_, items, _, same, word, listed, filled, each, only⟩ := checkGroup_accepts.mp group
        cases same
        exact .group word listed filled ((checkFilters_iff parts).mp each) only
      · obtain ⟨_, _, _, _, same, _⟩ := checkLeaf_accepts.mp leaf
        cases same
    · intro described
      cases described with
      | group word listed filled each only =>
        exact checkFilter_accepts.mpr ⟨_, rfl, Or.inl (checkGroup_accepts.mpr
          ⟨_, _, _, rfl, word, listed, filled, (checkFilters_iff parts).mpr each, only⟩)⟩
  | .leaf column operator operand, value => by
    constructor
    · intro accepted
      obtain ⟨fields, rfl, group | leaf⟩ := checkFilter_accepts.mp accepted
      · obtain ⟨_, _, _, same, _⟩ := checkGroup_accepts.mp group
        cases same
      · obtain ⟨_, _, _, _, same, named, compared, held, read, only⟩ := checkLeaf_accepts.mp leaf
        cases same
        exact .leaf named compared held (checkOperand_iff.mp read) only
    · intro described
      cases described with
      | leaf named compared held described only =>
        exact checkFilter_accepts.mpr ⟨_, rfl, Or.inr (checkLeaf_accepts.mpr
          ⟨_, _, _, _, rfl, named, compared, held, checkOperand_iff.mpr described, only⟩)⟩
  | .stray kind, value => by
    refine iff_of_false (fun accepted => ?_) nofun
    obtain ⟨fields, rfl, group | leaf⟩ := checkFilter_accepts.mp accepted
    · obtain ⟨_, _, _, same, _⟩ := checkGroup_accepts.mp group
      cases same
    · obtain ⟨_, _, _, _, same, _⟩ := checkLeaf_accepts.mp leaf
      cases same

/-- Several filters are read as they are described. -/
theorem checkFilters_iff : (filters : List Filter) → {items : List Value} →
    (List.Forall₂ (fun item filter => (checkFilter item).value? = some filter) items filters ↔
      List.Forall₂ DescribesFilter items filters)
  | [], items => by simp only [List.forall₂_nil_right_iff]
  | filter :: filters, items => by
    simp only [List.forall₂_cons_right_iff, checkFilter_iff filter, checkFilters_iff filters]

end

/-- The filters of a query are read as they are described. -/
theorem checkForest_iff {value : Value} {filters : List Filter} :
    (checkForest value).value? = some filters ↔ DescribesList DescribesFilter value filters := by
  simp only [checkForest_accepts, checkFilters_iff, DescribesList]

/-- Directions are read as they are described. -/
theorem checkDirection_iff {value : Value} {direction : Option Direction} :
    (Check.nullable checkDirection value).value? = some direction ↔
      DescribesDirection value direction := by
  constructor
  · intro accepted
    unfold Check.nullable at accepted
    split at accepted
    · cases accepted
      exact .unasked
    · rw [value?_map, Option.map_eq_some_iff] at accepted
      obtain ⟨direction, read, rfl⟩ := accepted
      unfold checkDirection at read
      split at read <;> cases read
      · exact .word .ascending
      · exact .word .descending
  · intro described
    cases described with
    | unasked => rfl
    | word direction => cases direction <;> rfl

/-- Columns to order by are read as they are described. -/
theorem checkSortKey_iff {value : Value} {key : SortKey} :
    (checkSortKey value).value? = some key ↔ DescribesSortKey value key := by
  rw [checkSortKey, record_accepts]
  constructor
  · rintro ⟨fields, rfl, read⟩
    simp only [value?_map, Option.map_eq_some_iff] at read
    obtain ⟨⟨⟨column, direction⟩, _⟩, read, rfl⟩ := read
    rw [join_accepts, join_accepts, required_accepts, mayHold_iff fun _ _ => checkDirection_iff,
      noOthers_accepts] at read
    obtain ⟨⟨⟨_, found, text⟩, directed⟩, only⟩ := read
    rw [text_accepts] at text
    exact .mk (by rw [found, text]) directed only
  · rintro ⟨named, directed, only⟩
    refine ⟨_, rfl, ?_⟩
    simp only [value?_map, Option.map_eq_some_iff]
    refine ⟨((key.column, key.direction), ()), ?_, rfl⟩
    rw [join_accepts, join_accepts, required_accepts, mayHold_iff fun _ _ => checkDirection_iff,
      noOthers_accepts]
    exact ⟨⟨⟨_, named, rfl⟩, directed⟩, only⟩

/-- A limit that is asked for is read as it is described. -/
theorem integer_iff {value : Value} {limit : Int} :
    (Check.integer value).value? = some limit ↔ DescribesLimit value (some limit) := by
  constructor
  · intro accepted
    cases value with
    | int whole =>
      obtain rfl := Option.some.inj accepted
      exact .int whole
    | bool value =>
      cases accepted
      exact .truth value
    | float value =>
      simp only [Check.integer] at accepted
      split at accepted
      · cases accepted
      · split at accepted
        · cases accepted
        · next equals =>
          split at accepted
          · next range =>
            cases accepted
            exact .integral equals range.1 range.2
          · cases accepted
    | text text =>
      simp only [Check.integer] at accepted
      split at accepted
      · cases accepted
      · next short =>
        split at accepted
        · next denotes =>
          cases accepted
          exact .spelled (Nat.le_of_not_lt short) denotes
        · cases accepted
    | _ => cases accepted
  · intro described
    cases described with
    | int limit => rfl
    | truth value => rfl
    | @integral value _ equals above below =>
      have finite : value.isFinite = true := by
        cases value with
        | finite negative rank => rfl
        | _ => cases equals
      have range : -Schema.integralBound < limit ∧ limit < Schema.integralBound := ⟨above, below⟩
      simp only [Check.integer, finite, Bool.not_true, Bool.false_eq_true, if_false, equals,
        if_pos range]
      rfl
    | spelled short denotes =>
      have within : ¬Schema.integerLength < _ := Nat.not_lt_of_le short
      simp only [Check.integer, if_neg within, denotes]
      rfl

/-- Limits are read as they are described. -/
theorem checkLimit_iff {value : Value} {limit : Option Int} :
    (Check.nullable Check.integer value).value? = some limit ↔ DescribesLimit value limit := by
  by_cases unasked : value = .null
  · subst unasked
    constructor
    · intro accepted
      cases accepted
      exact .unasked
    · intro described
      cases described
      rfl
  · have asked : (Check.nullable Check.integer value).value? =
        (Check.integer value).value?.map some := by
      rw [← value?_map]
      cases value with
      | null => exact absurd rfl unasked
      | _ => rfl
    rw [asked, Option.map_eq_some_iff]
    constructor
    · rintro ⟨limit, accepted, rfl⟩
      exact integer_iff.mp accepted
    · intro described
      cases limit with
      | none => cases described; exact absurd rfl unasked
      | some limit => exact ⟨limit, integer_iff.mpr described, rfl⟩

/-! ## Queries and plans -/

/-- The plans of queries are read as they are described. -/
theorem checkQuery_iff {value : Value} {query : Query} :
    (checkQuery value).value? = some query ↔
      ∃ fields, value = .object fields ∧ DescribesQuery fields query := by
  rw [checkQuery, record_accepts]
  refine exists_congr fun fields => and_congr_right fun _ => ?_
  have keys : ∀ value keys, (Check.listOf checkSortKey value).value? = some keys ↔
      DescribesList DescribesSortKey value keys :=
    fun _ _ => describesList_iff fun _ _ => checkSortKey_iff
  simp only [value?_map, Option.map_eq_some_iff]
  constructor
  · rintro ⟨⟨⟨⟨⟨⟨⟨table, columns⟩, filters⟩, groupBy⟩, orderBy⟩, limit⟩, _⟩, read, rfl⟩
    rw [join_accepts, join_accepts, join_accepts, join_accepts, join_accepts, join_accepts,
      required_accepts, required_accepts, mayHold_iff fun _ _ => checkForest_iff,
      mayHold_iff fun _ _ => texts_accepts, mayHold_iff keys,
      mayHold_iff fun _ _ => checkLimit_iff, noOthers_accepts] at read
    obtain ⟨⟨⟨⟨⟨⟨⟨_, named, first⟩, _, selected, second⟩, filtered⟩, grouped⟩, ordered⟩, limited⟩,
      only⟩ := read
    rw [text_accepts] at first
    rw [texts_accepts] at second
    exact ⟨by rw [named, first], by rw [selected, second], filtered, grouped, ordered, limited, only⟩
  · intro described
    refine ⟨((((((query.table, query.columns), query.filters), query.groupBy), query.orderBy),
      query.limit), ()), ?_, rfl⟩
    rw [join_accepts, join_accepts, join_accepts, join_accepts, join_accepts, join_accepts,
      required_accepts, required_accepts, mayHold_iff fun _ _ => checkForest_iff,
      mayHold_iff fun _ _ => texts_accepts, mayHold_iff keys,
      mayHold_iff fun _ _ => checkLimit_iff, noOthers_accepts]
    exact ⟨⟨⟨⟨⟨⟨⟨_, described.table, text_accepts.mpr rfl⟩, _, described.columns,
      texts_accepts.mpr rfl⟩, described.filters⟩, described.groupBy⟩, described.orderBy⟩,
      described.limit⟩, described.only⟩

/-- Common tables are read as they are described. -/
theorem checkCommonTable_iff {value : Value} {table : CommonTable} :
    (checkCommonTable value).value? = some table ↔ DescribesTable value table := by
  rw [checkCommonTable, record_accepts]
  constructor
  · rintro ⟨fields, rfl, read⟩
    simp only [value?_map, Option.map_eq_some_iff] at read
    obtain ⟨⟨⟨name, query⟩, _⟩, read, rfl⟩ := read
    rw [join_accepts, join_accepts, required_accepts, required_accepts, noOthers_accepts] at read
    obtain ⟨⟨⟨_, found, text⟩, _, held, accepted⟩, only⟩ := read
    rw [text_accepts] at text
    obtain ⟨inner, rfl, described⟩ := checkQuery_iff.mp accepted
    exact .mk (by rw [found, text]) held described only
  · rintro ⟨named, held, described, only⟩
    refine ⟨_, rfl, ?_⟩
    simp only [value?_map, Option.map_eq_some_iff]
    refine ⟨((table.name, table.query), ()), ?_, rfl⟩
    rw [join_accepts, join_accepts, required_accepts, required_accepts, noOthers_accepts]
    exact ⟨⟨⟨_, named, rfl⟩, _, held, checkQuery_iff.mpr ⟨_, rfl, described⟩⟩, only⟩

/-- A plan is read when the check of the whole document finds it. -/
theorem read_eq_ok_iff {value : Value} {plan : Root} :
    read value = .ok plan ↔ (checkRoot value).value? = some plan := by
  unfold read
  cases checkRoot value with
  | valid found => simp
  | invalid first rest => simp [Check.value?]

/-- Plans are read as they are described. -/
theorem read_iff {value : Value} {plan : Root} : read value = .ok plan ↔ DescribesPlan value plan := by
  have tables : ∀ value tables, (Check.listOf checkCommonTable value).value? = some tables ↔
      DescribesList DescribesTable value tables :=
    fun _ _ => describesList_iff fun _ _ => checkCommonTable_iff
  rw [read_eq_ok_iff, checkRoot, record_accepts]
  constructor
  · rintro ⟨fields, rfl, read⟩
    simp only [value?_map, Option.map_eq_some_iff] at read
    obtain ⟨⟨commonTables, main⟩, read, rfl⟩ := read
    rw [join_accepts, required_accepts, mayHold_iff tables] at read
    obtain ⟨listed, _, held, accepted⟩ := read
    obtain ⟨inner, rfl, described⟩ := checkQuery_iff.mp accepted
    exact .mk held described listed
  · rintro ⟨held, described, listed⟩
    refine ⟨_, rfl, ?_⟩
    simp only [value?_map, Option.map_eq_some_iff]
    refine ⟨(plan.commonTables, plan.main), ?_, rfl⟩
    rw [join_accepts, required_accepts, mayHold_iff tables]
    exact ⟨listed, _, held, checkQuery_iff.mpr ⟨_, rfl, described⟩⟩

/-! ## The document of a plan describes it -/

/-- The document of an operand of a list describes it, if any document does. -/
theorem DescribesElement.document {value : Value} {operand : Operand}
    (described : DescribesElement value operand) : DescribesElement operand.document operand := by
  cases described with
  | scalar itself => exact .scalar rfl
  | placeholder named only => exact .placeholder rfl (by simp [OnlyNamed])

/-- The documents of operands of a list describe them, if any documents do. -/
theorem describes_operandDocuments {items : List Value} {operands : List Operand}
    (each : List.Forall₂ DescribesElement items operands) :
    List.Forall₂ DescribesElement (operandDocuments operands) operands := by
  induction each with
  | nil => exact .nil
  | cons described _ documents => exact .cons described.document documents

/-- The document of an operand describes it, if any document does. -/
theorem DescribesOperand.document {value : Value} {operand : Operand}
    (described : DescribesOperand value operand) : DescribesOperand operand.document operand := by
  cases described with
  | element element => exact .element element.document
  | list each => exact .list (describes_operandDocuments each)

mutual

/-- The document of a filter describes it, if any document does. -/
theorem describes_filterDocument : (filter : Filter) → {value : Value} →
    DescribesFilter value filter → DescribesFilter filter.document filter
  | .group junction parts, _, .group word listed filled each only => by
    have documents := describes_filterDocuments parts each
    have some : filterDocuments parts ≠ [] := by
      cases each with
      | nil => exact absurd rfl filled
      | cons _ _ => exact List.cons_ne_nil _ _
    exact .group rfl rfl some documents (by simp [OnlyNamed])
  | .leaf column operator operand, _, .leaf named compared held described only =>
    .leaf rfl rfl rfl described.document (by simp [OnlyNamed])

/-- The documents of several filters describe them, if any documents do. -/
theorem describes_filterDocuments : (filters : List Filter) → {items : List Value} →
    List.Forall₂ DescribesFilter items filters →
      List.Forall₂ DescribesFilter (filterDocuments filters) filters
  | [], _, _ => .nil
  | filter :: filters, _, .cons first others =>
    .cons (describes_filterDocument filter first) (describes_filterDocuments filters others)

end

/-- The document of a column to order by describes it. -/
theorem describes_sortKeyDocument (key : SortKey) : DescribesSortKey key.document key := by
  obtain ⟨column, direction⟩ := key
  refine .mk rfl (Or.inr ⟨_, rfl, ?_⟩) (by simp [OnlyNamed])
  cases direction with
  | none => exact .unasked
  | some direction => exact .word direction

/-- The document of a query describes it, if any document does. -/
theorem DescribesQuery.document {fields : Fields} {query : Query}
    (described : DescribesQuery fields query) :
    ∃ dump, query.document = .object dump ∧ DescribesQuery dump query := by
  refine ⟨_, rfl, rfl, rfl, Or.inr ⟨_, rfl, _, rfl, ?_⟩, Or.inr ⟨_, rfl, rfl⟩,
    Or.inr ⟨_, rfl, _, rfl, ?_⟩, Or.inr ⟨_, rfl, ?_⟩, by simp [OnlyNamed]⟩
  · rcases described.filters with ⟨_, none⟩ | ⟨_, _, items, _, each⟩
    · rw [none]
      exact .nil
    · exact describes_filterDocuments _ each
  · rw [List.forall₂_map_left_iff, List.forall₂_same]
    exact fun key _ => describes_sortKeyDocument key
  · cases query.limit with
    | none => exact .unasked
    | some limit => exact .int limit

/-- The document of a common table describes it, if any document does. -/
theorem DescribesTable.document {value : Value} {table : CommonTable}
    (described : DescribesTable value table) : DescribesTable table.document table := by
  obtain ⟨_, _, inner, _⟩ := described
  obtain ⟨dump, same, again⟩ := inner.document
  exact .mk rfl (congrArg some same) again (by simp [OnlyNamed])

/-- The documents of common tables describe them, if any documents do. -/
theorem describes_tableDocuments {items : List Value} {tables : List CommonTable}
    (each : List.Forall₂ DescribesTable items tables) :
    List.Forall₂ DescribesTable (tables.map CommonTable.document) tables := by
  induction each with
  | nil => exact .nil
  | cons described _ documents => exact .cons described.document documents

/-- The document of a plan describes it, if any document does. -/
theorem DescribesPlan.document {value : Value} {plan : Root} (described : DescribesPlan value plan) :
    DescribesPlan plan.document plan := by
  obtain ⟨_, main, tables⟩ := described
  obtain ⟨dump, same, again⟩ := main.document
  refine .mk (congrArg some same) again (Or.inr ⟨_, rfl, _, rfl, ?_⟩)
  rcases tables with ⟨_, none⟩ | ⟨_, _, items, _, each⟩
  · rw [none]
    exact .nil
  · exact describes_tableDocuments each

end QuestionDesk.Plan
