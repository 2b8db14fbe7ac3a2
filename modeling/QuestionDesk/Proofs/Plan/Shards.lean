import QuestionDesk.Proofs.Plan.Bounds

/-!
# Days of sharded tables

Which texts the judge takes for several days of a sharded table, which filters it takes for a bound
on the days, and where its search for one comes to nothing. A bound is a leaf that is reached
through groups that join all their parts; the search is stopped by a value that stands where parts
are expected and cannot be searched.
-/
namespace QuestionDesk.Plan

/-! ## Wildcards -/

/-- Whether a text names the days of a sharded table whose dates start with the given digits: the
name of the table, the digits and a star, with anything around them. -/
def NamesDays (table : String) (shard : List Char) : Prop :=
  (∀ char ∈ shard, Decimal.isDigit char = true) ∧
    ∃ front back, table.toList = front ++ (shardedName ++ (shard ++ '*' :: back))

/-- The characters after a word are those that the word is written in front of. -/
theorem afterWord?_eq_some {word chars rest : List Char} :
    afterWord? word chars = some rest ↔ chars = word ++ rest := by
  induction word generalizing chars with
  | nil => simp [afterWord?]
  | cons letter word before =>
    cases chars with
    | nil => simp [afterWord?]
    | cons char chars =>
      by_cases same : letter = char
      · subst same
        simp [afterWord?, before]
      · simp [afterWord?, same, Ne.symm same]

/-- Characters start with a day wildcard exactly if they start with no digit or four, and a star. -/
theorem startsDayWildcard_iff {chars : List Char} :
    startsDayWildcard chars = true ↔ ∃ shard back, chars = shard ++ '*' :: back ∧
      (∀ char ∈ shard, Decimal.isDigit char = true) ∧ (shard.length = 0 ∨ shard.length = 4) := by
  constructor
  · intro starts
    unfold startsDayWildcard at starts
    split at starts
    · exact ⟨[], _, rfl, by simp, Or.inl rfl⟩
    · next first second third fourth back _ =>
      exact ⟨[first, second, third, fourth], back, rfl, List.all_eq_true.mp starts, Or.inr rfl⟩
    · cases starts
  · rintro ⟨shard, back, rfl, digits, none | four⟩
    · obtain rfl := List.eq_nil_of_length_eq_zero none
      rfl
    · obtain ⟨first, second, third, fourth, rfl⟩ : ∃ first second third fourth,
          shard = [first, second, third, fourth] := by
        match shard, four with
        | [first, second, third, fourth], _ => exact ⟨first, second, third, fourth, rfl⟩
      have plain : first ≠ '*' := by
        rintro rfl
        exact absurd (digits '*' List.mem_cons_self) (by decide)
      unfold startsDayWildcard
      split
      · next same => exact absurd (List.cons.inj same).1 plain
      · next same =>
        simp only [List.cons_append, List.nil_append, List.cons.injEq, true_and] at same
        obtain ⟨rfl, rfl, rfl, rfl, rfl⟩ := same
        exact List.all_eq_true.mpr digits
      · next other => exact absurd rfl (other first second third fourth back)

/-- Characters hold a day wildcard exactly if one starts behind the name of the sharded tables. -/
theorem holdsDayWildcard_iff {chars : List Char} :
    holdsDayWildcard chars = true ↔ ∃ front after,
      chars = front ++ (shardedName ++ after) ∧ startsDayWildcard after = true := by
  induction chars with
  | nil =>
    constructor
    · intro holds
      cases holds
    · rintro ⟨front, after, empty, -⟩
      have none := (List.append_eq_nil_iff.mp (List.append_eq_nil_iff.mp empty.symm).2).1
      exact absurd none (by decide)
  | cons char rest before =>
    rw [holdsDayWildcard, Bool.or_eq_true, before]
    constructor
    · rintro (here | ⟨front, after, rfl, starts⟩)
      · cases found : afterWord? shardedName (char :: rest) with
        | none => simp [found] at here
        | some after =>
          simp only [found] at here
          exact ⟨[], after, by rw [afterWord?_eq_some.mp found, List.nil_append], here⟩
      · exact ⟨char :: front, after, rfl, starts⟩
    · rintro ⟨front, after, same, starts⟩
      cases front with
      | nil =>
        left
        rw [afterWord?_eq_some.mpr (by simpa using same)]
        exact starts
      | cons first front =>
        obtain ⟨rfl, rfl⟩ := List.cons.inj same
        exact Or.inr ⟨front, after, rfl, starts⟩

/-- A table refers to several days exactly if its text names days whose dates start with no digit or
with four. -/
theorem isShardedWildcard_iff {table : String} :
    isShardedWildcard table = true ↔
      ∃ shard, NamesDays table shard ∧ (shard.length = 0 ∨ shard.length = 4) := by
  rw [isShardedWildcard, holdsDayWildcard_iff]
  constructor
  · rintro ⟨front, after, same, starts⟩
    obtain ⟨shard, back, rfl, digits, width⟩ := startsDayWildcard_iff.mp starts
    exact ⟨shard, ⟨digits, front, back, same⟩, width⟩
  · rintro ⟨shard, ⟨digits, front, back, same⟩, width⟩
    exact ⟨front, _, same, startsDayWildcard_iff.mpr ⟨shard, back, rfl, digits, width⟩⟩

/-! ## Bounds -/

/-- A filter bounds a column: it is a leaf on the column with a bounding operator, or a group that
joins all its parts, one of which bounds the column. -/
inductive Bounds (column : String) : Value → Prop where
  /-- A leaf bounds the column. -/
  | leaf {fields : Fields} (plain : fields.has "logic" = false)
    (named : fields.get "column" = .text column) (bounding : isBounding (fields.get "op") = true) :
    Bounds column (.object fields)
  /-- A part of a group bounds the column. -/
  | group {fields : Fields} {parts : List Value} {part : Value}
    (joins : fields.get "logic" = .text "AND") (listed : fields.get "filters" = .list parts)
    (member : part ∈ parts) (bounds : Bounds column part) : Bounds column (.object fields)

/-- Something in a value in which filters are searched bounds a column. -/
def HoldsBound (column : String) (value : Value) : Prop :=
  ∃ filters, value = .list filters ∧ ∃ filter ∈ filters, Bounds column filter

/-- A list of filters holds a bound exactly if one of them bounds the column. -/
theorem holdsBound_list {column : String} {filters : List Value} :
    HoldsBound column (.list filters) ↔ ∃ filter ∈ filters, Bounds column filter := by
  simp [HoldsBound]

/-- A value stands where a sequence is searched and is none. -/
def Unsearchable (value : Value) : Prop := ∃ obstacle, searched value = .error obstacle

/-- The search for a bound comes to a value that cannot be searched before it comes to a bound: the
value is none itself, or the parts are none of a group that joins all its parts, and no filter
before it bounds the column. -/
inductive Stalls (column : String) : Value → Prop where
  /-- The value cannot be searched. -/
  | here {value : Value} (unsearchable : Unsearchable value) : Stalls column value
  /-- The parts of a group cannot be searched. -/
  | inside {before after : List Value} {fields : Fields}
    (joins : fields.get "logic" = .text "AND") (passed : ∀ filter ∈ before, ¬Bounds column filter)
    (stalls : Stalls column (fields.get "filters")) :
    Stalls column (.list (before ++ .object fields :: after))

/-- A field that holds something is present. -/
theorem has_of_get {fields : Fields} {name : String} (filled : fields.get name ≠ .null) :
    fields.has name = true := by
  unfold Fields.get at filled
  unfold Fields.has
  cases found : fields.get? name with
  | none => simp [found] at filled
  | some value => rfl

/-- What is no list is searched without a bound being found. -/
theorem valueBounds_of_not_list {column : String} {value : Value}
    (other : ∀ items, value ≠ .list items) :
    valueBounds column value = (searched value).map fun _ => false := by
  rw [valueBounds]
  exact other

/-- What a search says: whether there is a bound, and whether it comes to nothing. -/
structure Finds (result : Except Obstacle Bool) (bound stalled : Prop) : Prop where
  /-- A search that comes to an end finds a bound exactly if there is one. -/
  ends : ∀ {found : Bool}, result = .ok found → (found = true ↔ bound)
  /-- A search comes to no end exactly if it stalls. -/
  stops : (∃ obstacle, result = .error obstacle) ↔ stalled

/-- A filter in which the search stalls: a group that joins its parts, in which it does. -/
def FilterStalls (column : String) (value : Value) : Prop :=
  ∃ fields : Fields, value = .object fields ∧ fields.get "logic" = .text "AND" ∧
    Stalls column (fields.get "filters")

/-- A filter that is no object bounds nothing. -/
theorem finds_of_not_object {column : String} {value : Value}
    (other : ∀ fields, value ≠ .object fields) :
    Finds (boundsColumn column value) (Bounds column value) (FilterStalls column value) := by
  have none : boundsColumn column value = .ok false := by
    rw [boundsColumn]
    exact other
  constructor
  · intro found ends
    rw [none] at ends
    cases ends
    refine ⟨nofun, fun bounds => ?_⟩
    cases bounds <;> exact absurd rfl (other _)
  · rw [none]
    exact ⟨nofun, fun ⟨fields, same, _⟩ => absurd same (other fields)⟩

/-- What the search says of a filter follows from what it says of its parts. -/
theorem finds_of_parts {column : String} {fields : Fields}
    (parts : Finds (partsBound column fields) (HoldsBound column (fields.get "filters"))
      (Stalls column (fields.get "filters"))) :
    Finds (boundsColumn column (.object fields)) (Bounds column (.object fields))
      (FilterStalls column (.object fields)) := by
  rw [boundsColumn]
  cases present : fields.has "logic" with
  | false =>
    rw [if_neg (by simp)]
    have apart : fields.get "logic" ≠ .text "AND" := fun joins => by
      rw [has_of_get (by rw [joins]; nofun)] at present
      cases present
    constructor
    · intro found ends
      rw [← Except.ok.inj ends, Bool.and_eq_true, decide_eq_true_eq]
      constructor
      · rintro ⟨named, bounding⟩
        exact .leaf present named bounding
      · intro bounds
        cases bounds with
        | leaf _ named bounding => exact ⟨named, bounding⟩
        | group joins => exact absurd joins apart
    · refine ⟨nofun, ?_⟩
      rintro ⟨_, same, joins, _⟩
      cases same
      exact absurd joins apart
  | true =>
    rw [if_pos rfl]
    by_cases joins : fields.get "logic" = .text "AND"
    · rw [if_pos joins]
      constructor
      · intro found ends
        rw [parts.ends ends]
        constructor
        · rintro ⟨filters, listed, filter, member, bounds⟩
          exact .group joins listed member bounds
        · intro bounds
          cases bounds with
          | leaf plain => rw [present] at plain; cases plain
          | group _ listed member bounds => exact ⟨_, listed, _, member, bounds⟩
      · rw [parts.stops]
        constructor
        · exact fun stalls => ⟨fields, rfl, joins, stalls⟩
        · rintro ⟨_, same, _, stalls⟩
          cases same
          exact stalls
    · rw [if_neg joins]
      constructor
      · intro found ends
        cases ends
        refine ⟨nofun, fun bounds => ?_⟩
        cases bounds with
        | leaf plain => rw [present] at plain; cases plain
        | group joined => exact absurd joined joins
      · refine ⟨nofun, ?_⟩
        rintro ⟨_, same, joined, _⟩
        cases same
        exact absurd joined joins

/-- A list can be searched. -/
theorem searchable_list (items : List Value) : ¬Unsearchable (.list items) := by
  rintro ⟨obstacle, stopped⟩
  cases items <;> cases stopped

/-- There is no bound in what is no list. -/
theorem finds_of_not_list {column : String} {value : Value} (other : ∀ items, value ≠ .list items) :
    Finds (valueBounds column value) (HoldsBound column value) (Stalls column value) := by
  rw [valueBounds_of_not_list other]
  constructor
  · intro found ends
    cases whole : searched value with
    | error obstacle =>
      rw [whole] at ends
      cases ends
    | ok items =>
      rw [whole] at ends
      cases ends
      exact ⟨nofun, fun ⟨filters, same, _⟩ => absurd same (other filters)⟩
  · constructor
    · rintro ⟨obstacle, stopped⟩
      cases whole : searched value with
      | error obstacle => exact .here ⟨obstacle, whole⟩
      | ok items =>
        rw [whole] at stopped
        cases stopped
    · intro stalls
      cases stalls with
      | here unsearchable =>
        obtain ⟨obstacle, stopped⟩ := unsearchable
        exact ⟨obstacle, by rw [stopped]; rfl⟩
      | inside => exact absurd rfl (other _)

/-- A search in a list stalls in the first filter, or behind it if the first one bounds nothing. -/
theorem stalls_cons {column : String} {filter : Value} {filters : List Value} :
    Stalls column (.list (filter :: filters)) ↔ FilterStalls column filter ∨
      ¬Bounds column filter ∧ Stalls column (.list filters) := by
  constructor
  · intro stalls
    generalize same : Value.list (filter :: filters) = value at stalls
    cases stalls with
    | here unsearchable =>
      subst same
      exact absurd unsearchable (searchable_list _)
    | @inside before after fields joins passed stalls =>
      cases before with
      | nil =>
        cases same
        exact Or.inl ⟨fields, rfl, joins, stalls⟩
      | cons first before =>
        cases same
        exact Or.inr ⟨passed _ List.mem_cons_self,
          .inside joins (fun other member => passed other (List.mem_cons_of_mem _ member)) stalls⟩
  · rintro (⟨fields, rfl, joins, stalls⟩ | ⟨first, stalls⟩)
    · exact @Stalls.inside column [] _ _ joins (by simp) stalls
    · generalize same : Value.list filters = value at stalls
      cases stalls with
      | here unsearchable =>
        subst same
        exact absurd unsearchable (searchable_list _)
      | @inside before after fields joins passed stalls =>
        cases same
        refine @Stalls.inside column (filter :: before) _ _ joins ?_ stalls
        rintro other member
        rcases List.mem_cons.mp member with rfl | later
        · exact first
        · exact passed other later

/-- What the search says of a list follows from what it says of the first filter and of the
others. -/
theorem finds_of_cons {column : String} {filter : Value} {filters : List Value}
    (first : Finds (boundsColumn column filter) (Bounds column filter) (FilterStalls column filter))
    (others : Finds (anyBounds column filters) (∃ other ∈ filters, Bounds column other)
      (Stalls column (.list filters))) :
    Finds (anyBounds column (filter :: filters)) (∃ other ∈ filter :: filters, Bounds column other)
      (Stalls column (.list (filter :: filters))) := by
  rw [stalls_cons, ← first.stops, ← others.stops]
  simp only [List.exists_mem_cons_iff]
  cases result : boundsColumn column filter with
  | error obstacle =>
    have whole : anyBounds column (filter :: filters) = .error obstacle := by
      rw [anyBounds, result]
    rw [whole]
    exact ⟨nofun, fun _ => Or.inl ⟨obstacle, rfl⟩, fun _ => ⟨obstacle, rfl⟩⟩
  | ok found =>
    cases found with
    | true =>
      have bounds := (first.ends result).mp rfl
      have whole : anyBounds column (filter :: filters) = .ok true := by
        rw [anyBounds, result]
      rw [whole]
      refine ⟨?_, nofun, ?_⟩
      · rintro found ⟨⟩
        exact iff_of_true rfl (Or.inl bounds)
      · rintro (⟨_, ⟨⟩⟩ | ⟨unbounded, _⟩)
        exact absurd bounds unbounded
    | false =>
      have unbounded : ¬Bounds column filter := fun bounds =>
        nomatch (first.ends result).mpr bounds
      have whole : anyBounds column (filter :: filters) = anyBounds column filters := by
        rw [anyBounds, result]
      rw [whole]
      refine ⟨fun ends => ?_, fun stops => Or.inr ⟨unbounded, stops⟩, ?_⟩
      · rw [others.ends ends]
        exact ⟨Or.inr, fun either => either.resolve_left unbounded⟩
      · rintro (⟨_, ⟨⟩⟩ | ⟨_, stops⟩)
        exact stops

mutual

/-- What the search says of a filter. -/
theorem boundsColumn_finds (column : String) : (value : Value) →
    Finds (boundsColumn column value) (Bounds column value) (FilterStalls column value)
  | .object fields => finds_of_parts (partsBound_finds column fields)
  | .null | .bool _ | .int _ | .float _ | .text _ | .list _ => finds_of_not_object nofun

/-- What the search says of the parts of a group. -/
theorem partsBound_finds (column : String) : (fields : List (String × Value)) →
    Finds (partsBound column fields) (HoldsBound column (Fields.get fields "filters"))
      (Stalls column (Fields.get fields "filters"))
  | [] => @finds_of_not_list column .null nofun
  | (name, value) :: rest => by
    by_cases here : name = "filters"
    · rw [partsBound, if_pos here, Fields.get, Fields.get?, List.lookup_cons, here]
      exact valueBounds_finds column value
    · have apart : ("filters" == name) = false := beq_false_of_ne fun same => here same.symm
      rw [partsBound, if_neg here, Fields.get, Fields.get?, List.lookup_cons, apart]
      exact partsBound_finds column rest

/-- What the search says of a value in which filters are searched. -/
theorem valueBounds_finds (column : String) : (value : Value) →
    Finds (valueBounds column value) (HoldsBound column value) (Stalls column value)
  | .list filters => by
    rw [valueBounds, holdsBound_list]
    exact anyBounds_finds column filters
  | .null | .bool _ | .int _ | .float _ | .text _ | .object _ => finds_of_not_list nofun

/-- What the search says of filters. -/
theorem anyBounds_finds (column : String) : (filters : List Value) →
    Finds (anyBounds column filters) (∃ filter ∈ filters, Bounds column filter)
      (Stalls column (.list filters))
  | [] => by
    refine ⟨?_, nofun, fun stalls => ?_⟩
    · rintro found ⟨⟩
      simp
    · generalize same : Value.list [] = value at stalls
      cases stalls with
      | here unsearchable => exact absurd (same ▸ unsearchable) (searchable_list [])
      | inside => simp at same
  | filter :: filters =>
    finds_of_cons (boundsColumn_finds column filter) (anyBounds_finds column filters)

end

/-! ## Queries -/

namespace Safety

/-- Whether a query has columns that may be selected. -/
def Selects (query : Fields) : Prop :=
  ∃ columns, query.get "columns" = .list columns ∧ columns ≠ [] ∧
    columns.any isWildcardColumn = false

/-- A query that has no table, or an empty one, is rejected. -/
theorem judgeQuery_of_no_table {safety : Safety} {query : Fields}
    (none : ∀ table, query.get "table" = .text table → table = "") :
    safety.judgeQuery query = .ok (some .missingTable) := by
  unfold judgeQuery
  split
  · next table named => rw [if_pos (none table named)]
  · rfl

/-- The judgement of a query with a table. -/
theorem judgeQuery_of_table (safety : Safety) {query : Fields} {table : String}
    (named : query.get "table" = .text table) (filled : table ≠ "") :
    (¬Selects query ∧ (safety.judgeQuery query = .ok (some .missingColumns) ∨
        safety.judgeQuery query = .ok (some .wildcardColumns))) ∨
      (Selects query ∧ safety.judgeQuery query =
        if isShardedWildcard table then
          (match safety.hasPartitionFilter (query.get "filters") with
          | .error obstacle => .error obstacle
          | .ok true => .ok none
          | .ok false => .ok (some (.unboundedDays safety.partitionColumn)))
        else .ok none) := by
  simp only [judgeQuery, named, if_neg filled]
  cases columns : query.get "columns" with
  | list items =>
    cases items with
    | nil =>
      refine Or.inl ⟨?_, Or.inl rfl⟩
      rintro ⟨_, same, filled, _⟩
      cases columns.symm.trans same
      exact filled rfl
    | cons first rest =>
      cases wild : (first :: rest).any isWildcardColumn with
      | true =>
        refine Or.inl ⟨?_, Or.inr (by simp only [wild, if_true])⟩
        rintro ⟨_, same, _, plain⟩
        cases columns.symm.trans same
        rw [wild] at plain
        cases plain
      | false =>
        exact Or.inr ⟨⟨_, columns, List.cons_ne_nil _ _, wild⟩, if_neg (ne_true_of_eq_false wild)⟩
  | _ =>
    refine Or.inl ⟨?_, Or.inl rfl⟩
    rintro ⟨_, same, _⟩
    cases columns.symm.trans same

/-- A table that names days has a text. -/
theorem ne_empty_of_namesDays {table : String} {shard : List Char} (days : NamesDays table shard) :
    table ≠ "" := by
  rintro rfl
  obtain ⟨_, front, back, empty⟩ := days
  have none := (List.append_eq_nil_iff.mp (List.append_eq_nil_iff.mp empty.symm).2).1
  exact absurd none (by decide)

/-- A query without a bound on the days is rejected if its table names days whose dates start with
no digit or with four, unless the search for a bound stalls in its filters; a query over any other
table is not rejected for its days, and its filters are not searched. -/
theorem unbounded_days_rejected {safety : Safety} {query : Fields} {table : String}
    (named : query.get "table" = .text table)
    (unbounded : ¬HoldsBound safety.partitionColumn (query.get "filters")) :
    ((∃ shard, NamesDays table shard ∧ (shard.length = 0 ∨ shard.length = 4)) →
      (∃ rejection, safety.judgeQuery query = .ok (some rejection)) ∨
        (∃ obstacle, safety.judgeQuery query = .error obstacle) ∧
          Stalls safety.partitionColumn (query.get "filters")) ∧
    ((∀ shard, NamesDays table shard → shard.length ≠ 0 ∧ shard.length ≠ 4) →
      (∀ column, safety.judgeQuery query ≠ .ok (some (.unboundedDays column))) ∧
        ∀ obstacle, safety.judgeQuery query ≠ .error obstacle) := by
  have search := valueBounds_finds safety.partitionColumn (query.get "filters")
  constructor
  · rintro ⟨shard, days, width⟩
    have sharded := isShardedWildcard_iff.mpr ⟨shard, days, width⟩
    rcases judgeQuery_of_table safety named (ne_empty_of_namesDays days) with
      ⟨_, judged | judged⟩ | ⟨_, judged⟩
    · exact Or.inl ⟨_, judged⟩
    · exact Or.inl ⟨_, judged⟩
    · rw [judged, if_pos sharded, hasPartitionFilter]
      cases searched : valueBounds safety.partitionColumn (query.get "filters") with
      | error obstacle =>
        exact Or.inr ⟨⟨obstacle, rfl⟩, search.stops.mp ⟨obstacle, searched⟩⟩
      | ok found =>
        cases found with
        | true => exact absurd ((search.ends searched).mp rfl) unbounded
        | false => exact Or.inl ⟨_, rfl⟩
  · intro other
    by_cases filled : table = ""
    · have missing : safety.judgeQuery query = .ok (some .missingTable) :=
        judgeQuery_of_no_table fun _ same => (Value.text.inj (same.symm.trans named)).trans filled
      rw [missing]
      constructor <;> rintro _ ⟨⟩
    · have plain : isShardedWildcard table ≠ true := fun sharded => by
        obtain ⟨shard, days, width⟩ := isShardedWildcard_iff.mp sharded
        obtain ⟨some, apart⟩ := other shard days
        exact width.elim some apart
      rcases judgeQuery_of_table safety named filled with
        ⟨_, judged | judged⟩ | ⟨_, judged⟩
      · rw [judged]
        constructor <;> rintro _ ⟨⟩
      · rw [judged]
        constructor <;> rintro _ ⟨⟩
      · rw [judged, if_neg plain]
        constructor <;> rintro _ ⟨⟩

/-- A query for the types of events in a table, without filters. -/
def typesQuery (table : String) : Fields :=
  [("table", .text table), ("columns", .list [.text "type"])]

/-- There is no bound where there are no filters. -/
theorem typesQuery_unbounded (table column : String) :
    ¬HoldsBound column ((typesQuery table).get "filters") := by
  rintro ⟨filters, absent, _⟩
  cases absent

/-- A query over all days of a year is rejected. -/
theorem unbounded_days_rejected_year :
    ¬HoldsBound "_TABLE_SUFFIX" ((typesQuery "githubarchive.day.2024*").get "filters") ∧
      ∃ rejection, ({} : Safety).judgeQuery (typesQuery "githubarchive.day.2024*") =
        .ok (some rejection) := by
  have unbounded := typesQuery_unbounded "githubarchive.day.2024*" "_TABLE_SUFFIX"
  have days : NamesDays "githubarchive.day.2024*" ['2', '0', '2', '4'] :=
    ⟨List.all_eq_true.mp (by decide), [], [], by decide +kernel⟩
  refine ⟨unbounded, ?_⟩
  rcases (@unbounded_days_rejected {} (typesQuery "githubarchive.day.2024*") _ rfl
    unbounded).1 ⟨_, days, Or.inr rfl⟩ with rejected | ⟨_, stalls⟩
  · exact rejected
  · generalize absent : (typesQuery "githubarchive.day.2024*").get "filters" = value at stalls
    cases stalls with
    | here unsearchable =>
      subst absent
      obtain ⟨_, stopped⟩ := unsearchable
      cases stopped
    | inside => cases absent

/-- A query over all days of a month is accepted without a bound: its table names days whose dates
start with six digits. -/
theorem unbounded_month_accepted :
    NamesDays "githubarchive.day.202401*" ['2', '0', '2', '4', '0', '1'] ∧
      ¬HoldsBound "_TABLE_SUFFIX" ((typesQuery "githubarchive.day.202401*").get "filters") ∧
        ({} : Safety).judgeQuery (typesQuery "githubarchive.day.202401*") = .ok none :=
  ⟨⟨List.all_eq_true.mp (by decide), [], [], by decide +kernel⟩, typesQuery_unbounded _ _,
    by decide +kernel⟩

end Safety

end QuestionDesk.Plan
