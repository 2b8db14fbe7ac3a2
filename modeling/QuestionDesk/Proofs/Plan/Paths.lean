import Mathlib.Logic.Relation
import QuestionDesk.Proofs.Plan.Grammar
import QuestionDesk.Proofs.Plan.Shards

/-!
# Paths to a bound

The search for a bound on the days of a sharded table follows the groups that join all their parts.
On filters of the shape that plans have it comes to an end, and it finds a bound exactly if a path
through such groups leads to one. The answer stays the same when siblings change places and when a
group that joins its parts gives way to them, at any depth, and no further filter takes it back.
-/
namespace QuestionDesk.Plan

/-! ## Paths -/

/-- A group that joins all its parts has a value among them. -/
def HasPart (group part : Value) : Prop :=
  ∃ (fields : Fields) (parts : List Value), group = .object fields ∧
    fields.get "logic" = .text "AND" ∧ fields.get "filters" = .list parts ∧ part ∈ parts

/-- A node bounds a column by itself: it is no group, and compares the column by a bounding
operator. -/
def IsBound (column : String) (node : Value) : Prop :=
  ∃ fields : Fields, node = .object fields ∧ fields.has "logic" = false ∧
    fields.get "column" = .text column ∧
      ∃ operator ∈ boundingOperators, fields.get "op" = .text operator

/-- A path from one of several filters, through groups that join all their parts, leads to a node
that bounds a column. -/
def LeadsToBound (column : String) (filters : List Value) : Prop :=
  ∃ filter ∈ filters, ∃ node, Relation.ReflTransGen HasPart filter node ∧ IsBound column node

variable {column : String} {fields : Fields}

/-- A filter bounds a column exactly if a path from it leads to a node that does by itself. -/
theorem bounds_iff_path {filter : Value} :
    Bounds column filter ↔
      ∃ node, Relation.ReflTransGen HasPart filter node ∧ IsBound column node := by
  constructor
  · intro bounds
    induction bounds with
    | leaf plain named bounding =>
      exact ⟨_, .refl, _, rfl, plain, named, isBounding_iff.mp bounding⟩
    | group joins listed member _ ih =>
      obtain ⟨node, path, bound⟩ := ih
      exact ⟨node, .head ⟨_, _, rfl, joins, listed, member⟩ path, bound⟩
  · rintro ⟨node, path, bound⟩
    -- A path is taken apart at its first group, as a bound within groups is.
    induction path using Relation.ReflTransGen.head_induction_on with
    | refl =>
      obtain ⟨fields, rfl, plain, named, bounding⟩ := bound
      exact .leaf plain named (isBounding_iff.mpr bounding)
    | head first _ ih =>
      obtain ⟨fields, parts, rfl, joins, listed, member⟩ := first
      exact .group joins listed member ih

/-- A list of filters holds a bound exactly if a path leads from it to one. -/
theorem holdsBound_iff_leads {filters : List Value} :
    HoldsBound column (.list filters) ↔ LeadsToBound column filters := by
  simp only [holdsBound_list, bounds_iff_path, LeadsToBound]

/-- The first of several filters bounds the column, or the others hold a bound. -/
theorem holdsBound_cons {filter : Value} {filters : List Value} :
    HoldsBound column (.list (filter :: filters)) ↔
      Bounds column filter ∨ HoldsBound column (.list filters) := by
  simp only [holdsBound_list, List.exists_mem_cons_iff]

/-- Filters hold a bound in the front or in the back. -/
theorem holdsBound_append {front back : List Value} :
    HoldsBound column (.list (front ++ back)) ↔
      HoldsBound column (.list front) ∨ HoldsBound column (.list back) := by
  simp only [holdsBound_list, List.mem_append, or_and_right, exists_or]

/-- What has fields bounds a column as a leaf, or as a group that joins its parts and holds a
bound among them. -/
theorem bounds_object_iff :
    Bounds column (.object fields) ↔
      (fields.has "logic" = false ∧ fields.get "column" = .text column ∧
        isBounding (fields.get "op") = true) ∨
      (fields.get "logic" = .text "AND" ∧ HoldsBound column (fields.get "filters")) := by
  constructor
  · intro bounds
    cases bounds with
    | leaf plain named bounding => exact Or.inl ⟨plain, named, bounding⟩
    | group joins listed member bounds => exact Or.inr ⟨joins, _, listed, _, member, bounds⟩
  · rintro (⟨plain, named, bounding⟩ | ⟨joins, _, listed, _, member, bounds⟩)
    · exact .leaf plain named bounding
    · exact .group joins listed member bounds

/-- A group that joins its parts bounds a column exactly if they hold a bound. -/
theorem bounds_group_iff {parts : List Value}
    (joins : fields.get "logic" = .text "AND") (listed : fields.get "filters" = .list parts) :
    Bounds column (.object fields) ↔ HoldsBound column (.list parts) := by
  have marked : fields.has "logic" = true := has_of_get (by rw [joins]; nofun)
  rw [bounds_object_iff, marked, listed]
  simp [joins]

/-! ## Shape -/

/-- A value has the shape of a filter: where it is a group that joins all its parts, they can be
searched, and each of them has the shape. What the search passes by may be anything. -/
inductive Shaped : Value → Prop where
  /-- What is no group that joins its parts is not looked into. -/
  | plain {value : Value}
    (apart : ∀ fields : Fields, value = .object fields → fields.get "logic" ≠ .text "AND") :
    Shaped value
  /-- The parts of a group can be searched and have the shape. -/
  | group {fields : Fields} (searchable : ¬Unsearchable (fields.get "filters"))
    (parts : ∀ parts, fields.get "filters" = .list parts → ∀ part ∈ parts, Shaped part) :
    Shaped (.object fields)

/-- The parts of a group that joins them have the shape if it does. -/
theorem Shaped.part {parts : List Value} (shaped : Shaped (.object fields))
    (joins : fields.get "logic" = .text "AND") (listed : fields.get "filters" = .list parts) :
    ∀ part ∈ parts, Shaped part := by
  cases shaped with
  | plain apart => exact absurd joins (apart _ rfl)
  | group _ each => exact each _ listed

/-- Where a search stalls, the value cannot be searched or holds what has not the shape. -/
theorem unshaped_of_stalls {value : Value} (stalls : Stalls column value) :
    Unsearchable value ∨ ∃ filters, value = .list filters ∧ ∃ filter ∈ filters, ¬Shaped filter := by
  induction stalls with
  | here unsearchable => exact Or.inl unsearchable
  | inside joins _ _ ih =>
    refine Or.inr ⟨_, rfl, _, List.mem_append_right _ List.mem_cons_self, fun shaped => ?_⟩
    rcases ih with unsearchable | ⟨parts, listed, part, member, unshaped⟩
    · cases shaped with
      | plain apart => exact apart _ rfl joins
      | group searchable _ => exact searchable unsearchable
    · exact unshaped (shaped.part joins listed part member)

/-- A search in filters that have the shape does not stall. -/
theorem not_stalls_of_shaped {filters : List Value}
    (shaped : ∀ filter ∈ filters, Shaped filter) : ¬Stalls column (.list filters) := by
  intro stalls
  rcases unshaped_of_stalls stalls with unsearchable | ⟨_, ⟨⟩, filter, member, unshaped⟩
  · exact searchable_list _ unsearchable
  · exact unshaped (shaped filter member)

mutual

/-- The document of a filter has the shape. -/
theorem shaped_of_describes : (filter : Filter) → {value : Value} → DescribesFilter value filter →
    Shaped value
  | .group _ parts, _, .group _ listed _ each _ => by
    have list := get_of_get? listed
    refine .group (list ▸ searchable_list _) fun items same => ?_
    cases list.symm.trans same
    exact shaped_of_each parts each
  | .leaf _ _ _, _, .leaf _ _ _ _ only => by
    refine .plain fun fields same joins => ?_
    cases same
    have present := has_of_get (by rw [joins]; nofun)
    rw [Fields.has, Option.isSome_iff_exists] at present
    obtain ⟨_, found⟩ := present
    simpa using only _ (Fields.mem_of_get? found)

/-- The documents of several filters have the shape. -/
theorem shaped_of_each : (filters : List Filter) → {items : List Value} →
    List.Forall₂ DescribesFilter items filters → ∀ item ∈ items, Shaped item
  | [], _, .nil => by simp
  | filter :: filters, _, .cons first others => by
    rintro item member
    rcases List.mem_cons.mp member with rfl | later
    · exact shaped_of_describes filter first
    · exact shaped_of_each filters others item later

end

/-! ## Regrouping -/

/-- Siblings change places, or a group that joins all its parts gives way to them. -/
inductive Regroups : List Value → List Value → Prop where
  /-- Siblings change places. -/
  | reorder {before after : List Value} (places : before.Perm after) : Regroups before after
  /-- The parts of a group stand where it stood. -/
  | dissolve {front parts back : List Value} {fields : Fields}
    (joins : fields.get "logic" = .text "AND") (listed : fields.get "filters" = .list parts) :
    Regroups (front ++ .object fields :: back) (front ++ (parts ++ back))

/-- A change of siblings, which are the filters themselves or parts at any depth. -/
inductive Within (change : List Value → List Value → Prop) : List Value → List Value → Prop where
  /-- The filters themselves change. -/
  | here {before after : List Value} (changes : change before after) : Within change before after
  /-- The change is within the parts of one filter. -/
  | inside {front parts changed back : List Value} {fields : Fields}
    (listed : fields.get "filters" = .list parts) (within : Within change parts changed) :
    Within change (front ++ .object fields :: back)
      (front ++ .object (fields.set "filters" (.list changed)) :: back)

/-- Filters are regrouped, step by step and at any depth. -/
def Regrouped : List Value → List Value → Prop := Relation.ReflTransGen (Within Regroups)

/-- A change of siblings keeps what the search goes by. -/
structure Keeps (change : List Value → List Value → Prop) : Prop where
  /-- What has the shape keeps it. -/
  shape : ∀ {before after : List Value}, change before after →
    (∀ filter ∈ before, Shaped filter) → ∀ filter ∈ after, Shaped filter
  /-- No bound is lost or gained. -/
  bounds : ∀ {before after : List Value} {column : String}, change before after →
    (HoldsBound column (.list after) ↔ HoldsBound column (.list before))

/-- Regrouping filters keeps what the search goes by. -/
theorem keeps_regroups : Keeps Regroups where
  shape regroups shaped := by
    cases regroups with
    | reorder places => exact fun filter member => shaped filter (places.mem_iff.mpr member)
    | dissolve joins listed =>
      simp only [List.forall_mem_append, List.forall_mem_cons] at shaped ⊢
      obtain ⟨front, group, back⟩ := shaped
      exact ⟨front, group.part joins listed, back⟩
  bounds regroups := by
    cases regroups with
    | reorder places => simp only [holdsBound_list, places.mem_iff]
    | dissolve joins listed =>
      rw [holdsBound_append, holdsBound_append, holdsBound_append, holdsBound_cons,
        bounds_group_iff joins listed]

/-- A value keeps the shape when its parts do. -/
theorem Shaped.set {parts changed : List Value} (shaped : Shaped (.object fields))
    (listed : fields.get "filters" = .list parts)
    (kept : (∀ part ∈ parts, Shaped part) → ∀ part ∈ changed, Shaped part) :
    Shaped (.object (fields.set "filters" (.list changed))) := by
  by_cases joins : fields.get "logic" = .text "AND"
  · refine .group (by rw [Fields.get_set_self]; exact searchable_list _) fun items same => ?_
    cases (Fields.get_set_self fields _ _).symm.trans same
    exact kept (shaped.part joins listed)
  · refine .plain fun written same => ?_
    cases same
    rwa [Fields.get_set_ne fields _ (by decide)]

/-- A value bounds a column as before when its parts do. -/
theorem bounds_set {parts changed : List Value}
    (listed : fields.get "filters" = .list parts)
    (same : HoldsBound column (.list changed) ↔ HoldsBound column (.list parts)) :
    Bounds column (.object (fields.set "filters" (.list changed))) ↔
      Bounds column (.object fields) := by
  rw [bounds_object_iff, bounds_object_iff, Fields.get_set_self, listed, same,
    Fields.has_set_ne fields _ (by decide), Fields.get_set_ne fields _ (by decide),
    Fields.get_set_ne fields _ (by decide), Fields.get_set_ne fields _ (by decide)]

/-- What keeps what the search goes by among siblings keeps it wherever they stand. -/
theorem Keeps.within {change : List Value → List Value → Prop} (keeps : Keeps change) :
    Keeps (Within change) where
  shape changes shaped := by
    induction changes with
    | here changes => exact keeps.shape changes shaped
    | inside listed _ ih =>
      simp only [List.forall_mem_append, List.forall_mem_cons] at shaped ⊢
      obtain ⟨front, filter, back⟩ := shaped
      exact ⟨front, filter.set listed ih, back⟩
  bounds changes := by
    induction changes with
    | here changes => exact keeps.bounds changes
    | inside listed _ ih =>
      rw [holdsBound_append, holdsBound_append, holdsBound_cons, holdsBound_cons,
        bounds_set listed ih]

/-- What keeps what the search goes by in one step keeps it in any number of them. -/
theorem Keeps.closure {change : List Value → List Value → Prop} (keeps : Keeps change) :
    Keeps (Relation.ReflTransGen change) where
  shape changes shaped := by
    induction changes with
    | refl => exact shaped
    | tail _ last ih => exact keeps.shape last ih
  bounds changes := by
    induction changes with
    | refl => rfl
    | tail _ last ih => exact (keeps.bounds last).trans ih

/-- Filters that are regrouped keep what the search goes by. -/
theorem keeps_regrouped : Keeps Regrouped := keeps_regroups.within.closure

/-! ## The search -/

namespace Safety

variable {safety : Safety} {filters others : List Value}

/-- The search in filters that have the shape comes to an end, and finds a bound exactly if they
hold one. -/
theorem filtersBoundDays_eq_ok (safety : Safety) (shaped : ∀ filter ∈ filters, Shaped filter) :
    ∃ found, safety.filtersBoundDays (.list filters) = .ok found ∧
      (found = true ↔ HoldsBound safety.partitionColumn (.list filters)) := by
  have search := anyBounds_finds safety.partitionColumn filters
  rw [filtersBoundDays]
  cases result : anyBounds safety.partitionColumn filters with
  | error obstacle =>
    exact absurd (search.stops.mp ⟨obstacle, result⟩) (not_stalls_of_shaped shaped)
  | ok found => exact ⟨found, rfl, (search.ends result).trans holdsBound_list.symm⟩

/-- Filters that hold a bound or hold none alike are searched with the same answer. -/
theorem filtersBoundDays_congr (shaped : ∀ filter ∈ filters, Shaped filter)
    (alike : ∀ other ∈ others, Shaped other)
    (same : HoldsBound safety.partitionColumn (.list others) ↔
      HoldsBound safety.partitionColumn (.list filters)) :
    safety.filtersBoundDays (.list others) = safety.filtersBoundDays (.list filters) := by
  obtain ⟨found, answer, holds⟩ := filtersBoundDays_eq_ok safety shaped
  obtain ⟨again, second, holdsAgain⟩ := filtersBoundDays_eq_ok safety alike
  have equal : again = found := Bool.eq_iff_iff.mpr (holdsAgain.trans (same.trans holds.symm))
  rw [answer, second, equal]

/-- Regrouping filters does not change the answer of the search. -/
theorem filtersBoundDays_regrouped (shaped : ∀ filter ∈ filters, Shaped filter)
    (regrouped : Regrouped filters others) :
    safety.filtersBoundDays (.list others) = safety.filtersBoundDays (.list filters) :=
  filtersBoundDays_congr shaped (keeps_regrouped.shape regrouped shaped)
    (keeps_regrouped.bounds regrouped)

/-- Regrouping the filters of a query does not change its judgement. -/
theorem judgeQuery_regrouped {query : Fields} (listed : query.get "filters" = .list filters)
    (shaped : ∀ filter ∈ filters, Shaped filter) (regrouped : Regrouped filters others) :
    safety.judgeQuery (query.set "filters" (.list others)) = safety.judgeQuery query := by
  have same : safety.hasPartitionFilter (.list others) = safety.hasPartitionFilter (.list filters) :=
    filtersBoundDays_regrouped shaped regrouped
  rw [judgeQuery, judgeQuery, Fields.get_set_ne query _ (by decide),
    Fields.get_set_ne query _ (by decide), Fields.get_set_self, listed, same]

/-- The search in filters of the shape that plans have comes to an end. It finds a bound exactly if
a path through groups that join all their parts leads to one. The answer stays the same when siblings
change places and when groups that join their parts give way to them, at any depth, and a bound that
is found is found as well among further filters. -/
theorem search_follows_paths (safety : Safety) (shaped : ∀ filter ∈ filters, Shaped filter) :
    ∃ found, safety.filtersBoundDays (.list filters) = .ok found ∧
      (found = true ↔ LeadsToBound safety.partitionColumn filters) ∧
      (∀ others, Regrouped filters others → safety.filtersBoundDays (.list others) = .ok found) ∧
      (∀ others, filters ⊆ others → (∀ other ∈ others, Shaped other) → found = true →
        safety.filtersBoundDays (.list others) = .ok true) := by
  obtain ⟨found, answer, holds⟩ := filtersBoundDays_eq_ok safety shaped
  refine ⟨found, answer, holds.trans holdsBound_iff_leads, fun others regrouped => ?_,
    fun others further alike yes => ?_⟩
  · rw [filtersBoundDays_regrouped shaped regrouped, answer]
  · obtain ⟨again, second, holdsAgain⟩ := filtersBoundDays_eq_ok safety alike
    obtain ⟨filter, member, bounds⟩ := holdsBound_list.mp (holds.mp yes)
    rw [second, holdsAgain.mpr (holdsBound_list.mpr ⟨filter, further member, bounds⟩)]

/-- A comparison that bounds the days to those of a month. -/
def monthBound : Filter :=
  .leaf "_TABLE_SUFFIX" "BETWEEN" (.list [.scalar (.text "0101"), .scalar (.text "0131")])

/-- A comparison that bounds no days. -/
def pushEvents : Filter := .leaf "type" "=" (.scalar (.text "PushEvent"))

/-- Filters with a bound in a group within a group, behind another one that is only an
alternative. -/
def nestedFilters : List Filter :=
  [.group .or [monthBound, pushEvents], .group .and [pushEvents, .group .and [monthBound]]]

/-- The same filters without groups that join their parts, and with siblings in other places. -/
def flatFilters : List Filter := [monthBound, .group .or [pushEvents, monthBound], pushEvents]

/-- The nested filters have the shape. -/
theorem shaped_nestedFilters : ∀ filter ∈ filterDocuments nestedFilters, Shaped filter :=
  shaped_of_each nestedFilters
    ((checkFilters_iff nestedFilters).mp (@checkFilters_accepts 0 _ _ |>.mp rfl))

/-- The flat filters are the nested ones regrouped. -/
theorem regrouped_nestedFilters :
    Regrouped (filterDocuments nestedFilters) (filterDocuments flatFilters) := by
  have inner : Within Regroups (filterDocuments nestedFilters) (filterDocuments
      [.group .or [monthBound, pushEvents], .group .and [pushEvents, monthBound]]) :=
    @Within.inside _ [_] _ _ [] _ rfl
      (.here (@Regroups.dissolve [_] (filterDocuments [monthBound]) [] _ rfl rfl))
  have outer : Within Regroups (filterDocuments
      [.group .or [monthBound, pushEvents], .group .and [pushEvents, monthBound]])
      (filterDocuments [.group .or [monthBound, pushEvents], pushEvents, monthBound]) :=
    .here (@Regroups.dissolve [_] (filterDocuments [pushEvents, monthBound]) [] _ rfl rfl)
  have alternatives : Within Regroups
      (filterDocuments [.group .or [monthBound, pushEvents], pushEvents, monthBound])
      (filterDocuments [.group .or [pushEvents, monthBound], pushEvents, monthBound]) :=
    @Within.inside _ [] _ _ _ _ rfl (.here (.reorder (.swap _ _ _)))
  have top : Within Regroups
      (filterDocuments [.group .or [pushEvents, monthBound], pushEvents, monthBound])
      (filterDocuments flatFilters) :=
    .here (.reorder (.trans (.cons _ (.swap _ _ _)) (.swap _ _ _)))
  exact .tail (.tail (.tail (.single inner) outer) alternatives) top

/-- The bound of the nested filters is found, and found again in the flat ones. -/
theorem search_follows_paths_nested :
    (∀ filter ∈ filterDocuments nestedFilters, Shaped filter) ∧
      LeadsToBound "_TABLE_SUFFIX" (filterDocuments nestedFilters) ∧
        Regrouped (filterDocuments nestedFilters) (filterDocuments flatFilters) ∧
          ({} : Safety).filtersBoundDays (.list (filterDocuments flatFilters)) = .ok true := by
  obtain ⟨found, answer, leads, regroups, _⟩ := search_follows_paths {} shaped_nestedFilters
  have evaluated : ({} : Safety).filtersBoundDays (.list (filterDocuments nestedFilters)) =
      .ok true := by decide +kernel
  obtain rfl : true = found := Except.ok.inj (evaluated.symm.trans answer)
  exact ⟨shaped_nestedFilters, leads.mp rfl, regrouped_nestedFilters,
    regroups _ regrouped_nestedFilters⟩

end Safety

end QuestionDesk.Plan
