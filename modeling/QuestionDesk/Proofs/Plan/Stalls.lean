import QuestionDesk.Proofs.Plan.Shards

/-!
# Judgements that come to nothing

A plan is judged before it is read, so anything may stand in it where a list is expected. The
judgement ends with a verdict unless it comes to a value that cannot be searched: in the place of
the common tables, or in the place of filters that are searched for a bound.
-/
namespace QuestionDesk.Plan.Safety

variable {safety : Safety}

/-! ## Queries -/

/-- The judgement of a query stalls in its filters, which are searched if the table is one of
several days and the columns may be selected. -/
structure QueryStalls (safety : Safety) (query : Fields) : Prop where
  /-- The table is one of several days. -/
  sharded : ∃ table, query.get "table" = .text table ∧ isShardedWildcard table = true
  /-- The columns may be selected. -/
  selects : Selects query
  /-- The search for a bound on the days stalls. -/
  stalls : Stalls safety.partitionColumn (query.get "filters")

/-- What has come to a verdict has not come to nothing. -/
theorem not_stopped (verdict : Option Rejection) :
    ¬∃ obstacle, (Except.ok verdict : Judgement) = .error obstacle := by
  rintro ⟨obstacle, ⟨⟩⟩

/-- The judgement of a query comes to nothing exactly if it stalls. -/
theorem judgeQuery_stops {query : Fields} :
    (∃ obstacle, safety.judgeQuery query = .error obstacle) ↔ QueryStalls safety query := by
  have search := valueBounds_finds safety.partitionColumn (query.get "filters")
  by_cases tabled : ∃ table, query.get "table" = .text table ∧ table ≠ ""
  · obtain ⟨table, named, filled⟩ := tabled
    rcases judgeQuery_of_table safety named filled with ⟨bare, judged⟩ | ⟨selects, judged⟩
    · constructor
      · rintro ⟨obstacle, stopped⟩
        rcases judged with judged | judged <;> cases judged.symm.trans stopped
      · exact fun stalls => absurd stalls.selects bare
    · cases sharded : isShardedWildcard table with
      | false =>
        rw [judged, sharded, if_neg Bool.false_ne_true]
        refine iff_of_false (not_stopped _) fun stalls => ?_
        obtain ⟨other, same, several⟩ := stalls.sharded
        cases named.symm.trans same
        rw [sharded] at several
        cases several
      | true =>
        rw [judged, sharded, if_pos rfl, hasPartitionFilter]
        constructor
        · rintro ⟨obstacle, stopped⟩
          refine ⟨⟨table, named, sharded⟩, selects, search.stops.mp ?_⟩
          cases searched : valueBounds safety.partitionColumn (query.get "filters") with
          | error obstacle => exact ⟨obstacle, rfl⟩
          | ok found =>
            rw [searched] at stopped
            cases found <;> cases stopped
        · intro stalls
          obtain ⟨obstacle, searched⟩ := search.stops.mpr stalls.stalls
          exact ⟨obstacle, by rw [searched]⟩
  · have none : ∀ table, query.get "table" = .text table → table = "" := fun table named =>
      Classical.byContradiction fun filled => tabled ⟨table, named, filled⟩
    rw [judgeQuery_of_no_table none]
    refine iff_of_false (not_stopped _) fun stalls => ?_
    obtain ⟨table, named, sharded⟩ := stalls.sharded
    rw [none table named] at sharded
    exact absurd sharded (by decide)

/-! ## Common tables -/

/-- The judgement of one common table. -/
def judgeCommonTable (safety : Safety) : Value → Judgement
  | .object table =>
    match Fields.get table "query" with
    | .object query => safety.judgeQuery query
    | _ => .ok (some .invalidCommonTable)
  | _ => .ok (some .invalidCommonTable)

/-- Common tables are judged one after the other up to the first that is not accepted. -/
theorem judgeCommonTables_cons (table : Value) (tables : List Value) :
    safety.judgeCommonTables (table :: tables) =
      match safety.judgeCommonTable table with
      | .ok none => safety.judgeCommonTables tables
      | other => other := by
  cases table with
  | object fields =>
    simp only [judgeCommonTables, judgeCommonTable]
    cases Fields.get fields "query" <;> rfl
  | _ => rfl

/-- The judgement of a common table comes to nothing exactly if it does for its query. -/
theorem judgeCommonTable_stops {table : Value} :
    (∃ obstacle, safety.judgeCommonTable table = .error obstacle) ↔
      ∃ fields query : Fields, table = .object fields ∧ fields.get "query" = .object query ∧
        QueryStalls safety query := by
  cases table with
  | object fields =>
    simp only [judgeCommonTable]
    cases held : Fields.get fields "query" with
    | object query =>
      rw [judgeQuery_stops]
      constructor
      · exact fun stalls => ⟨fields, query, rfl, held, stalls⟩
      · rintro ⟨_, _, ⟨⟩, same, stalls⟩
        cases held.symm.trans same
        exact stalls
    | _ =>
      refine iff_of_false (not_stopped _) ?_
      rintro ⟨_, _, ⟨⟩, same, _⟩
      cases held.symm.trans same
  | _ =>
    refine iff_of_false (not_stopped _) ?_
    rintro ⟨_, _, ⟨⟩, _⟩

/-- The judgement of common tables comes to nothing exactly if it does for one behind others that
are accepted. -/
theorem judgeCommonTables_stops {tables : List Value} :
    (∃ obstacle, safety.judgeCommonTables tables = .error obstacle) ↔
      ∃ before table after, tables = before ++ table :: after ∧
        safety.judgeCommonTables before = .ok none ∧
          ∃ obstacle, safety.judgeCommonTable table = .error obstacle := by
  induction tables with
  | nil =>
    refine iff_of_false (not_stopped _) ?_
    rintro ⟨before, table, after, none, _⟩
    simp at none
  | cons first rest others =>
    rw [judgeCommonTables_cons]
    cases judged : safety.judgeCommonTable first with
    | error obstacle =>
      exact iff_of_true ⟨obstacle, rfl⟩ ⟨[], first, rest, rfl, rfl, obstacle, judged⟩
    | ok verdict =>
      cases verdict with
      | some rejection =>
        -- A rejection ends the judgement, and what stands behind it is not looked at.
        refine iff_of_false (not_stopped _) ?_
        rintro ⟨before, table, after, same, passed, obstacle, stopped⟩
        cases before with
        | nil =>
          cases same
          cases judged.symm.trans stopped
        | cons head before =>
          cases same
          rw [judgeCommonTables_cons, judged] at passed
          cases passed
      | none =>
        rw [others]
        constructor
        · rintro ⟨before, table, after, rfl, passed, stopped⟩
          exact ⟨first :: before, table, after, rfl, by rw [judgeCommonTables_cons, judged, passed],
            stopped⟩
        · rintro ⟨before, table, after, same, passed, obstacle, stopped⟩
          cases before with
          | nil =>
            cases same
            cases judged.symm.trans stopped
          | cons head before =>
            cases same
            rw [judgeCommonTables_cons, judged] at passed
            exact ⟨before, table, after, rfl, passed, obstacle, stopped⟩

/-! ## Plans -/

/-- The judgement of a plan stalls: in the main query; or, where that is accepted, because the
common tables cannot be searched, or in the query of one behind others that are accepted. -/
inductive PlanStalls (safety : Safety) (plan : Fields) : Prop where
  /-- It stalls in the main query. -/
  | main {query : Fields} (main : plan.get "main_query" = .object query)
    (stalls : QueryStalls safety query)
  /-- The common tables cannot be searched. -/
  | tables {query : Fields} (main : plan.get "main_query" = .object query)
    (accepted : safety.judgeQuery query = .ok none)
    (unsearchable : Unsearchable (plan.get "ctes"))
  /-- It stalls in a common table. -/
  | table {query table inner : Fields} {before after : List Value}
    (main : plan.get "main_query" = .object query)
    (accepted : safety.judgeQuery query = .ok none)
    (listed : plan.get "ctes" = .list (before ++ .object table :: after))
    (passed : safety.judgeCommonTables before = .ok none)
    (holds : table.get "query" = .object inner) (stalls : QueryStalls safety inner)

/-- A plan is judged by its main query and, where that is accepted, by its common tables. -/
theorem judgePlan_of_main {plan query : Fields} (main : plan.get "main_query" = .object query)
    (filled : query ≠ []) : safety.judgePlan (.object plan) =
      match safety.judgeQuery query with
      | .ok none =>
        (match searched (plan.get "ctes") with
        | .error obstacle => .error obstacle
        | .ok tables => safety.judgeCommonTables tables)
      | other => other := by
  cases plan with
  | nil => cases main
  | cons field rest =>
    cases query with
    | nil => exact absurd rfl filled
    | cons first others =>
      rw [judgePlan, if_neg (by simp)]
      generalize Fields.get (field :: rest) "main_query" = value at main ⊢
      subst main
      rfl

/-- A plan without a main query is rejected. -/
theorem judgePlan_of_no_main {plan : Fields}
    (none : ∀ query, plan.get "main_query" = .object query → query = []) :
    ∃ rejection, safety.judgePlan (.object plan) = .ok (some rejection) := by
  cases plan with
  | nil => exact ⟨.invalidPlan, rfl⟩
  | cons field rest =>
    refine ⟨.missingMain, ?_⟩
    simp only [judgePlan, List.isEmpty_cons, Bool.false_eq_true, if_false]
    cases main : Fields.get (field :: rest) "main_query" with
    | object query =>
      obtain rfl := none query main
      rfl
    | _ => rfl

/-- A plan stalls in its main query, or that is accepted. -/
theorem PlanStalls.of_main {plan query : Fields} (stalls : PlanStalls safety plan)
    (main : plan.get "main_query" = .object query) :
    QueryStalls safety query ∨ safety.judgeQuery query = .ok none ∧
      (Unsearchable (plan.get "ctes") ∨ ∃ (tables : List Value) (obstacle : Obstacle),
        plan.get "ctes" = .list tables ∧ safety.judgeCommonTables tables = .error obstacle) := by
  cases stalls with
  | main same stalls =>
    cases main.symm.trans same
    exact Or.inl stalls
  | tables same accepted unsearchable =>
    cases main.symm.trans same
    exact Or.inr ⟨accepted, Or.inl unsearchable⟩
  | table same accepted listed passed holds stalls =>
    cases main.symm.trans same
    obtain ⟨obstacle, stopped⟩ := judgeCommonTables_stops.mpr
      ⟨_, _, _, rfl, passed, judgeCommonTable_stops.mpr ⟨_, _, rfl, holds, stalls⟩⟩
    exact Or.inr ⟨accepted, Or.inr ⟨_, obstacle, listed, stopped⟩⟩

/-- Only a list has items that are objects: whatever else is searched is no list of common tables
that could stall. -/
theorem list_of_stops {value : Value} {tables : List Value} {obstacle : Obstacle}
    (found : searched value = .ok tables)
    (stopped : safety.judgeCommonTables tables = .error obstacle) : value = .list tables := by
  have texts : ∀ {items : List Value}, (∀ item ∈ items, ∀ fields, item ≠ .object fields) →
      safety.judgeCommonTables items ≠ .error obstacle := by
    intro items plain stopped
    obtain ⟨before, table, after, rfl, -, stops⟩ := judgeCommonTables_stops.mp ⟨obstacle, stopped⟩
    obtain ⟨fields, _, same, _⟩ := judgeCommonTable_stops.mp stops
    exact plain table (by simp) fields same
  -- What is found in a text or among the names of an object are texts.
  have mapped : ∀ {α : Type} {items : List α} {text : α → String},
      safety.judgeCommonTables (items.map fun item => .text (text item)) ≠ .error obstacle := by
    intro α items text
    refine texts fun item member fields same => ?_
    obtain ⟨_, _, rfl⟩ := List.mem_map.mp member
    cases same
  unfold searched at found
  split at found
  · cases found
    cases stopped
  · split at found
    · cases found
      rfl
    · cases found
      exact absurd stopped mapped
    · cases found
      exact absurd stopped mapped
    · cases found

/-- The judgement of a plan comes to nothing exactly if it stalls. -/
theorem judgePlan_stops {plan : Fields} :
    (∃ obstacle, safety.judgePlan (.object plan) = .error obstacle) ↔ PlanStalls safety plan := by
  by_cases filled : ∃ query, plan.get "main_query" = .object query ∧ query ≠ []
  · obtain ⟨query, main, filled⟩ := filled
    rw [judgePlan_of_main main filled]
    cases judged : safety.judgeQuery query with
    | error obstacle =>
      exact iff_of_true ⟨obstacle, rfl⟩ (.main main (judgeQuery_stops.mp ⟨obstacle, judged⟩))
    | ok verdict =>
      have free : ¬QueryStalls safety query := fun stalls => by
        obtain ⟨obstacle, stopped⟩ := judgeQuery_stops.mpr stalls
        cases judged.symm.trans stopped
      cases verdict with
      | some rejection =>
        refine iff_of_false (not_stopped _) fun stalls => ?_
        rcases stalls.of_main main with stalls | ⟨accepted, _⟩
        · exact absurd stalls free
        · cases judged.symm.trans accepted
      | none =>
        constructor
        · rintro ⟨obstacle, stopped⟩
          cases found : searched (plan.get "ctes") with
          | error obstacle => exact .tables main judged ⟨obstacle, found⟩
          | ok tables =>
            simp only [found] at stopped
            obtain ⟨before, table, after, rfl, passed, stops⟩ :=
              judgeCommonTables_stops.mp ⟨obstacle, stopped⟩
            obtain ⟨fields, inner, rfl, holds, stalls⟩ := judgeCommonTable_stops.mp stops
            exact .table main judged (list_of_stops found stopped) passed holds stalls
        · intro stalls
          rcases stalls.of_main main with
            stalls | ⟨_, ⟨obstacle, stopped⟩ | ⟨tables, obstacle, listed, stopped⟩⟩
          · exact absurd stalls free
          · exact ⟨obstacle, by simp only [stopped]⟩
          · have found : searched (plan.get "ctes") = .ok tables := by
              rw [listed]
              cases tables <;> rfl
            exact ⟨obstacle, by simp only [found, stopped]⟩
  · have none : ∀ query, plan.get "main_query" = .object query → query = [] := fun query main =>
      Classical.byContradiction fun some => filled ⟨query, main, some⟩
    obtain ⟨rejection, judged⟩ := @judgePlan_of_no_main safety _ none
    rw [judged]
    refine iff_of_false (not_stopped _) fun stalls => ?_
    -- A main query without fields is rejected, so nothing stalls in it or behind it.
    have bare : safety.judgeQuery [] = .ok (some .missingTable) := rfl
    obtain ⟨query, main⟩ : ∃ query, plan.get "main_query" = .object query := by
      cases stalls with
      | main main _ | tables main _ _ | table main _ _ _ _ _ => exact ⟨_, main⟩
    obtain rfl := none query main
    rcases stalls.of_main main with stalls | ⟨accepted, _⟩
    · obtain ⟨obstacle, stopped⟩ := judgeQuery_stops.mpr stalls
      cases bare.symm.trans stopped
    · cases bare.symm.trans accepted

/-- The judgement of a plan with what is reported about it comes to nothing exactly if the planner
did not abstain, the fidelity is not below the threshold, and the plan stalls. Both numbers have to
be such that they can be shown. -/
theorem judge_stops {plan report : Fields} {fidelity threshold : Decimal.Double}
    (shown : (fidelityOf (report.get "fidelity")).toDouble? = some fidelity)
    (bound : safety.threshold.toDouble? = some threshold) :
    (∃ obstacle, safety.judge (.object plan) report = .error obstacle) ↔
      (report.get "abstain").isTruthy = false ∧
        (fidelityOf (report.get "fidelity")).lt safety.threshold = false ∧
          PlanStalls safety plan := by
  simp only [judge, shown, bound]
  cases (report.get "abstain").isTruthy with
  | true => simp
  | false =>
    cases (fidelityOf (report.get "fidelity")).lt safety.threshold with
    | true => simp
    | false => simp [judgePlan_stops]

end QuestionDesk.Plan.Safety
