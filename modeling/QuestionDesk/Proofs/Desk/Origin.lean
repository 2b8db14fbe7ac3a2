import QuestionDesk.Proofs.Desk.Order
import QuestionDesk.Proofs.Plan.Bounds
import QuestionDesk.Proofs.Sql.Limit

/-!
# Where queries come from

Every query that a run holds was compiled, in that run, from a plan that the planner answered and
the judge accepted. So whatever reaches the executor has passed the judge, and what the judge found
in the document of the plan is true of the text that is run.
-/
namespace QuestionDesk.Desk

open Pipeline (Next Phase Policy Prepared Run Runner)
open Remote (PlannerAnswer)

/-- A query that was compiled from an answer of the planner that the judge accepted. -/
structure Derived (policy : Policy) (answer : PlannerAnswer) (prepared : Prepared) : Prop where
  /-- The plan is that of the answer. -/
  plan : prepared.plan = answer.plan
  /-- The judge accepted the plan. -/
  judged : policy.safety.judge (.object answer.plan) (Run.report answer) = .ok none
  /-- The query is the text of the plan. -/
  compiled : Run.compile policy answer.plan = .ok prepared.sql

/-- A run of a history asked the planner at a moment and has held a query that was compiled from the
answer ever since. -/
def HoldsSince (desk : Desk) (happenings : Nat → Happening) (runner : Runner) (prepared : Prepared)
    (asked count : Nat) : Prop :=
  ∃ (response : Remote.Response) (asker : Run) (answer : PlannerAnswer),
    happenings asked = .act (.work runner response) ∧
      (desk.history happenings asked).run? runner = some asker ∧ asker.phase = .planning ∧
        Remote.Planner.readPlan desk.plannerUrl asker.prompt response = .ok answer ∧
          Derived desk.policy answer prepared ∧ ∀ later, asked < later → later ≤ count →
            ∃ run, (desk.history happenings later).run? runner = some run ∧
              run.phase.prepared? = some prepared

/-- A run that gets its query derives it from the answer of the planner. -/
theorem Passage.derived {desk between : Desk} {runner : Runner} {run next : Run}
    {response : Remote.Response} {notes : Fields} {prepared : Prepared}
    (passage : desk.Passage runner run response (.goOn next notes) between)
    (before : run.phase.prepared? = none) (after : next.phase.prepared? = some prepared) :
    run.phase = .planning ∧ ∃ answer,
      Remote.Planner.readPlan desk.plannerUrl run.prompt response = .ok answer ∧
        Derived desk.policy answer prepared := by
  cases passage with
  | opened => cases after
  | planned phase read judged compiled =>
    cases after
    exact ⟨phase, _, read, rfl, judged, compiled⟩
  | admitted phase | unknown phase | recognised phase | duplicated phase | removed phase
  | saved phase | executed phase | charted phase =>
    rw [phase] at before
    cases before

/-- A run that holds a query has held it since it asked the planner. -/
theorem holdsSince_of_prepared {desk : Desk} (orderly : desk.Orderly)
    (idle : ∀ runner, desk.run? runner = none) (happenings : Nat → Happening) (count : Nat)
    {runner : Runner} {run : Run} {prepared : Prepared}
    (running : (desk.history happenings count).run? runner = some run)
    (has : run.phase.prepared? = some prepared) :
    ∃ asked < count, desk.HoldsSince happenings runner prepared asked count := by
  induction count generalizing run with
  | zero =>
    rw [history, idle] at running
    cases running
  | succ count before =>
    have sound := sound_history orderly.sound happenings count
    -- A runner that held the query a moment ago has held it since it asked, and does so still.
    have longer : ∀ earlier, (desk.history happenings count).run? runner = some earlier →
        earlier.phase.prepared? = some prepared →
          ∃ asked < count + 1, desk.HoldsSince happenings runner prepared asked (count + 1) := by
      intro earlier ran had
      obtain ⟨asked, below, response, asker, answer, acts, asks, planning, read, derived, held⟩ :=
        before ran had
      refine ⟨asked, by omega, response, asker, answer, acts, asks, planning, read, derived, ?_⟩
      intro later above limit
      rcases Nat.lt_or_ge count later with beyond | within
      · rw [show later = count + 1 by omega]
        exact ⟨run, running, has⟩
      · exact held later above within
    rw [history_succ] at running
    cases shift sound (happenings count) with
    | aside runs _ =>
      rw [runs] at running
      exact longer run running has
    | started phase _ runs _ =>
      rw [runs] at running
      split at running
      · cases running
        rw [phase] at has
        cases has
      · exact longer run running has
    | ended _ _ _ runs _ | cut _ _ runs _ =>
      rw [runs] at running
      split at running
      · cases running
      · exact longer run running has
    | @wentOn other earlier next _ response _ acts ran passage runs _ _ =>
      have still := running
      rw [runs] at running
      split at running
      · next own =>
        subst own
        cases running
        cases had : earlier.phase.prepared? with
        | none =>
          obtain ⟨planning, answer, read, derived⟩ := passage.derived had has
          obtain ⟨policy, url, _, _⟩ := constant_history desk happenings count
          rw [url] at read
          rw [policy] at derived
          refine ⟨count, by omega, response, earlier, answer, acts, ran, planning, read, derived, ?_⟩
          intro later above limit
          rw [show later = count + 1 by omega, history_succ]
          exact ⟨run, still, has⟩
        | some held =>
          rcases passage.goOn_cases with ⟨opening, _⟩ | ⟨_, planning, _⟩ | ⟨same, had', has', _⟩
          · rw [opening] at had
            cases had
          · rw [planning] at had
            cases had
          · rw [has] at has'
            cases has'
            exact longer earlier ran had'
      · exact longer run running has

/-- A compiled query is the text of the plan that was read. -/
theorem compile_eq_ok {policy : Policy} {plan : Fields} {sql : String}
    (compiled : Run.compile policy plan = .ok sql) : ∃ root,
      Plan.read (.object plan) = .ok root ∧ policy.rules.statementText root = .ok sql := by
  unfold Run.compile at compiled
  cases accepted : Plan.read (.object plan) with
  | error issue =>
    rw [accepted] at compiled
    cases compiled
  | ok root =>
    rw [accepted] at compiled
    change (policy.rules.statementText root).mapError Failure.ofFault = .ok sql at compiled
    cases rendered : policy.rules.statementText root with
    | error fault =>
      rw [rendered] at compiled
      cases compiled
    | ok text =>
      rw [rendered] at compiled
      cases compiled
      exact ⟨root, rfl, rendered⟩

/-- A query that was derived from an answer is safe to run: the planner did not abstain, the rows
are limited, and every query of the plan over a sharded table is bounded by a leaf that its whole
condition implies. -/
theorem Derived.safe {policy : Policy} {answer : PlannerAnswer} {prepared : Prepared}
    (derived : Derived policy answer prepared) (usual : 0 < policy.rules.defaultLimit)
    (most : 0 < policy.rules.maximumLimit) :
    answer.abstain = false ∧ ∃ plan body limit,
      Plan.read (.object answer.plan) = .ok plan ∧
        policy.rules.statementText plan = .ok prepared.sql ∧
          prepared.sql = body ++ (" LIMIT " ++ Decimal.integerText limit) ∧ 1 ≤ limit ∧
            limit ≤ policy.rules.maximumLimit ∧ ∀ query ∈ plan.queries,
              Plan.isShardedWildcard query.table = true →
                query.Pins policy.safety.partitionColumn := by
  obtain ⟨willing, judged⟩ := Plan.Safety.judgePlan_of_judge derived.judged
  obtain ⟨plan, read, rendered⟩ := compile_eq_ok derived.compiled
  obtain ⟨body, limit, ending, bounds⟩ := Sql.Rules.statementText_limit usual most rendered
  refine ⟨willing, plan, body, limit, read, rendered, ending, bounds.1, bounds.2, ?_⟩
  intro query member sharded
  obtain ⟨fields, accepted, safe⟩ := Plan.Safety.judgeQuery_of_plan read judged query member
  exact Plan.Safety.query_pins_of_judge accepted safe sharded

/-- Whenever a run calls the executor, its query was compiled from an answer of the planner that did
not abstain and that the judge accepted; the query ends with a limit from one to fifty; and every
query of its plan that reads a sharded table has a leaf on the partition column with a bounding
operator that holds wherever the condition of that query does. -/
theorem executed_query_is_safe {settings : Settings} {desk : Desk}
    (started : start settings = .ok desk) (happenings : Nat → Happening) (count : Nat)
    {runner : Runner} {prepared : Prepared}
    (executing : (desk.history happenings count).executing? runner = some prepared) :
    ∃ asked < count, ∃ (response : Remote.Response) (asker : Run) (answer : PlannerAnswer)
      (plan : Plan.Root) (body : String) (limit : Int),
      happenings asked = .act (.work runner response) ∧
      (desk.history happenings asked).run? runner = some asker ∧ asker.phase = .planning ∧
      (∀ later, asked < later → later ≤ count → ∃ between,
        (desk.history happenings later).run? runner = some between ∧
          between.phase.prepared? = some prepared) ∧
      Remote.Planner.readPlan settings.plannerUrl asker.prompt response = .ok answer ∧
      answer.abstain = false ∧
      ({ threshold := .float settings.fidelityThreshold } : Plan.Safety).judge
        (.object answer.plan) (Run.report answer) = .ok none ∧
      Plan.read (.object answer.plan) = .ok plan ∧
      ({} : Sql.Rules).statementText plan = .ok prepared.sql ∧
      prepared.sql = body ++ (" LIMIT " ++ Decimal.integerText limit) ∧ 1 ≤ limit ∧ limit ≤ 50 ∧
      ∀ query ∈ plan.queries, Plan.isShardedWildcard query.table = true →
        query.Pins "_TABLE_SUFFIX" := by
  have policy : desk.policy = { safety := { threshold := .float settings.fidelityThreshold } } ∧
      desk.plannerUrl = settings.plannerUrl := by
    obtain ⟨staffed, _, rfl⟩ := start_eq started
    exact ⟨rfl, rfl⟩
  obtain ⟨run, running, phase⟩ := executing?_eq_some.mp executing
  obtain ⟨asked, below, response, asker, answer, acts, asks, planning, read, derived, held⟩ :=
    holdsSince_of_prepared (orderly_start started) (run?_start started) happenings count running
      (by rw [phase]; rfl)
  rw [policy.1] at derived
  rw [policy.2] at read
  obtain ⟨willing, plan, body, limit, parsed, rendered, ending, least, most, pins⟩ :=
    derived.safe (show (0 : Int) < 20 by decide) (show (0 : Int) < 50 by decide)
  exact ⟨asked, below, response, asker, answer, plan, body, limit, acts, asks, planning, held, read,
    willing, derived.judged, parsed, rendered, ending, least, most, pins⟩

/-- Somebody asks a question whose plan reads the days of a year, and a worker goes on with its job
up to the call of the executor. -/
def yearAsked : Nat → Happening
  | 0 => .act (.come "How many days?" none)
  | 1 | 2 | 3 | 4 => .act (.visit 0)
  | 5 => .act (.take 0)
  | 7 => .act (.work (.worker 0) (.answer 200 ("\x7b\"plan\": \x7b\"main_query\": \x7b" ++
      "\"table\": \"githubarchive.day.2024*\", \"columns\": [\"type\"], \"filters\": [\x7b" ++
      "\"column\": \"_TABLE_SUFFIX\", \"op\": \"BETWEEN\", \"value\": [\"0101\", \"0107\"]" ++
      "\x7d]\x7d\x7d\x7d")))
  | _ => .act (.work (.worker 0) (.answer 200 ""))

/-- The query over the days of a year bounds them. -/
theorem executed_query_is_safe_year : ∃ (desk : Desk) (prepared : Prepared),
    start smallService = .ok desk ∧
      (desk.history yearAsked 11).executing? (.worker 0) = some prepared ∧
        ∃ plan : Plan.Root, ({} : Sql.Rules).statementText plan = .ok prepared.sql ∧
          ∀ query ∈ plan.queries, Plan.isShardedWildcard query.table = true →
            query.Pins "_TABLE_SUFFIX" := by
  have runs : ((start smallService).toOption.bind fun desk =>
      ((desk.history yearAsked 11).executing? (.worker 0))).isSome = true := by
    decide +kernel
  cases started : start smallService with
  | error failure => simp [started, Except.toOption] at runs
  | ok desk =>
    obtain ⟨prepared, executing⟩ := Option.isSome_iff_exists.mp runs
    simp only [started, Except.toOption, Option.bind_some] at executing
    obtain ⟨_, _, _, _, _, plan, _, _, _, _, _, _, _, _, _, _, rendered, _, _, _, pins⟩ :=
      executed_query_is_safe started yearAsked 11 executing
    exact ⟨desk, prepared, rfl, executing, plan, rendered, pins⟩

end QuestionDesk.Desk
