import QuestionDesk.Proofs.Decimal.Order
import QuestionDesk.Proofs.Desk.Courses
import QuestionDesk.Proofs.Desk.Origin
import QuestionDesk.Proofs.Desk.Plays

/-!
# Fidelity

How sure the planner has to be. A plan is accepted only if its fidelity is at least the threshold
or is not a number at all, which compares with nothing; what is reported in place of a number counts
as zero.
-/
namespace QuestionDesk

open Decimal (Double Number)
open Pipeline (Prepared Run Runner)
open Remote (PlannerAnswer)

namespace Plan.Safety

/-- A number that is reported in the field for it. -/
def ReportsNumber (report : Fields) : Prop :=
  (∃ value, report.get "fidelity" = .int value) ∨ ∃ value, report.get "fidelity" = .float value

/-- What is reported in place of a number counts as zero. -/
theorem fidelityOf_of_not_number {report : Fields} (none : ¬ReportsNumber report) :
    fidelityOf (report.get "fidelity") = .float (Double.zero false) := by
  unfold fidelityOf
  split
  · next value same => exact absurd (Or.inl ⟨value, same⟩) none
  · next value same => exact absurd (Or.inr ⟨value, same⟩) none
  · rfl

/-- A plan is accepted exactly if the planner did not abstain, its fidelity does not lie below the
threshold, and the plan itself is accepted. -/
theorem judge_eq_ok_none {safety : Safety} {plan : Value} {report : Fields} :
    safety.judge plan report = .ok none ↔ (report.get "abstain").isTruthy = false ∧
      (fidelityOf (report.get "fidelity")).lt safety.threshold = false ∧
        safety.judgePlan plan = .ok none := by
  simp only [judge]
  cases (report.get "abstain").isTruthy with
  | true => simp
  | false =>
    cases (fidelityOf (report.get "fidelity")).lt safety.threshold with
    | true =>
      simp only [Bool.false_eq_true, if_false, if_true, true_and, reduceCtorEq, false_and,
        iff_false]
      split <;> simp
    | false => simp

/-- An accepted plan has a fidelity that is at least the threshold, or not a number. -/
theorem faithful_of_accepted {threshold : Double} (finite : threshold.isFinite = true)
    {column : String} {plan : Value} {report : Fields}
    (accepted : ({ threshold := .float threshold, partitionColumn := column } : Safety).judge plan
      report = .ok none) : (report.get "abstain").isTruthy = false ∧
        (fidelityOf (report.get "fidelity") = .float .nan ∨
          (fidelityOf (report.get "fidelity")).AtLeast (.float threshold)) := by
  obtain ⟨willing, sure, _⟩ := judge_eq_ok_none.mp accepted
  refine ⟨willing, (Number.not_lt_iff ?_).mp sure⟩
  rintro ⟨⟩
  cases finite

/-- A plan is rejected whose fidelity is not reported as a number, if the threshold is positive. -/
theorem rejected_of_not_number {threshold : Double} {column : String} {plan : Value}
    {report : Fields} (positive : (Number.int 0).Below (.float threshold))
    (none : ¬ReportsNumber report) : ∃ rejection,
      ({ threshold := .float threshold, partitionColumn := column } : Safety).judge plan report =
        .ok (some rejection) := by
  have zero : (Number.float (Double.zero false)).lt (.float threshold) = true := by
    rw [Number.lt_iff, Number.Below, Number.place?_zero]
    exact positive
  simp only [judge, fidelityOf_of_not_number none, zero, if_true]
  cases (report.get "abstain").isTruthy with
  | true => exact ⟨.abstained, rfl⟩
  | false => exact ⟨.unfaithful (Double.zero false) threshold, rfl⟩

end Plan.Safety

namespace Desk

/-- The fidelity that the planner reported about the plan from which a query was derived is at least
the threshold, or not a number, and the planner did not abstain. -/
theorem Derived.faithful {policy : Pipeline.Policy} {answer : PlannerAnswer} {prepared : Prepared}
    (derived : Derived policy answer prepared) {threshold : Double}
    (finite : threshold.isFinite = true) (set : policy.safety.threshold = .float threshold) :
    answer.abstain = false ∧
      (answer.fidelity = .nan ∨ (Number.float answer.fidelity).AtLeast (.float threshold)) := by
  have safety : policy.safety =
      { threshold := .float threshold, partitionColumn := policy.safety.partitionColumn } := by
    rw [← set]
  have judged := derived.judged
  rw [safety] at judged
  obtain ⟨willing, sure⟩ := Plan.Safety.faithful_of_accepted finite judged
  refine ⟨willing, ?_⟩
  rcases sure with none | sure
  · exact Or.inl (Number.float.inj none)
  · exact Or.inr sure

/-- With a finite threshold: whoever's plan is accepted did not abstain and reported a fidelity that
is at least the threshold, or is not a number; what is not reported as a number is rejected if the
threshold is positive; and the executor is called only for an answer of the planner that did not
abstain and whose fidelity is at least the threshold, or is not a number. -/
theorem accepted_plans_are_faithful {threshold : Double} (finite : threshold.isFinite = true) :
    (∀ (column : String) (plan : Value) (report : Fields),
      ({ threshold := .float threshold, partitionColumn := column } : Plan.Safety).judge plan
          report = .ok none →
        (report.get "abstain").isTruthy = false ∧
          (Plan.Safety.fidelityOf (report.get "fidelity") = .float .nan ∨
            (Plan.Safety.fidelityOf (report.get "fidelity")).AtLeast (.float threshold))) ∧
    (∀ (column : String) (plan : Value) (report : Fields),
      (Number.int 0).Below (.float threshold) → ¬Plan.Safety.ReportsNumber report →
        ∃ rejection, ({ threshold := .float threshold, partitionColumn := column } :
          Plan.Safety).judge plan report = .ok (some rejection)) ∧
    ∀ (settings : Settings) (desk : Desk), settings.fidelityThreshold = threshold →
      start settings = .ok desk → ∀ (happenings : Nat → Happening) (count : Nat) (runner : Runner)
        (prepared : Prepared), (desk.history happenings count).executing? runner = some prepared →
          ∃ asked < count, ∃ (response : Remote.Response) (asker : Run) (answer : PlannerAnswer),
            happenings asked = .act (.work runner response) ∧
            (desk.history happenings asked).run? runner = some asker ∧ asker.phase = .planning ∧
            (∀ later, asked < later → later ≤ count → ∃ between,
              (desk.history happenings later).run? runner = some between ∧
                between.phase.prepared? = some prepared) ∧
            Remote.Planner.readPlan settings.plannerUrl asker.prompt response = .ok answer ∧
            answer.abstain = false ∧ (answer.fidelity = .nan ∨
              (Number.float answer.fidelity).AtLeast (.float threshold)) := by
  refine ⟨fun _ _ _ => Plan.Safety.faithful_of_accepted finite,
    fun _ _ _ => Plan.Safety.rejected_of_not_number, ?_⟩
  rintro settings desk rfl started happenings count runner prepared executing
  have own : desk.policy.safety.threshold = .float settings.fidelityThreshold ∧
      desk.plannerUrl = settings.plannerUrl := by
    obtain ⟨staffed, _, rfl⟩ := start_eq started
    exact ⟨rfl, rfl⟩
  obtain ⟨run, running, phase⟩ := executing?_eq_some.mp executing
  obtain ⟨asked, below, response, asker, answer, acts, asks, planning, read, derived, held⟩ :=
    holdsSince_of_prepared (orderly_start started) (run?_start started) happenings count running
      (by rw [phase]; rfl)
  rw [own.2] at read
  obtain ⟨willing, sure⟩ := derived.faithful finite own.1
  exact ⟨asked, below, response, asker, answer, acts, asks, planning, held, read, willing, sure⟩

/-- With the threshold of one half, what reports nothing is rejected. -/
theorem accepted_plans_are_faithful_half :
    (Double.ofQuotient false 1 2).isFinite = true ∧ ∃ rejection,
      ({ threshold := .float (.ofQuotient false 1 2) } : Plan.Safety).judge (.object []) [] =
        .ok (some rejection) := by
  have finite : (Double.ofQuotient false 1 2).isFinite = true := by decide +kernel
  have positive : (Number.int 0).Below (.float (.ofQuotient false 1 2)) :=
    Number.lt_iff.mp (by decide +kernel)
  have nothing : ¬Plan.Safety.ReportsNumber [] := by rintro (⟨_, ⟨⟩⟩ | ⟨_, ⟨⟩⟩)
  exact ⟨finite, (accepted_plans_are_faithful finite).2.1 "_TABLE_SUFFIX" (.object []) [] positive
    nothing⟩

/-- The answer of a planner that reports a fidelity that is not a number. -/
def unsureText : String :=
  "\x7b\"plan\": \x7b\"main_query\": \x7b\"table\": \"events\", \"columns\": [\"type\"]" ++
    "\x7d\x7d, \"fidelity\": NaN\x7d"

/-- The executor is called for a plan whose fidelity is not a number, and so not at least the
threshold. -/
theorem unsure_plan_executed : ∃ (desk : Desk) (prepared : Prepared) (answer : PlannerAnswer),
    start smallService = .ok desk ∧
      (desk.history (answeredWith unsureText) 11).executing? (.worker 0) = some prepared ∧
        Remote.Planner.readPlan smallService.plannerUrl (.text "How many?")
            (.answer 200 unsureText) = .ok answer ∧
          ¬(Number.float answer.fidelity).AtLeast (.float smallService.fidelityThreshold) := by
  obtain ⟨desk, started, passes⟩ := @exists_start smallService (fun desk =>
    ((desk.history (answeredWith unsureText) 11).executing? (.worker 0)).isSome) (by decide +kernel)
  obtain ⟨prepared, executing⟩ := Option.isSome_iff_exists.mp passes
  have reads : (Remote.Planner.readPlan smallService.plannerUrl (.text "How many?")
      (.answer 200 unsureText)).toOption.map PlannerAnswer.fidelity = some .nan := by
    decide +kernel
  cases read : Remote.Planner.readPlan smallService.plannerUrl (.text "How many?")
      (.answer 200 unsureText) with
  | error failure => simp [read, Except.toOption] at reads
  | ok answer =>
    rw [read] at reads
    refine ⟨desk, prepared, answer, started, executing, rfl, ?_⟩
    rw [Option.some.inj reads]
    rintro ⟨upper, _, placed, _⟩
    cases placed

end Desk

end QuestionDesk
