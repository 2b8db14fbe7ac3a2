import QuestionDesk.Proofs.Desk.Courses
import QuestionDesk.Proofs.Desk.Plays
import QuestionDesk.Proofs.Plan.Stalls

/-!
# Plans that are not run

Whoever's plan is refused is told why: the planner abstained or the plan is not safe, it is
malformed, or it cannot be written as a query. There are two exceptions, whose jobs fail with the
generic reason: a plan whose judgement comes to nothing, and one that becomes a query without a
UTF-8 form.
-/
namespace QuestionDesk

open Decimal (Number)
open Jobs (Board Job)
open Pipeline (Answers Call Keeps Policy Reply Run Stage preparation)
open Remote (PlannerAnswer)

/-! ## Reasons -/

/-- The reasons that are told for a plan that is not run. -/
inductive Explains : String → Prop where
  /-- The planner abstained, or the plan is not safe. -/
  | declined : Explains Run.abstentionMessage
  /-- The plan is malformed. -/
  | malformed (issue : Schema.Issue) : Explains (Plan.malformedText issue)
  /-- The plan cannot be written as a query. -/
  | unwritten (fault : Sql.Fault) : Explains fault.message

/-- A text starts as the text in front of it does. -/
theorem head_append {front : String} {char : Char} (starts : front.toList.head? = some char)
    (rest : String) : (front ++ rest).toList.head? = some char := by
  rw [String.toList_append, List.head?_append, starts]
  rfl

/-- A reason that explains is not the generic one. -/
theorem Explains.ne_generic {reason : String} (explains : Explains reason) :
    reason ≠ Failure.genericMessage := by
  intro generic
  have starts : Failure.genericMessage.toList.head? = some 'A' := by decide +kernel
  rw [← generic] at starts
  have other : ∀ char, reason.toList.head? = some char → char = 'A' := fun char same =>
    Option.some.inj (same.symm.trans starts)
  cases explains with
  | declined => exact absurd (other 'C' (by decide +kernel)) (by decide)
  | malformed issue =>
    have front : "Malformed plan at '".toList.head? = some 'M' := by decide +kernel
    exact absurd (other 'M' (head_append (head_append (head_append front _) _) _)) (by decide)
  | unwritten fault =>
    cases fault with
    | strayFilter kind => exact absurd (other 'U' (head_append (by decide +kernel) _)) (by decide)
    | forbiddenOperator operator =>
      exact absurd (other 'O' (head_append (by decide +kernel) _)) (by decide)
    | invalidColumns => exact absurd (other 'I' (by decide +kernel)) (by decide)
    | emptyGroup => exact absurd (other 'F' (by decide +kernel)) (by decide)
    | rangeShape => exact absurd (other 'B' (by decide +kernel)) (by decide)
    | membershipShape => exact absurd (other 'I' (by decide +kernel)) (by decide)

namespace Pipeline

/-- A plan that does not become a query gives a reason that explains. -/
theorem explains_of_compile {policy : Policy} {plan : Fields} {failure : Failure}
    (refused : Run.compile policy plan = .error failure) : Explains failure.safeMessage := by
  rcases Desk.compile_eq_error refused with ⟨issue, rfl⟩ | ⟨fault, rfl⟩
  · exact .malformed issue
  · exact .unwritten fault

/-- The plan of an answer is accepted and becomes a query, but the query has no UTF-8 form. -/
structure Halved (policy : Policy) (answer : PlannerAnswer) : Prop where
  /-- The plan is accepted. -/
  accepted : policy.safety.judge (.object answer.plan) (Run.report answer) = .ok none
  /-- The query has no UTF-8 form. -/
  flawed : ∃ sql flaw, Run.compile policy answer.plan = .ok sql ∧ Text.flaw? sql = some flaw

/-- A plan that is refused is one whose judgement comes to nothing or whose query has no UTF-8 form,
or it gives a reason that explains. -/
theorem preparation_refusal {policy : Policy} {prompt : Value} {answer : PlannerAnswer}
    {stage : Stage} {failure : Failure}
    (refused : preparation policy prompt answer = .error (stage, failure)) :
    ((∃ obstacle, policy.safety.judge (.object answer.plan) (Run.report answer) =
        .error obstacle) → failure.safeMessage = Failure.genericMessage) ∧
      (Halved policy answer → failure.safeMessage = Failure.genericMessage) ∧
      ((∀ obstacle, policy.safety.judge (.object answer.plan) (Run.report answer) ≠
        .error obstacle) → ¬Halved policy answer → Explains failure.safeMessage) := by
  unfold preparation at refused
  cases judged : policy.safety.judge (.object answer.plan) (Run.report answer) with
  | error obstacle =>
    rw [judged] at refused
    cases refused
    exact ⟨fun _ => rfl, fun _ => rfl, fun none => absurd rfl (none obstacle)⟩
  | ok judgement =>
    refine ⟨fun ⟨_, stopped⟩ => (nomatch stopped), ?_⟩
    rw [judged] at refused
    cases judgement with
    | some rejection =>
      cases refused
      exact ⟨fun halved => (nomatch judged.symm.trans halved.accepted), fun _ _ => .declined⟩
    | none =>
      simp only at refused
      cases compiled : Run.compile policy answer.plan with
      | error failure =>
        rw [compiled] at refused
        cases refused
        refine ⟨fun halved => ?_, fun _ _ => explains_of_compile compiled⟩
        obtain ⟨sql, flaw, other, -⟩ := halved.flawed
        exact nomatch compiled.symm.trans other
      | ok sql =>
        rw [compiled] at refused
        simp only [queryKey] at refused
        cases flawed : Text.flaw? sql with
        | none =>
          rw [flawed] at refused
          cases refused
        | some flaw =>
          rw [flawed] at refused
          cases refused
          exact ⟨fun _ => rfl, fun _ whole => absurd ⟨judged, sql, flaw, compiled, flawed⟩ whole⟩

/-- Nothing came of a plan: the planner answered and no call failed, but no query was run, and none
was found answered. -/
structure Fruitless (made : List (Call × Reply)) (prompt : Value) (answer : PlannerAnswer) :
    Prop where
  /-- The planner answered. -/
  planned : (Call.plan prompt, Reply.planned answer) ∈ made
  /-- No call failed. -/
  smooth : ∀ call failure, (call, Reply.failed failure) ∉ made
  /-- No query was found answered. -/
  unanswered : ∀ hash known, (Call.findQuery hash, Reply.found (some known)) ∉ made
  /-- No query was run. -/
  unexecuted : ∀ sql reply, (Call.execute sql, reply) ∉ made

/-- A job of whose plan nothing came was refused with the planner called and nobody else. -/
theorem Fruitless.refused {policy : Policy} {answers : Answers} {jobId : String}
    {payload : Fields} {made : List (Call × Reply)} {outcome : Except Failure Value}
    {fault : Option Stage}
    (keeps : Keeps (script policy answers jobId payload) (verdict policy answers payload) made
      (.ended outcome) fault)
    (alive : outcome ≠ .error .cancelled) {prompt : Value} {answer : PlannerAnswer}
    (fruitless : Fruitless made prompt answer) :
    made = [(.plan prompt, .planned answer)] ∧ ∃ stage failure,
      preparation policy prompt answer = .error (stage, failure) ∧ outcome = .error failure := by
  obtain ⟨whole, ending⟩ : made = script policy answers jobId payload ∧
      outcome = (verdict policy answers payload).mapError Prod.snd := by
    cases keeps with
    | answered ending => exact ⟨rfl, by rw [ending]; rfl⟩
    | refused ending _ => exact ⟨rfl, by rw [ending]; rfl⟩
    | failed _ => exact absurd (List.mem_append_right _ List.mem_cons_self) (fruitless.smooth _ _)
    | abandoned _ => exact absurd rfl alive
  subst whole ending
  obtain ⟨planned, -, unanswered, unexecuted⟩ := fruitless
  unfold script at planned unanswered unexecuted ⊢
  unfold verdict
  cases given : asked payload with
  | error failure =>
    rw [given] at planned
    cases planned
  | ok pair =>
    obtain ⟨questionId, own⟩ := pair
    simp only [given, planCalls, planVerdict] at planned unanswered unexecuted ⊢
    cases prepared : preparation policy own answers.plan with
    | error refusal =>
      rw [prepared] at planned
      cases List.mem_singleton.mp planned
      exact ⟨rfl, refusal.1, refusal.2, prepared, rfl⟩
    | ok query =>
      -- A plan that becomes a query is looked up, and what is not found is run.
      simp only [prepared, lookupCalls] at unanswered unexecuted
      cases known : answers.known with
      | some entry =>
        refine absurd ?_ (unanswered query.hash entry)
        simp [known]
      | none =>
        refine absurd ?_ (unexecuted query.sql (.executed answers.execution))
        simp [known, missCalls]

end Pipeline

namespace Desk

open Pipeline (Fruitless Halved)

/-- The judgement of an answer of the planner comes to nothing: the planner did not abstain, the
fidelity is not below the threshold, and the judgement of the plan stalls. -/
structure Stalled (settings : Settings) (answer : PlannerAnswer) : Prop where
  /-- The planner did not abstain. -/
  willing : answer.abstain = false
  /-- The fidelity is not below the threshold. -/
  sure : (Number.float answer.fidelity).lt (.float settings.fidelityThreshold) = false
  /-- The judgement of the plan stalls. -/
  stalls : Plan.Safety.PlanStalls { threshold := .float settings.fidelityThreshold } answer.plan

/-- The judgement of an answer of the planner comes to nothing exactly if it stalls. -/
theorem stalled_iff {settings : Settings} {answer : PlannerAnswer} :
    (∃ obstacle, ({ threshold := .float settings.fidelityThreshold } : Plan.Safety).judge
      (.object answer.plan) (Run.report answer) = .error obstacle) ↔ Stalled settings answer := by
  rw [@Plan.Safety.judge_stops _ _ _ answer.fidelity _ rfl rfl]
  exact ⟨fun ⟨willing, sure, stalls⟩ => ⟨willing, sure, stalls⟩,
    fun ⟨willing, sure, stalls⟩ => ⟨willing, sure, stalls⟩⟩

/-- A job that ends with a failure that tells has failed with what it tells. -/
theorem failed_of_ended (job : Job) (more : Fields) (now : Micros) {failure : Failure}
    (tells : failure.Tells) :
    (Board.ended (job.noteAll more) now (.error failure)).status = .failed ∧
      (Board.ended (job.noteAll more) now (.error failure)).failedReason =
        some failure.safeMessage := by
  refine ⟨?_, rfl⟩
  simp only [Board.ended, Job.status, Jobs.statusOf, Option.getD_some, tells.said, if_false]

/-- A desk that has just opened follows the settings. -/
theorem policy_start {settings : Settings} {desk : Desk} (started : start settings = .ok desk) :
    desk.policy = { safety := { threshold := .float settings.fidelityThreshold } } := by
  obtain ⟨staffed, _, rfl⟩ := start_eq started
  rfl

/-- The judgement of an answer of the planner comes to nothing exactly if it stalls. And when the
run of a worker ends and nothing came of its plan, nobody but the planner was called, and the job has
failed with a reason that explains why, and not with the generic one, unless the judgement has
stalled or the query has no UTF-8 form. -/
theorem unanswered_jobs_explained {settings : Settings} {desk : Desk}
    (started : start settings = .ok desk) :
    (∀ answer, (∃ obstacle, ({ threshold := .float settings.fidelityThreshold } : Plan.Safety).judge
      (.object answer.plan) (Run.report answer) = .error obstacle) ↔ Stalled settings answer) ∧
    ∀ (happenings : Nat → Happening) (worker last seq : Nat) (jobType : String) (run : Run)
      (response : Remote.Response),
      (desk.history happenings last).board.Does worker jobType (.handling seq run) →
      happenings last = .act (.work (.worker worker) response) →
      (desk.history happenings (last + 1)).run? (.worker worker) = none →
        ∃ (first span : Nat) (begun : Run), first + span = last + 1 ∧
          (desk.history happenings first).run? (.worker worker) = some begun ∧
          begun.phase = .opening ∧ ∀ (prompt : Value) (answer : PlannerAnswer),
            Fruitless (desk.callsFrom happenings (.worker worker) first span) prompt answer →
              desk.callsFrom happenings (.worker worker) first span =
                  [(.plan prompt, .planned answer)] ∧
                ∃ (job : Job) (reason : String),
                  (desk.history happenings (last + 1)).board.job? jobType seq = some job ∧
                  job.status = .failed ∧ job.failedReason = some reason ∧
                  (Stalled settings answer ∨ Halved desk.policy answer →
                    reason = Failure.genericMessage) ∧
                  (¬Stalled settings answer → ¬Halved desk.policy answer →
                    Explains reason ∧ reason ≠ Failure.genericMessage) := by
  refine ⟨fun answer => stalled_iff, ?_⟩
  intro happenings worker last seq jobType run response does acts ends
  obtain ⟨first, span, begun, notes, outcome, job, whole, began, opening, plays, tells, -, -, more,
    ended⟩ := played_of_ended (sound_start started) (run?_start started) does acts ends
  refine ⟨first, span, begun, whole, began, opening, ?_⟩
  intro prompt answer fruitless
  obtain ⟨answers, fault, _, keeps, -⟩ := plays.kept
  rw [Run.ahead, Run.verdict, opening] at keeps
  obtain ⟨alone, stage, failure, refused, rfl⟩ :=
    fruitless.refused keeps fun same => (tells _ same).alive rfl
  obtain ⟨failed, reason⟩ := failed_of_ended job more (desk.history happenings last).now
    (tells failure rfl)
  obtain ⟨generic, vague, explained⟩ := Pipeline.preparation_refusal refused
  have stalls : (∃ obstacle, desk.policy.safety.judge (.object answer.plan) (Run.report answer) =
      .error obstacle) ↔ Stalled settings answer := by
    rw [policy_start started]
    exact stalled_iff
  refine ⟨alone, _, failure.safeMessage, ended, failed, reason,
    fun stopped => stopped.elim (generic ∘ stalls.mpr) vague, fun clear whole => ?_⟩
  have explains :=
    explained (fun obstacle stopped => clear (stalls.mp ⟨obstacle, stopped⟩)) whole
  exact ⟨explains, explains.ne_generic⟩

/-- The answer of a planner that will not plan. -/
def declinedText : String := "\x7b\"plan\": \x7b\x7d, \"fidelity\": 0, \"abstain\": true\x7d"

/-- What is read of the answer of a planner that will not plan. -/
def declinedPlan : PlannerAnswer :=
  { plan := [], title := some "How many?", fidelity := .zero false, abstain := true }

/-- The job of somebody whose planner will not plan fails with a reason that explains why. -/
theorem unanswered_jobs_explained_declined : ∃ (desk : Desk) (jobType : String) (seq : Nat)
    (job : Job) (reason : String), start smallService = .ok desk ∧
      (desk.history (answeredWith declinedText) 8).board.job? jobType seq = some job ∧
      job.status = .failed ∧ job.failedReason = some reason ∧ Explains reason ∧
        reason ≠ Failure.genericMessage := by
  obtain ⟨desk, started, passes⟩ := @exists_start smallService (fun desk =>
    let phases := fun moment =>
      ((desk.history (answeredWith declinedText) moment).run? (.worker 0)).map Run.phase
    desk.callsFrom (answeredWith declinedText) (.worker 0) 6 2 =
        [(.plan (.text "How many?"), .planned declinedPlan)] &&
      (List.range 9).all (fun moment => phases moment = some .opening → moment = 6) &&
      phases 7 = some .planning && phases 8 = none) (by decide +kernel)
  simp only [Bool.and_eq_true, decide_eq_true_eq, List.all_eq_true, List.mem_range,
    Option.map_eq_some_iff, Option.map_eq_none_iff] at passes
  obtain ⟨⟨⟨made, once⟩, run, running, -⟩, ends⟩ := passes
  obtain ⟨jobType, seq, does⟩ := run?_worker.mp running
  obtain ⟨first, span, begun, whole, began, opening, explained⟩ :=
    (unanswered_jobs_explained started).2 _ _ _ _ _ _ _ does rfl ends
  -- The run has begun at the moment when the worker took the job.
  obtain rfl := once first (by omega) ⟨begun, began, opening⟩
  obtain rfl : span = 2 := by omega
  have fruitless : Fruitless (desk.callsFrom (answeredWith declinedText) (.worker 0) 6 2)
      (.text "How many?") declinedPlan := by
    rw [made]
    constructor <;> simp
  obtain ⟨-, job, reason, found, failed, given, -, told⟩ := explained _ _ fruitless
  have clear : ¬Stalled smallService declinedPlan := fun stalled => by cases stalled.willing
  have whole : ¬Halved desk.policy declinedPlan := fun halved => by
    have accepted := halved.accepted
    rw [policy_start started] at accepted
    cases accepted
  exact ⟨desk, jobType, seq, job, reason, started, found, failed, given, told clear whole⟩

/-- The answer of a planner that writes a number in the place of the common tables. -/
def unsearchableText : String :=
  "\x7b\"plan\": \x7b\"main_query\": \x7b\"table\": \"events\", \"columns\": [\"type\"]" ++
    "\x7d, \"ctes\": 5\x7d, \"fidelity\": 1\x7d"

/-- The job of somebody whose planner writes a number in the place of the common tables fails with
the generic reason, though the planner has answered and nobody else was called. -/
theorem unsearchable_plan_unexplained : ∃ desk : Desk, start smallService = .ok desk ∧
    (∃ answer, desk.callsFrom (answeredWith unsearchableText) (.worker 0) 6 2 =
      [(.plan (.text "How many?"), .planned answer)]) ∧
    ∃ job, (desk.history (answeredWith unsearchableText) 8).board.job? questionJobType 1 =
        some job ∧
      job.status = .failed ∧ job.failedReason = some Failure.genericMessage := by
  obtain ⟨desk, started, passes⟩ := @exists_start smallService (fun desk =>
    desk.callsFrom (answeredWith unsearchableText) (.worker 0) 6 2 =
        [(.plan (.text "How many?"), .planned
          { plan := [("main_query", .object [("table", .text "events"),
              ("columns", .list [.text "type"])]), ("ctes", .int 5)]
            title := some "How many?", fidelity := .ofQuotient false 1 1, abstain := false })] &&
      ((desk.history (answeredWith unsearchableText) 8).board.job? questionJobType 1).any fun job =>
        job.status = .failed && job.failedReason = some Failure.genericMessage) (by decide +kernel)
  simp only [Bool.and_eq_true, decide_eq_true_eq, Option.any_eq_true] at passes
  obtain ⟨made, job, found, failed, reason⟩ := passes
  exact ⟨desk, started, ⟨_, made⟩, job, found, failed, reason⟩

end Desk

end QuestionDesk
