import QuestionDesk.Proofs.Desk.Chronicles
import QuestionDesk.Proofs.Desk.Moves
import QuestionDesk.Proofs.Remote.Answers

/-!
# What runs know

What a run knows of its question it has from the payload of its job, and once it has its plan the
prompt has been sent to the planner. A prompt that was sent has a UTF-8 form, so a run whose prompt
is a text finds the fingerprint of the prompt when it needs it. All jobs on the board ask texts; one
that is handed in may ask anything.
-/
namespace QuestionDesk

open Jobs (Board)
open Pipeline (Phase Run Runner)

/-- What a payload asks is a text. -/
def Pipeline.Asks (payload : Fields) : Prop :=
  ∀ prompt, payload.get? "user_prompt" = some prompt → ∃ text, prompt = .text text

namespace Pipeline.Run

/-- What a run knows once it has looked at its job stands in the payload, and once it has its plan
its prompt has been sent. -/
structure Informed (run : Run) : Prop where
  /-- The question is that of the payload. -/
  named : run.phase ≠ .opening → run.payload.get? "question_id" = some run.questionId
  /-- The prompt is that of the payload. -/
  asked : run.phase ≠ .opening → run.payload.get? "user_prompt" = some run.prompt
  /-- The prompt has been sent. -/
  sent : run.phase ≠ .opening → run.phase ≠ .planning → ∃ base request,
    Remote.Planner.planRequest? base run.prompt = .ok request

/-- A run that has not looked at its job knows nothing that is not in the payload. -/
theorem Informed.of_opening {run : Run} (phase : run.phase = .opening) : Informed run where
  named begun := absurd phase begun
  asked begun := absurd phase begun
  sent begun := absurd phase begun

/-- A prompt that is a text and can be sent has a UTF-8 form. -/
theorem flaw?_of_planRequest? {base prompt : String} {request : Remote.Request}
    (sendable : Remote.Planner.planRequest? base (.text prompt) = .ok request) :
    Text.flaw? prompt = none := by
  unfold Remote.Planner.planRequest? at sendable
  cases refusal : (Remote.Planner.planRequest base (.text prompt)).refusal? with
  | some failure =>
    simp only [refusal] at sendable
    cases sendable
  | none =>
    have encodable := (Remote.Request.refusal?_eq_none_iff.mp refusal).2.2
    exact encodable.2.1

/-- A run that has its plan finds the fingerprint of a prompt that is a text. -/
theorem Informed.keyed {run : Run} (informed : Informed run) (begun : run.phase ≠ .opening)
    (planned : run.phase ≠ .planning) {prompt : String} (text : run.prompt = .text prompt) :
    keyFor run.prompt = .ok (promptFingerprint prompt) := by
  obtain ⟨base, request, sendable⟩ := informed.sent begun planned
  rw [text] at sendable ⊢
  rw [keyFor, promptKey_eq_ok (flaw?_of_planRequest? sendable)]

end Pipeline.Run

namespace Desk

/-- A plan that is read was asked for. -/
theorem sendable_of_readPlan {base : String} {prompt : Value} {response : Remote.Response}
    {answer : Remote.PlannerAnswer}
    (read : Remote.Planner.readPlan base prompt response = .ok answer) :
    ∃ request, Remote.Planner.planRequest? base prompt = .ok request := by
  unfold Remote.Planner.readPlan at read
  cases asked : Remote.Planner.planRequest? base prompt with
  | error failure =>
    rw [asked] at read
    cases read
  | ok request => exact ⟨request, rfl⟩

/-- A run that goes on keeps its job, and all that it knows of it once it has looked. -/
theorem Passage.keeps {desk between : Desk} {runner : Runner} {run next : Run}
    {response : Remote.Response} {notes : Fields}
    (passage : desk.Passage runner run response (.goOn next notes) between) :
    next.jobId = run.jobId ∧ next.payload = run.payload ∧ next.phase ≠ .opening ∧
      (run.phase ≠ .opening → next.questionId = run.questionId ∧ next.prompt = run.prompt) := by
  cases passage with
  | opened phase => exact ⟨rfl, rfl, nofun, fun begun => absurd phase begun⟩
  | _ => exact ⟨rfl, rfl, nofun, fun _ => ⟨rfl, rfl⟩⟩

/-- A run that goes on stays informed. -/
theorem Passage.informed {desk between : Desk} {runner : Runner} {run next : Run}
    {response : Remote.Response} {notes : Fields}
    (passage : desk.Passage runner run response (.goOn next notes) between)
    (informed : run.Informed) : next.Informed := by
  cases passage with
  | opened phase named asked => exact ⟨fun _ => named, fun _ => asked, fun _ => absurd rfl⟩
  | planned phase read =>
    have begun : run.phase ≠ .opening := by simp [phase]
    exact ⟨fun _ => informed.named begun, fun _ => informed.asked begun,
      fun _ _ => ⟨_, sendable_of_readPlan read⟩⟩
  | admitted phase | unknown phase | recognised phase | duplicated phase | removed phase
  | saved phase | executed phase | charted phase =>
    have begun : run.phase ≠ .opening := by simp [phase]
    have planned : run.phase ≠ .planning := by simp [phase]
    exact ⟨fun _ => informed.named begun, fun _ => informed.asked begun,
      fun _ _ => informed.sent begun planned⟩

/-- Every job on the board is about a question and its prompt. -/
def AllPosed (desk : Desk) : Prop :=
  ∀ jobType seq job, desk.board.job? jobType seq = some job →
    ∃ questionId prompt, job.payload = payload questionId prompt

/-- Whatever happens, every job on the board stays about a question and its prompt. -/
theorem AllPosed.meet {desk : Desk} (posed : desk.AllPosed) (sound : desk.board.Sound)
    (happening : Happening) : (desk.meet happening).AllPosed := by
  cases happening with
  | act action => exact fun _ _ _ found => (desk.follows_act action).keeps_posed sound posed found
  | rewriteStore store | rewriteDatabase database => exact posed

end Desk

end QuestionDesk
