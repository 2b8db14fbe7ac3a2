import QuestionDesk.Pipeline.Run
import QuestionDesk.Proofs.Jobs.Masks
import QuestionDesk.Proofs.Remote.Answers

/-!
# Muted runs

To mute is to take away every text of a failure that must not be shown: the messages of failures
that are not user-facing, and what the logs of runs and their summaries tell. What a muted run does
next is, once muted, what the run does next.
-/
namespace QuestionDesk

open Jobs (Mask)
open Pipeline (Next Reply Run)

/-! ## Failures -/

namespace Failure

/-- A failure without its message, unless the message may be shown. Of any other failure it is only
left whether it is one of the service and whether the work was cancelled. -/
def muted (failure : Failure) : Failure :=
  if failure.isUserFacing then failure
  else if failure.isService then .service ""
  else if failure = .cancelled then .cancelled
  else .other "" ""

/-- A muted failure is user-facing if the failure is. -/
theorem isUserFacing_muted (failure : Failure) :
    failure.muted.isUserFacing = failure.isUserFacing := by
  cases failure <;> rfl

/-- A muted failure is one of the service if the failure is. -/
theorem isService_muted (failure : Failure) : failure.muted.isService = failure.isService := by
  cases failure <;> rfl

/-- What may leave the process of a failure is left when it is muted. -/
theorem safeMessage_muted (failure : Failure) :
    failure.muted.safeMessage = failure.safeMessage := by
  cases failure <;> rfl

/-- Muting tells no cancelled work from a failure. -/
theorem muted_eq_cancelled (failure : Failure) :
    failure.muted = .cancelled ↔ failure = .cancelled := by
  cases failure <;> simp [muted, isUserFacing, isService]

/-- Muting a failure again changes nothing. -/
theorem muted_muted (failure : Failure) : failure.muted.muted = failure.muted := by
  cases failure <;> rfl

/-- Two failures are the same once muted if they are the same, or if neither may be shown nor
stands for cancelled work and both or neither are failures of the service. -/
theorem muted_eq_iff (failure other : Failure) :
    failure.muted = other.muted ↔ failure = other ∨
      (failure.isUserFacing = false ∧ other.isUserFacing = false ∧
        failure.isService = other.isService ∧ failure ≠ .cancelled ∧ other ≠ .cancelled) := by
  constructor
  · intro same
    have shown : failure.isUserFacing = other.isUserFacing := by
      rw [← isUserFacing_muted, same, isUserFacing_muted]
    have served : failure.isService = other.isService := by
      rw [← isService_muted, same, isService_muted]
    have cancelled : failure = .cancelled ↔ other = .cancelled := by
      rw [← muted_eq_cancelled, same, muted_eq_cancelled]
    cases facing : failure.isUserFacing with
    | true =>
      left
      rwa [muted, muted, if_pos facing, if_pos (shown ▸ facing)] at same
    | false =>
      by_cases cut : failure = .cancelled
      · exact Or.inl (cut.trans (cancelled.mp cut).symm)
      · exact Or.inr ⟨rfl, shown ▸ facing, served, cut, fun other => cut (cancelled.mpr other)⟩
  · rintro (rfl | ⟨facing, facing', served, cut, cut'⟩)
    · rfl
    · simp [muted, facing, facing', served, cut, cut']

end Failure

/-- An outcome whose failure is muted. -/
def mutedOutcome {α : Type} (outcome : Except Failure α) : Except Failure α :=
  outcome.mapError Failure.muted

/-- Muting an outcome again changes nothing. -/
theorem mutedOutcome_mutedOutcome {α : Type} (outcome : Except Failure α) :
    mutedOutcome (mutedOutcome outcome) = mutedOutcome outcome := by
  cases outcome with
  | error failure => exact congrArg Except.error failure.muted_muted
  | ok value => rfl

/-- Outcomes that are the same once muted give the same value, or fail in ways that are the same
once muted. -/
theorem mutedOutcome_eq {α : Type} {one other : Except Failure α}
    (same : mutedOutcome one = mutedOutcome other) :
    (∃ value, one = .ok value ∧ other = .ok value) ∨
      ∃ failure reason : Failure, one = .error failure ∧ other = .error reason ∧
        failure.muted = reason.muted := by
  cases one with
  | error failure =>
    cases other with
    | error reason => exact Or.inr ⟨failure, reason, rfl, rfl, Except.error.inj same⟩
    | ok value => cases same
  | ok value =>
    cases other with
    | error reason => cases same
    | ok given => exact Or.inl ⟨value, rfl, congrArg _ (Except.ok.inj same).symm⟩

/-! ## Responses -/

/-- A response whose body nests too deep. -/
def Remote.deepResponse : Remote.Response := .answer 200 (String.ofList (List.replicate 2000 '['))

/-- The body of that response nests too deep. -/
theorem Remote.nestsTooDeep_deepResponse : Remote.deepResponse.NestsTooDeep .list :=
  ⟨200, _, rfl, by decide, Json.readBody_brackets (by decide)⟩

/-- A response without what it says where no document is in it, but for whether it nests too deep.
-/
def Remote.Response.muted (response : Remote.Response) : Remote.Response :=
  match response.document "" with
  | .ok _ => response
  | .error failure => if failure.isDepth then Remote.deepResponse else .unreached .refused ""

namespace Remote.Response

/-- A muted response is the response, or neither holds a document and both fail in the same way once
muted. -/
theorem document_cases (response : Remote.Response) : response.muted = response ∨
    ∀ url, ∃ failure reason : Failure, response.muted.document url = .error failure ∧
      response.document url = .error reason ∧ failure.muted = reason.muted ∧
        failure.isDepth = reason.isDepth := by
  unfold muted
  cases given : response.document "" with
  | ok document => exact Or.inl rfl
  | error failure =>
    refine Or.inr fun url => ?_
    rcases document_eq_error given with ⟨outage, message, rfl⟩ | ⟨message, rfl⟩ |
      ⟨status, body, refusal, rfl, success, unread, rfl⟩
    · cases response with
      | unreached outage message => exact ⟨_, _, rfl, rfl, rfl, rfl⟩
      | answer status body =>
        simp only [document] at given
        split at given
        · obtain ⟨_, -, other⟩ := error_of_mapError given
          cases other
        · cases given
    · cases response with
      | unreached outage message => cases given
      | answer status body =>
        simp only [document] at given ⊢
        split at given
        · obtain ⟨_, -, other⟩ := error_of_mapError given
          cases other
        · next failed => exact ⟨_, _, rfl, if_neg failed, rfl, rfl⟩
    · have reads : ∀ url, document (.answer status body) url = .error (.unreadable refusal) := by
        intro url
        rw [document, if_pos (isSuccess_iff.mpr success), unread]
        rfl
      cases refusal with
      | tooDeep kind => exact ⟨_, _, nestsTooDeep_deepResponse.document_eq url, reads url, rfl, rfl⟩
      | malformed problem line column position => exact ⟨_, _, rfl, reads url, rfl, rfl⟩
      | tooLong digits => exact ⟨_, _, rfl, reads url, rfl, rfl⟩

end Remote.Response

/-! ## Runs -/

namespace Pipeline.Run

/-- Notes without the summary of the log. -/
def unsummed (notes : Fields) : Fields := Keyed.without notes summaryNote

/-- Writing the summary leaves the other notes as they are, and writing one of them does not touch
the summary. -/
theorem unsummed_set (notes : Fields) (name : String) (value : Value) :
    unsummed (notes.set name value) =
      if name = summaryNote then unsummed notes else (unsummed notes).set name value := by
  induction notes with
  | nil =>
    by_cases summary : name = summaryNote <;>
      simp [unsummed, Keyed.without, Fields.set, summary]
  | cons field rest before =>
    simp only [unsummed, Keyed.without] at before ⊢
    by_cases here : field.1 = name
    · by_cases summary : name = summaryNote <;> simp [Fields.set, here, summary]
    · by_cases summary : field.1 = summaryNote
      · have apart : name ≠ summaryNote := fun same => here (summary.trans same.symm)
        rw [if_neg apart] at before ⊢
        rw [Fields.set, if_neg here]
        simp only [List.filter_cons, summary, bne_self_eq_false, Bool.false_eq_true, if_false,
          before]
      · simp only [Fields.set, here, if_false, List.filter_cons, bne_iff_ne, ne_eq, summary,
          not_false_eq_true, if_true, before]
        split <;> rfl

/-- What is left of notes that are written behind others. -/
theorem unsummed_written (earlier more : Fields) :
    unsummed (Jobs.written earlier more) = Jobs.written (unsummed earlier) (unsummed more) := by
  induction more generalizing earlier with
  | nil => rfl
  | cons field rest before =>
    have step := before (earlier.set field.1 field.2)
    rw [unsummed_set] at step
    by_cases summary : field.1 = summaryNote
    · rw [if_pos summary] at step
      simpa [unsummed, Keyed.without, summary] using step
    · rw [if_neg summary] at step
      simpa [unsummed, Keyed.without, summary] using step

/-- A note that is not the summary is left. -/
theorem get_unsummed (notes : Fields) {name : String} (other : name ≠ summaryNote) :
    (unsummed notes).get name = notes.get name :=
  congrArg (Option.getD · Value.null) (Keyed.find?_without_ne notes other)

/-- A run without its log. -/
def muted (run : Run) : Run := { run with log := { run.log with entries := [] } }

end Pipeline.Run

/-- A reply whose failure is muted. -/
def Pipeline.Reply.muted : Reply → Reply
  | .failed failure => .failed failure.muted
  | reply => reply

/-- What a run does next, with its log, its summary and its failure muted. -/
def Pipeline.Next.muted : Next → Next
  | .goOn run notes => .goOn run.muted (Run.unsummed notes)
  | .ended outcome notes => .ended (mutedOutcome outcome) (Run.unsummed notes)

namespace Pipeline.Run

variable (run : Run) (now : Micros)

/-- The last note of a run is not left. -/
theorem finish_muted (outcome : Except Failure Value) (notes : Fields) :
    (run.finish now outcome notes).muted =
      .ended (mutedOutcome outcome) (unsummed notes) := by
  simp [finish, Next.muted, unsummed, Keyed.without]

/-- A run that fails tells nothing that is left. -/
theorem fail_muted (stage : Stage) (failure : Failure) (notes : Fields) :
    (run.fail now stage failure notes).muted = .ended (.error failure.muted) (unsummed notes) :=
  finish_muted _ _ _ _

/-- A muted run looks at its job in the same way. -/
theorem opened_muted : (run.opened now).muted = (run.muted.opened now).muted := by
  have payload : run.muted.payload = run.payload := rfl
  simp only [opened, payload]
  split
  · rfl
  · simp only [fail_muted]

/-- A muted run is admitted in the same way. -/
theorem admitted_muted : run.admitted.muted = run.muted.admitted.muted := by
  have phase : run.muted.phase = run.phase := rfl
  simp only [admitted, phase]
  split <;> rfl

/-- A muted run turns its plan into a query in the same way. -/
theorem planned_muted (policy : Policy) (answer : Remote.PlannerAnswer) :
    (planned policy run now answer).muted = (planned policy run.muted now answer).muted := by
  have prompt : run.muted.prompt = run.prompt := rfl
  simp only [planned, prompt]
  cases policy.safety.judge (.object answer.plan) (report answer) with
  | error obstacle => simp only [fail_muted]
  | ok verdict =>
    cases verdict with
    | some rejection => simp only [fail_muted]
    | none =>
      cases compile policy answer.plan with
      | error failure => simp only [fail_muted]
      | ok sql =>
        dsimp only
        cases queryKey sql with
        | error failure => simp only [fail_muted]
        | ok hash => rfl

/-- A muted run points its prompt in the same way. -/
theorem point_muted (prepared : Prepared) (known : Cache.QueryEntry) :
    (run.point now prepared known).muted = (run.muted.point now prepared known).muted := by
  have prompt : run.muted.prompt = run.prompt := rfl
  simp only [point, prompt]
  cases keyFor run.prompt with
  | error failure => simp only [fail_muted]
  | ok key => rfl

/-- A muted run learns in the same way whether its query has been answered. -/
theorem lookedUp_muted (prepared : Prepared) (known : Option Cache.QueryEntry) :
    (run.lookedUp now prepared known).muted = (run.muted.lookedUp now prepared known).muted := by
  cases known with
  | none => rfl
  | some known =>
    have question : run.muted.questionId = run.questionId := rfl
    simp only [lookedUp, question]
    split
    · rw [point_muted, point_muted (run.muted.logged _ _ _)]
      rfl
    · rfl

/-- A muted run goes on in the same way with a muted reply. -/
theorem resume_muted (policy : Policy) (reply : Reply) :
    (resume policy run now reply).muted = (resume policy run.muted now reply.muted).muted := by
  have phase : run.muted.phase = run.phase := rfl
  cases reply with
  | failed failure =>
    have fails : ∀ run : Run, ∀ failure,
        resume policy run now (.failed failure) = run.fail now run.phase.stage failure [] :=
      fun run failure => by simp only [resume]
    rw [Reply.muted, fails, fails, fail_muted, fail_muted, failure.muted_muted]
  | _ =>
    simp only [resume, phase, Reply.muted]
    cases run.phase <;>
      first
      | rfl
      | exact planned_muted run now policy _
      | exact lookedUp_muted run now _ _
      | exact point_muted run now _ _

end Pipeline.Run

/-- What is taken away from a board: the summaries of runs that have ended and the logs of those
that go on. -/
def hush : Mask Run where
  notes := Run.unsummed
  progress := Run.muted
  notes_nil := rfl
  notes_written := Run.unsummed_written
  notes_notes fields := by simp [Run.unsummed, Keyed.without]
  progress_progress _ := rfl

end QuestionDesk
