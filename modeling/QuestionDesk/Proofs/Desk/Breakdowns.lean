import QuestionDesk.Proofs.Desk.History
import QuestionDesk.Proofs.Desk.Muting

/-!
# Breakdowns

A call can raise any failure, wherever one is made: in a visit, in a stage of a run, in a listener,
in the promoter. A call that fails by itself raises the failure that it gives. What comes of a
breakdown is the same at a muted desk.
-/
namespace QuestionDesk

open Jobs (Board Job)
open Pipeline (Call Run Runner Stage)

/-! ## Calls that raise failures -/

/-- Where a call raises a failure. -/
inductive Spot where
  /-- A visit that looks something up or stores something. -/
  | visit (number : Nat)
  /-- A stage of a run, which has noted something on its job since its last call. -/
  | run (runner : Runner) (stage : Stage) (notes : Fields)
  /-- The listener that a worker tells. -/
  | listener (worker : Nat)
  /-- The promoter. -/
  | promoter

/-- A failure that is raised by a call. -/
structure Breakdown where
  /-- Where the call is made. -/
  spot : Spot
  /-- The failure. -/
  failure : Failure
  /-- Whether what was asked for has been done all the same. -/
  done : Bool

/-- How far a visit has come once its call has raised a failure. Nobody is told that storing that a
question was asked has failed, if the failure is one of the service. -/
def Visit.failed (visit : Visit) (failure : Failure) : VisitPhase :=
  match visit.phase with
  | .ended outcome => .ended outcome
  | .counting ticket => .ended (if failure.isService then .ok ticket else .error failure)
  | _ => .ended (.error failure)

namespace Desk

/-- The listener that a worker tells about a job of a question. -/
def hearing? (desk : Desk) (worker : Nat) : Option (Listener × Job) :=
  (desk.board.telling? worker).filter (·.2.jobType = questionJobType)

/-- What the call at a spot does to the store and the database. -/
def attempted (desk : Desk) : Spot → Desk
  | .visit number =>
    match desk.visits[number]? with
    | some visit =>
      let after := (desk.visitStep visit).2
      { desk with store := after.store, database := after.database }
    | none => desk
  | .run runner _ _ =>
    match (desk.run? runner).bind Run.call? with
    | some call => (desk.perform call (.unreached .refused "")).2
    | none => desk
  | .listener worker =>
    match desk.hearing? worker with
    | some (listener, job) => (desk.store? listener job).2
    | none => desk
  | .promoter =>
    if desk.promoter.isDue desk.now then { desk with database := desk.promote.database } else desk

/-- What becomes of a failure that is raised at a spot. -/
def raised (desk : Desk) (spot : Spot) (failure : Failure) : Desk :=
  match spot with
  | .visit number =>
    match desk.visits[number]? with
    | some visit => desk.withPhase number (visit.failed failure)
    | none => desk
  | .run runner stage notes =>
    match desk.run? runner with
    | some run => desk.follow runner run (run.fail desk.now stage failure notes)
    | none => desk
  | .listener worker =>
    match desk.hearing? worker with
    | some (_, job) =>
      let told := desk.announce job
      { told with board := told.board.notified worker (.error failure) }
    | none => desk
  | .promoter =>
    if desk.promoter.isDue desk.now then
      { desk with promoter := desk.promoter.afterRun desk.now (.error failure) }
    else desk

/-- The desk after a call has raised a failure. -/
def breakDown (desk : Desk) (breakdown : Breakdown) : Desk :=
  (if breakdown.done then desk.attempted breakdown.spot else desk).raised breakdown.spot
    breakdown.failure

/-! ## Calls that fail by themselves -/

section Failing

variable {desk : Desk} {failure : Failure}

/-- A visit whose call fails has changed the store and the database alone. -/
theorem visitStep_failed {visit : Visit}
    (fails : (desk.visitStep visit).1 = .ended (.error failure)) :
    visit.failed failure = .ended (.error failure) ∧ (desk.visitStep visit).2 =
      { desk with
        store := (desk.visitStep visit).2.store
        database := (desk.visitStep visit).2.database } := by
  obtain ⟨prompt, source, phase⟩ := visit
  cases phase with
  | counting ticket => cases fails
  | ended outcome => exact ⟨fails, rfl⟩
  | remembering ticket =>
    refine ⟨rfl, ?_⟩
    simp only [visitStep]
    split <;> rfl
  | lookingUp =>
    refine ⟨rfl, ?_⟩
    simp only [visitStep] at fails ⊢
    split at fails
    · rfl
    · split at fails
      · next found usable =>
        simp only [ticketed] at fails
        split at fails <;> cases fails
      · cases fails
  | creating questionId | recording ticket =>
    refine ⟨rfl, ?_⟩
    simp only [visitStep] at fails ⊢
    split at fails
    · rfl
    · cases fails

/-- A visit whose call fails breaks down with that failure. -/
theorem visit_eq_breakDown {number : Nat} {visit : Visit}
    (found : desk.visits[number]? = some visit)
    (fails : (desk.visitStep visit).1 = .ended (.error failure)) :
    desk.visit number = desk.breakDown ⟨.visit number, failure, true⟩ := by
  obtain ⟨phase, changes⟩ := visitStep_failed fails
  simp only [Desk.visit, found, fails, breakDown, if_true, attempted, raised, phase]
  rw [changes]
  rfl

/-- A run whose call fails breaks down with that failure. -/
theorem work_eq_breakDown {runner : Runner} {run : Run} {call : Call} {response : Remote.Response}
    (running : desk.run? runner = some run) (calls : run.call? = some call)
    (fails : (desk.perform call response).1 = .failed failure) :
    desk.work runner response = desk.breakDown ⟨.run runner run.phase.stage [], failure, true⟩ := by
  have same : (desk.perform call (.unreached .refused "")).2 = (desk.perform call response).2 := by
    cases call <;> rfl
  have runs : (desk.perform call response).2.run? runner = some run := by
    rw [← running]
    cases call with
    | rememberPrompt fingerprint entry | rememberQuery hash entry =>
      simp only [perform]
      split <;> rfl
    | _ => rfl
  rw [work_of_call running calls, fails]
  simp only [breakDown, if_true, attempted, running, Option.bind_some, calls, same, raised, runs]
  simp only [Run.resume]

/-- A listener that fails breaks down with that failure. -/
theorem tell_eq_breakDown {worker : Nat} {listener : Listener} {job : Job}
    (hears : desk.hearing? worker = some (listener, job))
    (fails : (desk.hear listener job).1 = .error failure) :
    desk.tell worker = desk.breakDown ⟨.listener worker, failure, true⟩ := by
  obtain ⟨telling, own⟩ := Option.filter_eq_some_iff.mp hears
  obtain ⟨database, stored⟩ := desk.store?_eq listener job
  have still : (desk.store? listener job).2.hearing? worker = some (listener, job) := by
    rw [stored]
    exact hears
  have heard : desk.hear listener job =
      ((desk.store? listener job).1, (desk.store? listener job).2.announce job) :=
    if_pos (of_decide_eq_true own)
  rw [heard] at fails
  simp only [tell, telling, heard, show (desk.store? listener job).1 = .error failure from fails,
    breakDown, if_true, attempted, hears, raised, still]

/-- A run of the promoter that fails breaks down with that failure. -/
theorem promote_eq_breakDown (due : desk.promoter.isDue desk.now = true)
    (fails : (desk.database.promote desk.now desk.promoter.threshold
      desk.promoter.windowHours).1 = .error failure) :
    desk.promote = desk.breakDown ⟨.promoter, failure, true⟩ := by
  simp only [promote, due, if_true, breakDown, attempted, raised, fails]

end Failing

end Desk

/-! ## Muting -/

/-- A spot, muted. -/
def Spot.muted : Spot → Spot
  | .run runner stage notes => .run runner stage (Run.unsummed notes)
  | spot => spot

/-- A breakdown without the text of its failure, unless it may be shown. -/
def Breakdown.muted (breakdown : Breakdown) : Breakdown :=
  { breakdown with spot := breakdown.spot.muted, failure := breakdown.failure.muted }

/-- Something that happens to a desk, muted. -/
def Happening.muted : Happening → Happening
  | .act action => .act action.muted
  | happening => happening

namespace Desk

variable (desk : Desk)

/-- The listener that a worker of a muted desk tells. -/
theorem hearing?_muted (worker : Nat) :
    desk.muted.hearing? worker =
      (desk.hearing? worker).map fun (listener, job) => (listener, job.masked hush) := by
  rw [hearing?, hearing?, telling?_muted, Option.filter_map]
  rfl

/-- A call does the same to the store and the database at a muted desk. -/
theorem attempted_muted (spot : Spot) :
    (desk.attempted spot).muted = desk.muted.attempted spot.muted := by
  cases spot with
  | visit number =>
    simp only [attempted, Spot.muted, visit?_muted]
    cases desk.visits[number]? with
    | none => rfl
    | some visit =>
      simp only [Option.map_some, (visitStep_muted desk visit).2]
      rfl
  | run runner stage notes =>
    simp only [attempted, Spot.muted, run?_muted]
    rcases desk.run? runner with _ | run
    · rfl
    · have calls : run.muted.call? = run.call? := rfl
      simp only [Option.map_some, Option.bind_some, calls]
      cases run.call? with
      | none => rfl
      | some call => exact (perform_muted desk call (.unreached .refused "")).2.symm
  | listener worker =>
    simp only [attempted, Spot.muted, hearing?_muted]
    rcases desk.hearing? worker with _ | ⟨listener, job⟩
    · rfl
    · simp only [Option.map_some, store?_muted]
  | promoter =>
    simp only [attempted, Spot.muted, promote, isDue_muted]
    split <;> rfl

/-- How far a muted visit has come once its call has raised a muted failure. -/
theorem failed_muted (visit : Visit) (failure : Failure) :
    (visit.muted.failed failure.muted).muted = (visit.failed failure).muted := by
  obtain ⟨prompt, source, phase⟩ := visit
  have fails : mutedOutcome (.error failure.muted : Except Failure Ticket) =
      mutedOutcome (.error failure) := congrArg Except.error failure.muted_muted
  cases phase with
  | ended outcome => exact congrArg VisitPhase.ended (mutedOutcome_mutedOutcome outcome)
  | counting ticket =>
    simp only [Visit.failed, Visit.muted, VisitPhase.muted, failure.isService_muted]
    split
    · rfl
    · rw [fails]
  | _ => exact congrArg VisitPhase.ended fails

/-- Whether a listener failed, and not with which text, decides how its worker goes on. -/
theorem notified_error_muted (board : Board Run Listener) (worker : Nat) (failure : Failure) :
    board.notified worker (.error failure.muted) = board.notified worker (.error failure) := by
  cases failure <;> rfl

/-- A raised failure has the same consequences at a muted desk. -/
theorem raised_muted (spot : Spot) (failure : Failure) :
    (desk.raised spot failure).muted = (desk.muted.raised spot.muted failure.muted).muted := by
  cases spot with
  | visit number =>
    simp only [raised, Spot.muted, visit?_muted]
    cases desk.visits[number]? with
    | none => exact (muted_muted desk).symm
    | some visit =>
      simp only [Option.map_some]
      rw [withPhase_muted, withPhase_muted, muted_muted, failed_muted]
  | run runner stage notes =>
    simp only [raised, Spot.muted, run?_muted]
    cases desk.run? runner with
    | none => exact (muted_muted desk).symm
    | some run =>
      simp only [Option.map_some]
      rw [follow_muted, follow_muted, muted_muted, Run.fail_muted, Run.fail_muted,
        failure.muted_muted, show Run.unsummed (Run.unsummed notes) = _ from hush.notes_notes notes]
      rfl
  | listener worker =>
    simp only [raised, Spot.muted, hearing?_muted]
    rcases desk.hearing? worker with _ | ⟨listener, job⟩
    · exact (muted_muted desk).symm
    · simp only [Option.map_some, notified_error_muted, ← announce_muted]
      exact muted_of_eq (congrArg (fun board => { (desk.announce job).muted with board })
        (Jobs.Board.notified_masked hush _ worker _))
  | promoter =>
    simp only [raised, Spot.muted, isDue_muted]
    split
    · exact promoted_muted desk desk.database _ _ (congrArg Except.error failure.muted_muted.symm)
    · exact (muted_muted desk).symm

/-- A call that raises a failure has the same consequences at a muted desk. -/
theorem breakDown_muted (breakdown : Breakdown) :
    (desk.breakDown breakdown).muted = (desk.muted.breakDown breakdown.muted).muted := by
  obtain ⟨spot, failure, done⟩ := breakdown
  cases done with
  | false => exact raised_muted desk spot failure
  | true =>
    have tried := attempted_muted desk spot
    simp only [breakDown, Breakdown.muted, if_true]
    rw [raised_muted, tried]

/-- Whatever happens to a desk happens in the same way to the muted desk. -/
theorem meet_muted (happening : Happening) :
    (desk.meet happening).muted = (desk.muted.meet happening.muted).muted := by
  cases happening with
  | act action => exact act_muted desk action
  | rewriteStore store => exact muted_of_eq rfl
  | rewriteDatabase database => exact muted_of_eq rfl

end Desk

end QuestionDesk
