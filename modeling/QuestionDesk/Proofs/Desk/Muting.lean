import QuestionDesk.Proofs.Desk.Runs
import QuestionDesk.Proofs.Pipeline.Muting

/-!
# Muting

What an action brings about at a muted desk is, once muted, what it brings about at the desk. So at
no step does a desk look at the text of a failure that must not be shown to decide what it does.
-/
namespace QuestionDesk

open Jobs (Board Job)
open Pipeline (Call Next Reply Run Runner)

/-! ## The desk -/

/-- How far a visit has come, with its failure muted. -/
def VisitPhase.muted : VisitPhase → VisitPhase
  | .ended outcome => .ended (mutedOutcome outcome)
  | phase => phase

/-- A visit whose failure is muted. -/
def Visit.muted (visit : Visit) : Visit := { visit with phase := visit.phase.muted }

/-- How far a job that is run by hand has come, with its log and its failure muted. -/
def HandPhase.muted : HandPhase → HandPhase
  | .running run => .running run.muted
  | .ended outcome => .ended (mutedOutcome outcome)

/-- A job that is run by hand, muted. -/
def Hand.muted (hand : Hand) : Hand := ⟨Run.unsummed hand.notes, hand.phase.muted⟩

/-- What a promoter is doing, with its failure muted. -/
def Errand.muted : Errand → Errand
  | .ended failure => .ended failure.muted
  | errand => errand

/-- A promoter whose failure is muted. -/
def Promoter.muted (promoter : Promoter) : Promoter :=
  { promoter with errand := promoter.errand.map Errand.muted }

/-- An action without what a response says where no document is in it. -/
def Action.muted : Action → Action
  | .work runner response => .work runner response.muted
  | action => action

namespace Desk

/-- A muted desk. -/
def muted (desk : Desk) : Desk :=
  { desk with
    board := desk.board.masked hush
    promoter := desk.promoter.muted
    visits := desk.visits.map Visit.muted
    hands := desk.hands.map Hand.muted }

/-- Muting a promoter again changes nothing. -/
theorem promoter_muted_muted (promoter : Promoter) : promoter.muted.muted = promoter.muted := by
  obtain ⟨interval, threshold, windowHours, errand⟩ := promoter
  rcases errand with _ | (due | failure)
  · rfl
  · rfl
  · simp only [Promoter.muted, Option.map_some, Errand.muted, failure.muted_muted]

/-- Muting a desk again changes nothing. -/
theorem muted_muted (desk : Desk) : desk.muted.muted = desk.muted := by
  have visits : ∀ visit : Visit, visit.muted.muted = visit.muted := by
    rintro ⟨prompt, source, phase⟩
    cases phase with
    | ended outcome => simp only [Visit.muted, VisitPhase.muted, mutedOutcome_mutedOutcome]
    | _ => rfl
  have hands : ∀ hand : Hand, hand.muted.muted = hand.muted := by
    rintro ⟨notes, phase⟩
    have left : Run.unsummed (Run.unsummed notes) = Run.unsummed notes := hush.notes_notes notes
    cases phase with
    | running run => simp only [Hand.muted, HandPhase.muted, left]; rfl
    | ended outcome =>
      simp only [Hand.muted, HandPhase.muted, left, mutedOutcome_mutedOutcome]
  simp only [muted, Board.masked_masked, promoter_muted_muted, List.map_map]
  congr 1
  · exact List.map_congr_left fun visit _ => visits visit
  · exact List.map_congr_left fun hand _ => hands hand

/-- What is a muted desk stays so when it is muted. -/
theorem muted_of_eq {after other : Desk} (same : after.muted = other) :
    after.muted = other.muted := by
  rw [← same, muted_muted]

section Muted

variable (desk : Desk)

/-! ## Visits -/

/-- Somebody comes in the same way to a muted desk. -/
theorem come_muted (prompt : String) (source : Option String) :
    (desk.act (.come prompt source)).muted = desk.muted.act (.come prompt source) :=
  congrArg (fun visits => { desk.muted with visits }) List.map_append

/-- A visit of a muted desk. -/
theorem visit?_muted (number : Nat) :
    desk.muted.visits[number]? = (desk.visits[number]?).map Visit.muted := List.getElem?_map

/-- The desk with a visit in another phase. -/
def withPhase (number : Nat) (phase : VisitPhase) : Desk :=
  { desk with visits := desk.visits.modify number ({ · with phase := phase }) }

/-- A visit of a muted desk comes to another phase. -/
theorem withPhase_muted (number : Nat) (phase : VisitPhase) :
    (desk.withPhase number phase).muted = desk.muted.withPhase number phase.muted := by
  have visits : (desk.visits.modify number ({ · with phase })).map Visit.muted =
      (desk.visits.map Visit.muted).modify number ({ · with phase := phase.muted }) :=
    map_modify _ _ fun _ => rfl
  exact congrArg (fun visits => { desk.muted with visits }) visits

/-- The job that stands for a question at a muted desk. -/
theorem job?_muted (questionId : String) :
    desk.muted.job? questionId = (desk.job? questionId).map (·.masked hush) :=
  Board.find?_masked hush desk.board questionJobType questionId

/-- A visit makes its next call in the same way at a muted desk. -/
theorem visitStep_muted (visit : Visit) :
    (desk.muted.visitStep visit.muted).1.muted = (desk.visitStep visit).1.muted ∧
      (desk.muted.visitStep visit.muted).2 = (desk.visitStep visit).2.muted := by
  obtain ⟨prompt, source, phase⟩ := visit
  cases phase with
  | lookingUp =>
    simp only [visitStep, Visit.muted, VisitPhase.muted]
    simp only [muted]
    cases desk.store.findPrompt desk.now (promptFingerprint prompt) with
    | error failure => exact ⟨rfl, rfl⟩
    | ok known =>
      cases known with
      | none => exact ⟨rfl, rfl⟩
      | some entry =>
        simp only [Option.bind_some, Board.findUsable?_masked]
        cases desk.board.findUsable? questionJobType entry.questionId <;> exact ⟨rfl, rfl⟩
  | creating questionId =>
    simp only [visitStep, Visit.muted, VisitPhase.muted]
    simp only [muted]
    rcases desk.database.createQuestion desk.now _ with ⟨failure | question, after⟩
    · exact ⟨rfl, rfl⟩
    · simp only [Board.create, if_true, ← Board.forget_masked, Board.add_masked]
      exact ⟨trivial, trivial⟩
  | recording ticket =>
    simp only [visitStep, Visit.muted, VisitPhase.muted]
    simp only [muted]
    rcases desk.database.createRecord desk.now _ _ _ _ with ⟨failure | record, after⟩ <;>
      exact ⟨rfl, rfl⟩
  | remembering ticket =>
    simp only [visitStep, Visit.muted, VisitPhase.muted]
    simp only [muted]
    cases desk.store.putPrompt desk.now desk.keepSeconds (promptFingerprint prompt)
      ⟨ticket.jobId, ticket.questionId⟩ <;> exact ⟨rfl, rfl⟩
  | counting ticket => exact ⟨rfl, rfl⟩
  | ended outcome =>
    exact ⟨congrArg VisitPhase.ended (mutedOutcome_mutedOutcome outcome), rfl⟩

/-- A visit goes on in the same way at a muted desk. -/
theorem visit_muted (number : Nat) :
    (desk.visit number).muted = (desk.muted.visit number).muted := by
  simp only [Desk.visit, visit?_muted]
  cases desk.visits[number]? with
  | none => exact (muted_muted desk).symm
  | some visit =>
    obtain ⟨phase, after⟩ := visitStep_muted desk visit
    change ((desk.visitStep visit).2.withPhase number (desk.visitStep visit).1).muted =
      ((desk.muted.visitStep visit.muted).2.withPhase number
        (desk.muted.visitStep visit.muted).1).muted
    rw [withPhase_muted, withPhase_muted, phase, after, muted_muted]

/-! ## Runs -/

/-- The run of a runner at a muted desk. -/
theorem run?_muted (runner : Runner) :
    desk.muted.run? runner = (desk.run? runner).map Run.muted := by
  cases runner with
  | worker index =>
    have worker := Board.worker_masked hush desk.board index
    simp only [run?, muted, worker]
    rcases desk.board.workers[index]? with _ | ⟨jobType, activity⟩
    · rfl
    · cases activity <;> rfl
  | hand number =>
    have hand : desk.muted.hands[number]? = (desk.hands[number]?).map Hand.muted :=
      List.getElem?_map
    simp only [run?, hand]
    rcases desk.hands[number]? with _ | ⟨notes, phase⟩
    · rfl
    · cases phase <;> rfl

/-- A job that is run by hand changes in the same way at a muted desk. -/
theorem withHand_muted (number : Nat) {change other : Hand → Hand}
    (same : ∀ hand, (change hand).muted = other hand.muted) :
    (desk.withHand number change).muted = desk.muted.withHand number other :=
  congrArg (fun hands => { desk.muted with hands }) (map_modify _ number same)

/-- What is left of notes that are written on a job that is run by hand. -/
theorem note_muted (hand : Hand) (notes : Fields) :
    (hand.note notes).muted = hand.muted.note (Run.unsummed notes) :=
  congrArg (fun notes => Hand.mk notes hand.phase.muted) (Run.unsummed_written hand.notes notes)

/-- A runner goes on in the same way at a muted desk. -/
theorem goOn_muted (runner : Runner) (run : Run) (notes : Fields) :
    (desk.goOn runner run notes).muted =
      desk.muted.goOn runner run.muted (Run.unsummed notes) := by
  cases runner with
  | worker index =>
    exact congrArg (fun board => { desk.muted with board })
      (Board.goOn_masked hush desk.board index run notes)
  | hand number =>
    exact withHand_muted desk number fun hand =>
      congrArg (fun known => { known with phase := HandPhase.running run.muted })
        (note_muted hand notes)

/-- How a handler ends on the board depends on what may leave the process of its failure, and on
whether it was cancelled. -/
theorem finish_mutedOutcome (board : Board Run Listener) (now : Micros) (worker : Nat)
    (outcome : Except Failure Value) :
    board.finish now worker (mutedOutcome outcome) = board.finish now worker outcome := by
  cases outcome with
  | ok value => rfl
  | error failure => cases failure <;> rfl

/-- A runner leaves its line in the same way at a muted desk. -/
theorem leaveLine_muted (runner : Runner) (run : Run) :
    (desk.leaveLine runner run).muted = desk.muted.leaveLine runner run.muted := by
  rw [leaveLine_eq, leaveLine_eq]
  rfl

/-- A run ends in the same way at a muted desk. -/
theorem conclude_muted (runner : Runner) (run : Run) (outcome : Except Failure Value)
    (notes : Fields) :
    (desk.conclude runner run outcome notes).muted =
      desk.muted.conclude runner run.muted (mutedOutcome outcome) (Run.unsummed notes) := by
  cases runner with
  | worker index =>
    simp only [conclude, leaveLine_eq, finish_mutedOutcome]
    refine congrArg (fun board => { desk.muted with
      turns := desk.turnsWithout (.worker index) run, board }) ?_
    rw [Board.finish_masked, Board.goOn_masked]
    rfl
  | hand number =>
    simp only [conclude]
    rw [withHand_muted _ number (fun hand => ?_), leaveLine_muted]
    exact congrArg (fun known => { known with phase := HandPhase.ended (mutedOutcome outcome) })
      (note_muted hand notes)

/-- A runner does what its run does next in the same way at a muted desk. -/
theorem follow_muted (runner : Runner) (run : Run) (next : Next) :
    (desk.follow runner run next).muted = desk.muted.follow runner run.muted next.muted := by
  cases next with
  | goOn following notes =>
    have phases : run.muted.phase = run.phase ∧ following.muted.phase = following.phase :=
      ⟨rfl, rfl⟩
    simp only [follow, Next.muted, phases]
    split
    · rw [← goOn_muted]
      rfl
    · exact goOn_muted desk runner following notes
  | ended outcome notes => exact conclude_muted desk runner run outcome notes

/-- A plan is read in the same way from a muted response. -/
theorem readPlan_muted (base : String) (prompt : Value) (response : Remote.Response) :
    mutedOutcome (Remote.Planner.readPlan base prompt response.muted) =
      mutedOutcome (Remote.Planner.readPlan base prompt response) := by
  rcases response.document_cases with same | lacking
  · rw [same]
  · unfold Remote.Planner.readPlan
    cases Remote.Planner.planRequest? base prompt with
    | error failure => rfl
    | ok request =>
      obtain ⟨failure, reason, one, other, alike, -⟩ := lacking request.url
      simp only [bind, Except.bind, one, other]
      exact congrArg Except.error alike

/-- An execution is read in the same way from a muted response. -/
theorem readExecution_muted (base : String) (response : Remote.Response) :
    mutedOutcome (Remote.Executor.read base response.muted) =
      mutedOutcome (Remote.Executor.read base response) := by
  rcases response.document_cases with same | lacking
  · rw [same]
  · obtain ⟨failure, reason, one, other, alike, depth⟩ := lacking (Remote.below base "/query")
    -- Of a failure of depth what is left when it is muted is told, of any other that it was there.
    have told : ∀ {response : Remote.Response} {failure : Failure},
        response.document (Remote.below base "/query") = .error failure →
          mutedOutcome (Remote.Executor.read base response) =
            .error (if failure.isDepth then failure.muted else .service "") := by
      intro response failure refused
      rcases Remote.Executor.read_of_no_document refused with read | ⟨shallow, message, read⟩
      · rw [read, Remote.Executor.told]
        split <;> rfl
      · rw [read, shallow]
        rfl
    rw [told one, told other, alike, depth]

/-- A chart is read in the same way from a muted response. -/
theorem readChart_muted (base : String) (response : Remote.Response) :
    mutedOutcome (Remote.Planner.readChart base response.muted) =
      mutedOutcome (Remote.Planner.readChart base response) := by
  rcases response.document_cases with same | lacking
  · rw [same]
  · obtain ⟨failure, reason, one, other, alike, depth⟩ := lacking (Remote.below base "/chart")
    simp only [Remote.Planner.readChart, one, other, depth]
    split
    · exact congrArg Except.error alike
    · rfl

/-- The chart for rows is the same with a muted response. -/
theorem chart_muted (base : String) (rows : List Fields) (response : Remote.Response) :
    mutedOutcome (Remote.Planner.chart base rows response.muted) =
      mutedOutcome (Remote.Planner.chart base rows response) := by
  unfold Remote.Planner.chart
  split
  · rfl
  · rfl
  · exact readChart_muted base response

/-- A call is replied to in the same way at a muted desk. -/
theorem perform_muted (call : Call) (response : Remote.Response) :
    (desk.muted.perform call response.muted).1.muted = (desk.perform call response).1.muted ∧
      (desk.muted.perform call response.muted).2 = (desk.perform call response).2.muted := by
  cases call with
  | plan prompt =>
    refine ⟨?_, rfl⟩
    have url : desk.muted.plannerUrl = desk.plannerUrl := rfl
    obtain ⟨answer, one, other⟩ | ⟨failure, reason, one, other, same⟩ :=
      mutedOutcome_eq (readPlan_muted desk.plannerUrl prompt response)
    · simp only [perform, url, one, other]
    · simp only [perform, url, one, other, Reply.muted, same]
  | execute sql =>
    refine ⟨?_, rfl⟩
    have url : desk.muted.executorUrl = desk.executorUrl := rfl
    obtain ⟨execution, one, other⟩ | ⟨failure, reason, one, other, same⟩ :=
      mutedOutcome_eq (readExecution_muted desk.executorUrl response)
    · simp only [perform, url, one, other]
    · simp only [perform, url, one, other]
      split
      · rfl
      · simp only [Reply.muted, same]
  | chart rows =>
    refine ⟨?_, rfl⟩
    have url : desk.muted.plannerUrl = desk.plannerUrl := rfl
    obtain ⟨chart, one, other⟩ | ⟨failure, reason, one, other, same⟩ :=
      mutedOutcome_eq (chart_muted desk.plannerUrl rows response)
    · simp only [perform, url, one, other]
    · simp only [perform, url, one, other, Reply.muted, same]
  | rememberPrompt fingerprint entry =>
    simp only [perform, muted]
    split <;> exact ⟨rfl, rfl⟩
  | rememberQuery hash questionId result chart jobId =>
    have same : desk.muted.rememberQuery hash questionId result chart jobId =
        desk.rememberQuery hash questionId result chart jobId := rfl
    simp only [perform, same]
    split <;> exact ⟨rfl, rfl⟩
  | _ => exact ⟨rfl, rfl⟩

/-- A run goes on in the same way at a muted desk with a muted response. -/
theorem work_muted (runner : Runner) (response : Remote.Response) :
    (desk.work runner response).muted = (desk.muted.work runner response.muted).muted := by
  have runs := run?_muted desk runner
  cases running : desk.run? runner with
  | none =>
    rw [running] at runs
    simp only [work, running, runs, Option.map_none, muted_muted]
  | some run =>
    rw [running, Option.map_some] at runs
    cases calls : run.call? with
    | some call =>
      obtain ⟨reply, after⟩ := perform_muted desk call response
      have resumed : ∀ policy now,
          (Run.resume policy run now (desk.perform call response).1).muted =
            (Run.resume policy run.muted now (desk.muted.perform call response.muted).1).muted := by
        intro policy now
        rw [Run.resume_muted run, ← reply]
        exact (Run.resume_muted run.muted now policy _).symm
      rw [work_of_call running calls,
        @work_of_call desk.muted runner response.muted run.muted call runs calls, after,
        follow_muted, follow_muted, muted_muted, resumed]
      rfl
    | none =>
      cases phase : run.phase with
      | opening =>
        have muted : run.muted.phase = .opening := phase
        simp only [work, running, runs, phase, muted]
        rw [follow_muted, follow_muted, muted_muted, Run.opened_muted]
        rfl
      | queueing prepared =>
        have muted : run.muted.phase = .queueing prepared := phase
        simp only [work, running, runs, phase, muted]
        have turns : desk.muted.turns = desk.turns := rfl
        rw [turns]
        split
        · rw [follow_muted, follow_muted, muted_muted, Run.admitted_muted]
          rfl
        · exact (muted_muted desk).symm
      | repointing prepared known =>
        have none : run.muted.call? = none := calls
        have muted : run.muted.phase = .repointing prepared known := phase
        simp only [work, running, runs, phase, muted, calls, none, muted_muted]
      | _ => simp [Run.call?, phase] at calls

/-! ## Listeners and subscribers -/

/-- What is told about a job is told about the muted job. -/
theorem ofJob_masked (job : Job) :
    Push.JobState.ofJob (job.masked hush) = Push.JobState.ofJob job := by
  have title : (job.masked hush).notes.get "title" = job.notes.get "title" :=
    Run.get_unsummed job.notes (by decide)
  have hash : (job.masked hush).notes.get "sql_hash" = job.notes.get "sql_hash" :=
    Run.get_unsummed job.notes (by decide)
  simp only [Push.JobState.ofJob, Push.JobState.titleOf, title, hash]
  rfl

/-- The subscriber of a job is told in the same way at a muted desk. -/
theorem announce_muted (job : Job) :
    (desk.announce job).muted = desk.muted.announce (job.masked hush) := by
  simp only [announce, ofJob_masked]
  cases Push.JobState.ofJob job <;> rfl

/-- What a listener stores about a job it stores at a muted desk about the muted job. -/
theorem store?_muted (listener : Listener) (job : Job) :
    desk.muted.store? listener (job.masked hush) =
      ((desk.store? listener job).1, (desk.store? listener job).2.muted) := by
  have duplicate : (job.masked hush).notes.get Run.duplicateNote =
      job.notes.get Run.duplicateNote := Run.get_unsummed job.notes (by decide)
  cases listener with
  | completion =>
    simp only [store?, duplicate]
    split <;> rfl
  | failure => rfl

/-- A listener hears of a job in the same way at a muted desk. -/
theorem hear_muted (listener : Listener) (job : Job) :
    desk.muted.hear listener (job.masked hush) =
      ((desk.hear listener job).1, (desk.hear listener job).2.muted) := by
  have jobType : (job.masked hush).jobType = job.jobType := rfl
  simp only [hear, jobType, store?_muted]
  split
  · rw [announce_muted]
  · rfl

/-- The listener that a worker of a muted desk tells. -/
theorem telling?_muted (worker : Nat) :
    desk.muted.board.telling? worker =
      (desk.board.telling? worker).map fun (listener, job) => (listener, job.masked hush) :=
  Board.telling?_masked hush desk.board worker

/-- A worker tells its listener in the same way at a muted desk. -/
theorem tell_muted (worker : Nat) : (desk.tell worker).muted = desk.muted.tell worker := by
  simp only [tell, telling?_muted]
  rcases desk.board.telling? worker with _ | ⟨listener, job⟩
  · rfl
  · simp only [Option.map_some, hear_muted]
    exact congrArg (fun board => { (desk.hear listener job).2.muted with board })
      (Board.notified_masked hush _ worker _)

/-- A worker goes for good in the same way at a muted desk. -/
theorem dismiss_muted (worker : Nat) :
    (desk.dismiss worker).muted = desk.muted.dismiss worker := by
  have goes : ∀ desk : Desk, ({ desk with board := desk.board.kill worker } : Desk).muted =
      { desk.muted with board := desk.muted.board.kill worker } := fun desk =>
    congrArg (fun board => { desk.muted with board }) (Board.kill_masked hush desk.board worker)
  simp only [dismiss, telling?_muted, goes]
  rcases desk.board.telling? worker with _ | ⟨listener, job⟩
  · rfl
  · have jobType : (job.masked hush).jobType = job.jobType := rfl
    simp only [Option.map_some, jobType]
    split
    · rw [announce_muted]
    · rfl

/-- The last note of a run that is cut off is not left. -/
theorem unsummed_cutOff (run : Run) (now : Micros) : Run.unsummed (run.cutOff now) = [] := by
  simp [Run.unsummed, Run.cutOff, Keyed.without]

/-- A worker goes with its run in the same way at a muted desk. -/
theorem kill_muted (worker : Nat) (run : Run) (now : Micros) :
    ({ desk with
        board := (desk.board.goOn worker run (run.cutOff now)).kill worker } : Desk).muted =
      { desk.muted with board := (desk.muted.board.goOn worker run.muted []).kill worker } := by
  refine congrArg (fun board => { desk.muted with board }) ?_
  rw [Board.kill_masked, Board.goOn_masked]
  exact congrArg (fun notes => ((desk.board.masked hush).goOn worker run.muted notes).kill worker)
    (unsummed_cutOff run now)

/-- A job that is run by hand is cut off in the same way at a muted desk. -/
theorem abandon_muted (number : Nat) (run : Run) (now : Micros) :
    (desk.withHand number fun hand =>
        { hand.note (run.cutOff now) with phase := .ended (.error .cancelled) }).muted =
      desk.muted.withHand number fun hand =>
        { hand with phase := .ended (.error .cancelled) } := by
  refine withHand_muted desk number fun hand => ?_
  have noted := note_muted hand (run.cutOff now)
  rw [unsummed_cutOff] at noted
  exact congrArg (fun known => { known with phase := .ended (.error .cancelled) }) noted

/-- A run is cut off in the same way at a muted desk. -/
theorem cut_muted (runner : Runner) : (desk.cut runner).muted = (desk.muted.cut runner).muted := by
  have runs := run?_muted desk runner
  cases running : desk.run? runner with
  | none =>
    rw [running, Option.map_none] at runs
    simp only [cut, running, runs]
    cases runner with
    | worker index => exact muted_of_eq (dismiss_muted desk index)
    | hand number => exact (muted_muted desk).symm
  | some run =>
    rw [running, Option.map_some] at runs
    have left := leaveLine_muted desk runner run
    simp only [cut, running, runs, ← left]
    cases runner with
    | worker index =>
      rw [kill_muted, kill_muted, muted_muted]
      rfl
    | hand number =>
      simp only [abandon_muted, muted_muted]

/-! ## Maintenance -/

/-- A promoter pauses and ends in the same way once it is muted. -/
theorem afterRun_muted (promoter : Promoter) (now : Micros) {outcome other : Except Failure Int}
    (same : mutedOutcome outcome = mutedOutcome other) :
    (promoter.afterRun now outcome).muted = (promoter.muted.afterRun now other).muted := by
  obtain ⟨count, rfl, rfl⟩ | ⟨failure, reason, rfl, rfl, alike⟩ := mutedOutcome_eq same
  · rfl
  · have served : failure.isService = reason.isService := by
      rw [← failure.isService_muted, alike, reason.isService_muted]
    simp only [Promoter.afterRun, served]
    split
    · rfl
    · simp only [Promoter.muted, Option.map_some, Errand.muted, alike]

/-- The promoter of a muted desk is due at the same moments. -/
theorem isDue_muted :
    desk.muted.promoter.isDue desk.muted.now = desk.promoter.isDue desk.now := by
  have nextDue : desk.muted.promoter.nextDue? = desk.promoter.nextDue? := by
    simp only [muted, Promoter.muted, Promoter.nextDue?]
    rcases desk.promoter.errand with _ | (due | failure) <;> rfl
  rw [Promoter.isDue, nextDue]
  rfl

/-- What a run of the promoter leaves behind is the same at a muted desk. -/
theorem promoted_muted (database : Database) (outcome other : Except Failure Int)
    (same : mutedOutcome outcome = mutedOutcome other) :
    ({ desk with database, promoter := desk.promoter.afterRun desk.now outcome } : Desk).muted =
      ({ desk.muted with
          database, promoter := desk.muted.promoter.afterRun desk.now other } : Desk).muted := by
  have after := afterRun_muted desk.promoter desk.now same
  refine (congrArg (fun promoter => { desk.muted with database, promoter }) after).trans ?_
  exact congrArg (fun known => { known with
    database, promoter := (desk.promoter.muted.afterRun desk.now other).muted })
    (muted_muted desk).symm

/-- The promoter runs in the same way at a muted desk. -/
theorem promote_muted : desk.promote.muted = desk.muted.promote.muted := by
  simp only [promote, isDue_muted]
  split
  · exact promoted_muted desk _ _ _ rfl
  · exact (muted_muted desk).symm

/-- Somebody subscribes in the same way at a muted desk. -/
theorem subscribe_muted (questionId sink : String) :
    desk.muted.subscribe questionId sink =
      ((desk.subscribe questionId sink).1, (desk.subscribe questionId sink).2.muted) := by
  simp only [Desk.subscribe, job?_muted]
  cases desk.job? questionId with
  | none => rfl
  | some job =>
    simp only [Option.map_some, ofJob_masked]
    cases Push.JobState.ofJob job <;> rfl

/-- Whatever happens at a desk happens in the same way at the muted desk. -/
theorem act_muted (action : Action) :
    (desk.act action).muted = (desk.muted.act action.muted).muted := by
  cases action with
  | visit number => exact visit_muted desk number
  | work runner response => exact work_muted desk runner response
  | cut runner => exact cut_muted desk runner
  | promote => exact promote_muted desk
  | tell worker => exact muted_of_eq (tell_muted desk worker)
  | subscribe questionId sink =>
    exact muted_of_eq (congrArg Prod.snd (subscribe_muted desk questionId sink)).symm
  | take worker =>
    exact muted_of_eq (congrArg (fun board => { desk.muted with board })
      (Board.take_masked hush desk.board desk.now worker fun _ => rfl))
  | clean olderThan =>
    exact muted_of_eq (congrArg (fun board => { desk.muted with board })
      (Board.clean_masked hush desk.board desk.now olderThan))
  | come prompt source => exact muted_of_eq (come_muted desk prompt source)
  | handle jobId payload =>
    exact muted_of_eq (congrArg (fun hands => { desk.muted with hands }) List.map_append)
  | _ => exact muted_of_eq rfl

/-- Whoever is cut off one after another, it happens in the same way at a muted desk. -/
theorem cutAll_muted (runners : List Runner) :
    (runners.foldl cut desk).muted = (runners.foldl cut desk.muted).muted := by
  induction runners generalizing desk with
  | nil => exact (muted_muted desk).symm
  | cons runner rest before =>
    rw [List.foldl_cons, List.foldl_cons, before, cut_muted, ← before]

/-- A promoter is stopped in the same way once it is muted. -/
theorem stop_muted (promoter : Promoter) :
    promoter.muted.stop = (promoter.stop.1.muted, promoter.stop.2.map Failure.muted) := by
  obtain ⟨interval, threshold, windowHours, errand⟩ := promoter
  rcases errand with _ | (due | failure)
  · rfl
  · rfl
  · simp only [Promoter.stop, Promoter.muted, Option.map_some, Errand.muted,
      failure.muted_eq_cancelled]
    split <;> rfl

/-- A muted desk is closed in the same way. -/
theorem closeDown_muted : desk.closeDown.2.muted = desk.muted.closeDown.2.muted := by
  have stops : desk.muted.promoter.stop = _ := stop_muted desk.promoter
  have count : desk.muted.board.workers.length = desk.board.workers.length := List.length_map _
  have cleared : ∀ quiet : Desk,
      ({ quiet with board := (quiet.board.close.clean quiet.now none).2 } : Desk).muted =
        { quiet.muted with board := (quiet.muted.board.close.clean quiet.now none).2 } :=
    fun quiet => congrArg (fun board => { quiet.muted with board }) (by
      rw [Board.clean_masked, Board.close_masked]
      rfl)
  simp only [closeDown, stops, count]
  rcases desk.promoter.stop with ⟨promoter, _ | failure⟩
  · simp only [Option.map_none]
    rw [cleared, cleared]
    exact congrArg
      (fun quiet : Desk => { quiet with board := (quiet.board.close.clean quiet.now none).2 })
      (cutAll_muted { desk with promoter }
        ((List.range desk.board.workers.length).map Runner.worker))
  · exact (muted_muted desk).symm

end Muted

end Desk

end QuestionDesk
