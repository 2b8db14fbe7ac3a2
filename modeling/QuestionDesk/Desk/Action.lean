import QuestionDesk.Desk.Calls

/-!
# Actions

Everything that happens at the desk is one action after another: somebody comes, a visit goes on, a
worker takes a job, a run goes on, a listener is told, time goes by. An action does at most one call
to the outside, so any other action may come between two calls. An action that is not possible
changes nothing.
-/
namespace QuestionDesk

open Pipeline (Run Runner)

/-- Something that happens at the desk. -/
inductive Action where
  /-- Somebody comes with a question, asked at a place that is stored or not. One without a
  fingerprint does not get this far. -/
  | come (prompt : String) (source : Option String)
  /-- A visit goes on. -/
  | visit (number : Nat)
  /-- A worker takes the job that has waited longest. -/
  | take (worker : Nat)
  /-- A run goes on; a remote server gives the response, where the run calls one. -/
  | work (runner : Runner) (response : Remote.Response)
  /-- A worker tells the next listener. -/
  | tell (worker : Nat)
  /-- A run is cut off; a worker goes with its run. -/
  | cut (runner : Runner)
  /-- Somebody runs a job by hand. -/
  | handle (jobId : String) (payload : Fields)
  /-- Somebody subscribes a sink to the job of a question. -/
  | subscribe (questionId sink : String)
  /-- Somebody gives up a subscription. -/
  | unsubscribe (jobKey sink : String)
  /-- The relay fires the first timer that is due. -/
  | fire
  /-- The streams of all channels read what was written. -/
  | read
  /-- The promoter runs, if it is due. -/
  | promote
  /-- Jobs that have ended are removed from the board. -/
  | clean (olderThan : Option Micros)
  /-- Time goes by. -/
  | pass (span : Nat)
  /-- From now on other commands of the store fail. -/
  | storeFaults (failing : List Cache.Command)
  /-- From now on other statements of the database fail. -/
  | databaseFaults (faults : List Database.Fault)

namespace Desk

/-! ## Visits -/

/-- The ticket of a job for a question. -/
def ticketOf (questionId : String) (job : Jobs.Job) : Ticket := ⟨questionId, job.id, job.seq⟩

/-- What a visit does when it has a ticket. -/
def ticketed (visit : Visit) (ticket : Ticket) : VisitPhase :=
  if visit.source.isSome then .counting ticket else .ended (.ok ticket)

/-- A visit makes its next call and goes on up to the one after it. A prompt that is known and whose
job can still be used is given the ticket of that job. Any other prompt becomes a new question with
a new job. Storing that a question was asked may fail without any effect on the visit. -/
def visitStep (desk : Desk) (visit : Visit) : VisitPhase × Desk :=
  let fingerprint := promptFingerprint visit.prompt
  match visit.phase with
  | .lookingUp =>
    match desk.store.findPrompt desk.now fingerprint with
    | .error failure => (.ended (.error failure), desk)
    | .ok known =>
      let usable := known.bind fun entry =>
        (desk.board.findUsable? questionJobType entry.questionId).map (ticketOf entry.questionId)
      match usable with
      | some ticket => (ticketed visit ticket, desk)
      | none => (.creating (questionKey (desk.named + 1)), { desk with named := desk.named + 1 })
  | .creating questionId =>
    let draft : Database.Draft := { id := questionId, content := some visit.prompt }
    match desk.database.createQuestion desk.now draft with
    | (.error failure, after) => (.ended (.error failure), { desk with database := after })
    | (.ok _, after) =>
      let (job, board) := desk.board.create desk.now questionJobType questionId
        (payload questionId visit.prompt) true
      (.recording (ticketOf questionId job), { desk with database := after, board := board })
  | .recording ticket =>
    match desk.database.createRecord desk.now (some ticket.questionId) (some ticket.jobId)
      (some Database.pendingStatus) none with
    | (.error failure, after) => (.ended (.error failure), { desk with database := after })
    | (.ok _, after) => (.remembering ticket, { desk with database := after })
  | .remembering ticket =>
    match desk.store.putPrompt desk.now desk.keepSeconds fingerprint
      ⟨ticket.jobId, ticket.questionId⟩ with
    | .error failure => (.ended (.error failure), desk)
    | .ok after => (ticketed visit ticket, { desk with store := after })
  | .counting ticket =>
    let (_, after) := desk.database.logRequest desk.now (some ticket.questionId) visit.source
    (.ended (.ok ticket), { desk with database := after })
  | .ended outcome => (.ended outcome, desk)

/-- A visit goes on. -/
def visit (desk : Desk) (number : Nat) : Desk :=
  match desk.visits[number]? with
  | some visit =>
    let (phase, after) := desk.visitStep visit
    { after with visits := after.visits.modify number ({ · with phase := phase }) }
  | none => desk

/-! ## Workers and runs -/

/-- A worker takes the job that has waited longest. -/
def take (desk : Desk) (worker : Nat) : Desk :=
  { desk with
    board := desk.board.take desk.now worker fun job => Run.start desk.now job.id job.payload }

/-- A run goes on by one call, or by a step that needs none. -/
def work (desk : Desk) (runner : Runner) (response : Remote.Response) : Desk :=
  match desk.run? runner with
  | none => desk
  | some run =>
    match run.phase with
    | .opening => desk.follow runner run (run.opened desk.now)
    | .queueing prepared =>
      if desk.turns.hasTurn prepared.hash runner then desk.follow runner run run.admitted else desk
    | _ =>
      match run.call? with
      | none => desk
      | some call =>
        let (reply, after) := desk.perform call response
        after.follow runner run (run.resume after.policy after.now reply)

/-- Stores how a job has ended. The question of a duplicate is gone, and there is nothing to store
for it. -/
def store? (desk : Desk) (listener : Listener) (job : Jobs.Job) : Except Failure Unit × Desk :=
  match listener with
  | .completion =>
    if (job.notes.get Run.duplicateNote).isTruthy then (.ok (), desk)
    else
      let (outcome, after) := desk.database.completeJob job.id job.returnValue
      (outcome.map fun _ => (), { desk with database := after })
  | .failure =>
    let (outcome, after) := desk.database.updateRecord job.id
      [.status (some Database.failedStatus), .failedReason job.failedReason]
    (outcome.map fun _ => (), { desk with database := after })

/-- A listener is told about a job: it stores how the job has ended, and tells the subscriber
whether or not that failed. Jobs of other types are none of its business. -/
def hear (desk : Desk) (listener : Listener) (job : Jobs.Job) : Except Failure Unit × Desk :=
  if job.jobType = questionJobType then
    let (outcome, after) := desk.store? listener job
    (outcome, after.announce job)
  else (.ok (), desk)

/-- A worker tells the next listener. -/
def tell (desk : Desk) (worker : Nat) : Desk :=
  match desk.board.telling? worker with
  | some (listener, job) =>
    let (outcome, after) := desk.hear listener job
    { after with board := after.board.notified worker outcome }
  | none => desk

/-- A worker goes for good while it is telling listeners, or idle. The listener that it is telling
still tells the subscriber. -/
def dismiss (desk : Desk) (worker : Nat) : Desk :=
  let told := match desk.board.telling? worker with
    | some (_, job) => if job.jobType = questionJobType then desk.announce job else desk
    | none => desk
  { told with board := told.board.kill worker }

/-- A run is cut off, and its last note is written. A worker goes with its run. -/
def cut (desk : Desk) (runner : Runner) : Desk :=
  match desk.run? runner with
  | none =>
    match runner with
    | .worker index => desk.dismiss index
    | .hand _ => desk
  | some run =>
    let left := desk.leaveLine runner run
    match runner with
    | .worker index =>
      { left with board := (left.board.goOn index run (run.cutOff left.now)).kill index }
    | .hand number =>
      left.withHand number fun hand =>
        { hand.note (run.cutOff left.now) with phase := .ended (.error .cancelled) }

/-! ## Subscriptions -/

/-- Subscribes a sink to the job of a question and tells it the state of the job, if there is one.
-/
def subscribe (desk : Desk) (questionId sink : String) : Except Failure (Option String) × Desk :=
  match desk.job? questionId with
  | none => (.ok none, desk)
  | some job =>
    match Push.JobState.ofJob job with
    | .error failure => (.error failure, desk)
    | .ok state =>
      (.ok (some job.id), { desk with relay := desk.relay.setup desk.now job.id sink state })

/-- Gives up a subscription and closes its sink; the job goes on. -/
def unsubscribe (desk : Desk) (jobKey sink : String) : Desk :=
  { desk with relay := (desk.relay.closeIfCurrent jobKey sink).closeSink sink }

/-! ## Maintenance -/

/-- The promoter runs, if it is due. -/
def promote (desk : Desk) : Desk :=
  if desk.promoter.isDue desk.now then
    let (outcome, after) :=
      desk.database.promote desk.now desk.promoter.threshold desk.promoter.windowHours
    { desk with database := after, promoter := desk.promoter.afterRun desk.now outcome }
  else desk

/-- Closes the service: the promoter stops, every run is cut off, the workers go, and the jobs that
have ended are removed. A failure that the promoter tells leaves everything else as it is. -/
def closeDown (desk : Desk) : Except Failure Unit × Desk :=
  match desk.promoter.stop with
  | (_, some failure) => (.error failure, desk)
  | (promoter, none) =>
    let workers := (List.range desk.board.workers.length).map Runner.worker
    let quiet := workers.foldl cut { desk with promoter }
    (.ok (), { quiet with board := (quiet.board.close.clean quiet.now none).2 })

/-- What an action brings about. -/
def act (desk : Desk) : Action → Desk
  | .come prompt source => { desk with visits := desk.visits ++ [{ prompt, source }] }
  | .visit number => desk.visit number
  | .take worker => desk.take worker
  | .work runner response => desk.work runner response
  | .tell worker => desk.tell worker
  | .cut runner => desk.cut runner
  | .handle jobId payload =>
    { desk with hands := desk.hands ++ [{ phase := .running (Run.start desk.now jobId payload) }] }
  | .subscribe questionId sink => (desk.subscribe questionId sink).2
  | .unsubscribe jobKey sink => desk.unsubscribe jobKey sink
  | .fire => { desk with relay := desk.relay.fire desk.now }
  | .read => { desk with relay := desk.relay.drain }
  | .promote => desk.promote
  | .clean olderThan => { desk with board := (desk.board.clean desk.now olderThan).2 }
  | .pass span => { desk with now := desk.now + span }
  | .storeFaults failing => { desk with store := { desk.store with failing } }
  | .databaseFaults faults => { desk with database := { desk.database with faults } }

/-- The desk after several actions. -/
def actAll (desk : Desk) (actions : List Action) : Desk := actions.foldl act desk

end Desk

end QuestionDesk
