import QuestionDesk.Desk.Action
import QuestionDesk.Simulation.Session
import QuestionDesk.Web.Page

/-!
# Rehearsals

A rehearsal is the desk with scripted remote servers and clients. Calls to remote servers are held
at gates; a call that is released gets the next response of its script. Everything else happens as
soon as it can, one action of the desk after another.
-/
namespace QuestionDesk.Simulation

open Jobs (Job)
open Pipeline (Run Runner)

/-- The responses to what is asked at a gate. -/
abbrev Replies := Keyed (List Remote.Response)

/-- The responses at all gates. -/
abbrev Scripts := Keyed Replies

/-- The entry of a script that stands for everything that has no entry of its own. -/
def anyDetail : String := "*"

/-- The response that is given where a script has none. -/
def noResponse : Remote.Response := .answer 404 ""

/-- A client that may have to wait for its answer. -/
inductive Client where
  /-- It asks several questions at once. -/
  | asks (visits : List Nat)
  /-- It asks one question. -/
  | asksOne (visit : Nat)
  /-- It asks one question and is answered with a page. -/
  | posts (visit : Nat)
  /-- It follows the updates of a job. -/
  | follows (jobKey sink : String)
  /-- It runs a job by hand. -/
  | runs (hand : Nat)
  /-- It went away. -/
  | gone
  deriving DecidableEq, Repr

/-- The desk with scripted remote servers and clients. -/
structure Rehearsal where
  /-- The desk. -/
  desk : Desk
  /-- The scripts. -/
  scripts : Scripts := []
  /-- The clients by the number of the step with which they came. -/
  clients : List (Nat × Client) := []

namespace Rehearsal

/-! ## What happens by itself -/

/-- The visit that goes on next: all prompts are looked up before any question is stored, and then
one visit after the other goes on to its end. -/
def nextVisit? (desk : Desk) : Option Action :=
  let looksUp (visit : Visit) : Bool := match visit.phase with
    | .lookingUp => true
    | _ => false
  let goesOn (visit : Visit) : Bool := match visit.phase with
    | .ended _ => false
    | _ => true
  ((desk.visits.findIdx? looksUp).or (desk.visits.findIdx? goesOn)).map .visit

/-- Whether a run can go on without a response of a remote server. -/
def runsFreely (desk : Desk) (runner : Runner) (run : Run) : Bool :=
  match run.phase with
  | .opening => true
  | .queueing prepared => desk.turns.hasTurn prepared.hash runner
  | _ =>
    match run.call? with
    | some call => (desk.request? call).isNone
    | none => false

/-- The action by which a run goes on, if it can. -/
def nextWork? (desk : Desk) (runner : Runner) : Option Action :=
  match desk.run? runner with
  | some run => if runsFreely desk runner run then some (.work runner noResponse) else none
  | none => none

/-- What a worker does next, if it can do anything. -/
def nextOfWorker? (desk : Desk) (worker : Nat) : Option Action :=
  match desk.board.workers[worker]? with
  | some ⟨jobType, .idle⟩ =>
    if (desk.board.lane jobType).waiting.isEmpty then none else some (.take worker)
  | some ⟨_, .notifying ..⟩ => some (.tell worker)
  | some ⟨_, .handling ..⟩ => nextWork? desk (.worker worker)
  | _ => none

/-- What is due by now. -/
def nextDueAction? (desk : Desk) : Option Action :=
  if desk.relay.timers.any (·.due ≤ desk.now) then some .fire
  else if desk.promoter.isDue desk.now then some .promote
  else none

/-- Whether a sink has something that its stream has not read. -/
def hasUnread : Push.Sink → Bool
  | .channel channel => !channel.queue.isEmpty && !channel.ended
  | .recorder .. => false

/-- What happens next by itself, if anything does. -/
def nextAction? (desk : Desk) : Option Action :=
  let workers := (List.range desk.board.workers.length).findSome? (nextOfWorker? desk)
  let hands := (List.range desk.hands.length).findSome? fun number => nextWork? desk (.hand number)
  let streams := if desk.relay.sinks.any (hasUnread ·.2) then some Action.read else none
  (((nextVisit? desk).or workers).or hands).or ((nextDueAction? desk).or streams)

/-- Lets a number of actions happen. -/
def goOnTimes : Nat → Desk → Desk
  | 0, desk => desk
  | times + 1, desk =>
    match nextAction? desk with
    | some action => goOnTimes times (desk.act action)
    | none => desk

/-- How many actions can happen at most before something is released or time goes by. -/
def actions (desk : Desk) : Nat :=
  32 * (desk.board.created + desk.visits.length + desk.hands.length + desk.relay.timers.length + 2)

/-- Lets everything happen that can happen at a moment. -/
def settle (moment : Micros) (rehearsal : Rehearsal) : Rehearsal :=
  let desk := rehearsal.desk
  let moved := desk.act (.pass (moment - desk.now).toNat)
  { rehearsal with desk := goOnTimes (actions moved) moved }

/-- The earliest moment at which anything is due. -/
def nextDue? (rehearsal : Rehearsal) : Option Micros :=
  (rehearsal.desk.relay.nextDue?.toList ++ rehearsal.desk.promoter.nextDue?.toList).min?

/-! ## Calls -/

/-- The gate at which a call is held, and what is asked. -/
def gateOf? : Pipeline.Call → Option (String × Value)
  | .plan prompt => some ("plan", prompt)
  | .execute sql => some ("query", .text sql)
  | .chart rows => some ("chart", .int rows.length)
  | _ => none

/-- The call of a runner that is held, if there is one. -/
def callOf? (desk : Desk) (runner : Runner) : Option (Call Runner) := do
  let run ← desk.run? runner
  let call ← run.call?
  let _ ← desk.request? call
  let (gate, detail) ← gateOf? call
  return ⟨runner, gate, detail⟩

/-- The calls that are held. -/
def calls (rehearsal : Rehearsal) : List (Call Runner) :=
  let desk := rehearsal.desk
  (List.range desk.board.workers.length).filterMap (fun index => callOf? desk (.worker index)) ++
    (List.range desk.hands.length).filterMap fun number => callOf? desk (.hand number)

/-- The first of several responses, and those that are left; the last one is given again and
again. -/
def nextResponse : List Remote.Response → Remote.Response × List Remote.Response
  | [] => (noResponse, [])
  | [last] => (last, [last])
  | first :: rest => (first, rest)

/-- The response of a script to what is asked, and the script after it. -/
def respond (replies : Replies) (detail : String) : Remote.Response × Replies :=
  let entry := if replies.has detail then detail else anyDetail
  let (response, rest) := nextResponse ((replies.find? entry).getD [])
  (response, replies.put entry rest)

/-- A held call gets the next response of its script. -/
def release (_ : Micros) (call : Call Runner) (rehearsal : Rehearsal) : Rehearsal :=
  let replies := (rehearsal.scripts.find? call.gate).getD []
  let (response, rest) := respond replies call.detailText
  { rehearsal with
    scripts := rehearsal.scripts.put call.gate rest
    desk := rehearsal.desk.act (.work call.caller response) }

/-! ## Clients -/

/-- A ticket as a document. -/
def ticketValue (ticket : Ticket) : Value :=
  .object [("question_id", .text ticket.questionId), ("job_id", .text ticket.jobId),
    ("seq", .int ticket.seq)]

/-- How a visit has ended, if it has. -/
def visitEnd? (desk : Desk) (visit : Nat) : Option (Except Failure Ticket) :=
  match (desk.visits[visit]?).map Visit.phase with
  | some (.ended outcome) => some outcome
  | _ => none

/-- The frames of a stream, if it has ended. -/
def streamEnd? (desk : Desk) (sink : String) : Option (List String) :=
  match desk.relay.sinks.find? sink with
  | some (.channel channel) => if channel.ended then some channel.frames else none
  | _ => none

/-- What came of a job that was run by hand, if it has ended. -/
def handEnd? (desk : Desk) (hand : Nat) : Option (Except Failure Value × Fields) :=
  match desk.hands[hand]? with
  | some ⟨notes, .ended outcome⟩ => some (outcome, notes)
  | _ => none

/-- The client that came with a step. -/
def client? (rehearsal : Rehearsal) (step : Nat) : Option Client :=
  (rehearsal.clients.find? (·.1 = step)).map Prod.snd

/-- How the step of a client has ended by now. A job that was run by hand is told by a function of
its outcome and its notes. -/
def outcome (tellRun : Except Failure Value → Fields → Value) (rehearsal : Rehearsal)
    (step : Nat) : Outcome :=
  let desk := rehearsal.desk
  match rehearsal.client? step with
  | none => .blocked
  | some .gone => .failed .cancelled
  | some (.asksOne visit) =>
    match visitEnd? desk visit with
    | some outcome => .ofExcept (outcome.map ticketValue)
    | none => .blocked
  | some (.asks visits) =>
    match visits.mapM (visitEnd? desk) with
    | some outcomes =>
      .ofExcept ((outcomes.mapM id).map fun tickets => .list (tickets.map ticketValue))
    | none => .blocked
  | some (.posts visit) =>
    match visitEnd? desk visit with
    | some outcome => .returned (Web.Page.scheduled outcome).document
    | none => .blocked
  | some (.follows _ sink) =>
    match streamEnd? desk sink with
    | some frames => .returned (Web.Page.stream frames).document
    | none => .blocked
  | some (.runs hand) =>
    match handEnd? desk hand with
    | some (outcome, notes) => .returned (tellRun outcome notes)
    | none => .blocked

/-- A client goes away before it has its answer. -/
def cancel (tellRun : Except Failure Value → Fields → Value) (rehearsal : Rehearsal)
    (step : Nat) : Rehearsal :=
  if rehearsal.outcome tellRun step = .blocked then
    let away (desk : Desk) : Rehearsal :=
      { rehearsal with
        desk := desk
        clients := rehearsal.clients.map fun entry =>
          if entry.1 = step then (step, .gone) else entry }
    match rehearsal.client? step with
    | some (.follows jobKey sink) => away (rehearsal.desk.act (.unsubscribe jobKey sink))
    | some (.runs hand) => away (rehearsal.desk.act (.cut (.hand hand)))
    | _ => rehearsal
  else rehearsal

/-- How rehearsals behave. -/
def bench (tellRun : Except Failure Value → Fields → Value) : Bench Rehearsal Runner :=
  { timeline := ⟨nextDue?, settle⟩
    calls, release
    budget := fun rehearsal =>
      4 * (rehearsal.desk.board.created + rehearsal.desk.hands.length + 1)
    outcome := outcome tellRun }

/-- A client comes with a step. -/
def withClient (rehearsal : Rehearsal) (step : Nat) (client : Client) : Rehearsal :=
  { rehearsal with clients := rehearsal.clients ++ [(step, client)] }

/-- A client asks a question. -/
def ask (rehearsal : Rehearsal) (step : Nat) (prompt : String) : Rehearsal :=
  ({ rehearsal with desk := rehearsal.desk.act (.come prompt none) } : Rehearsal).withClient step
    (.asksOne rehearsal.desk.visits.length)

/-- A client asks several questions at once. -/
def askAll (rehearsal : Rehearsal) (step : Nat) (prompts : List String) : Rehearsal :=
  let first := rehearsal.desk.visits.length
  let desk := rehearsal.desk.actAll (prompts.map (.come · none))
  ({ rehearsal with desk := desk } : Rehearsal).withClient step
    (.asks ((List.range prompts.length).map (first + ·)))

/-- A client runs a job by hand. -/
def runByHand (rehearsal : Rehearsal) (step : Nat) (jobId : String) (payload : Fields) :
    Rehearsal :=
  ({ rehearsal with desk := rehearsal.desk.act (.handle jobId payload) } : Rehearsal).withClient step
    (.runs rehearsal.desk.hands.length)

/-- The name of the sink of a client that follows updates. -/
def streamName (step : Nat) : String := "stream " ++ Decimal.naturalText step

/-- The name of the sink of a named channel. -/
def channelName (channel : String) : String := "channel " ++ channel

/-- The rehearsal with a sink for a channel. -/
def withChannel (rehearsal : Rehearsal) (sink : String) : Rehearsal :=
  { rehearsal with
    desk := { rehearsal.desk with relay := rehearsal.desk.relay.ensure sink (.channel {}) } }

/-- A client asks for a page. What it is answered is either ready or comes later. -/
def visitPlace (rehearsal : Rehearsal) (step : Nat) (method path query : String)
    (body : Web.Body) : Option Web.Page × Rehearsal :=
  match Web.Place.ofPath? path, method with
  | none, _ => (some (Web.Place.missing path query), rehearsal)
  | some .welcome, "GET" => (some .welcome, rehearsal)
  | some .questions, "GET" => (some (.questions rehearsal.desk), rehearsal)
  | some .questions, "POST" =>
    match body.prompt with
    | .error page => (some page, rehearsal)
    | .ok prompt =>
      let come := Action.come prompt (some Web.requestSource)
      (none, ({ rehearsal with desk := rehearsal.desk.act come } : Rehearsal).withClient step
        (.posts rehearsal.desk.visits.length))
  | some (.question id), "GET" => (some (.question rehearsal.desk id), rehearsal)
  | some (.updates id), "GET" =>
    let ready := rehearsal.withChannel (streamName step)
    match ready.desk.subscribe id (streamName step) with
    | (.error failure, _) => (some (.ofFailure failure), rehearsal)
    | (.ok none, _) => (some (.wrong 404 "Job not found"), rehearsal)
    | (.ok (some jobKey), desk) =>
      (none, ({ ready with desk := desk } : Rehearsal).withClient step
        (.follows jobKey (streamName step)))
  | some _, _ => (some .wrongMethod, rehearsal)

/-! ## What is seen -/

/-- The jobs on the board: key, number and status. -/
def jobsValue (rehearsal : Rehearsal) : Value :=
  .list ((rehearsal.desk.board.lane questionJobType).jobs.map fun job =>
    .list [.text job.id, .int job.seq, .text job.status.word])

/-- The jobs that have a sink, in order. -/
def connectionsValue (rehearsal : Rehearsal) : Value :=
  .list (((rehearsal.desk.relay.connections.map Prod.fst).mergeSort fun left right =>
    !decide (right < left)).map .text)

/-- How many runners stand in the line of each query. -/
def turnsValue (rehearsal : Rehearsal) : Value :=
  .object (rehearsal.desk.turns.lines.map fun (hash, line) => (hash, .int line.length))

end Rehearsal

end QuestionDesk.Simulation
