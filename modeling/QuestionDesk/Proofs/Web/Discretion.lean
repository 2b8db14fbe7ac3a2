import QuestionDesk.Proofs.Desk.Breakdowns
import QuestionDesk.Proofs.Desk.Courses
import QuestionDesk.Simulation.Rehearsal

/-!
# Discretion

The text of a failure stays inside unless it may be shown. A call can raise any failure, wherever
one is made: in a visit, in a stage of a run, in a listener, in the promoter, while a page is read.
Two courses of the service that differ in such texts alone cannot be told apart by its pages, its
streams, its jobs or its database.
-/
namespace QuestionDesk

open Jobs (Board Job)
open Pipeline (Run Runner Stage)

/-! ## What happens to the service -/

/-- Something that happens to the service. -/
inductive Affair where
  /-- Something happens to the desk. -/
  | meets (happening : Happening)
  /-- A call raises a failure. -/
  | breaks (breakdown : Breakdown)
  /-- A client asks for a page; where it is read from the database, that may raise a failure. -/
  | asks (step : Nat) (method path query : String) (body : Web.Body) (raised : Option Failure)
  /-- The service is closed. -/
  | close

namespace Simulation.Rehearsal

open Web (Page Place)

/-- Whether a page is read from the database. -/
def isRead (method path : String) : Bool :=
  method = "GET" && match Place.ofPath? path with
    | some .questions | some (.question _) => true
    | _ => false

/-- What a client is answered that asks for a page, and what it brings about. -/
def asked (rehearsal : Rehearsal) (step : Nat) (method path query : String) (body : Web.Body)
    (raised : Option Failure) : Option Page × Rehearsal :=
  match raised.filter fun _ => isRead method path with
  | some failure => (some (.ofFailure failure), rehearsal)
  | none => rehearsal.visitPlace step method path query body

/-- The service after something has happened to it. -/
def live (rehearsal : Rehearsal) : Affair → Rehearsal
  | .meets happening => { rehearsal with desk := rehearsal.desk.meet happening }
  | .breaks breakdown => { rehearsal with desk := rehearsal.desk.breakDown breakdown }
  | .asks step method path query body raised =>
    (rehearsal.asked step method path query body raised).2
  | .close => { rehearsal with desk := rehearsal.desk.closeDown.2 }

/-- The service after the first of a sequence of affairs. -/
def after (rehearsal : Rehearsal) (affairs : Nat → Affair) : Nat → Rehearsal
  | 0 => rehearsal
  | count + 1 => (after rehearsal affairs count).live (affairs count)

/-- The page that is answered at once to a client that asks. -/
def answered (rehearsal : Rehearsal) : Affair → Option Page
  | .asks step method path query body raised =>
    (rehearsal.asked step method path query body raised).1
  | _ => none

/-- The page of a client that waits for it, once it is there. -/
def page? (rehearsal : Rehearsal) (step : Nat) : Option Page :=
  match rehearsal.client? step with
  | some (.posts visit) => (visitEnd? rehearsal.desk visit).map .scheduled
  | some (.follows _ sink) => (streamEnd? rehearsal.desk sink).map .stream
  | _ => none

end Simulation.Rehearsal

/-- What is seen of a job: its key, its number, its status and its reason. -/
def Jobs.Job.sight (job : Job) : String × Nat × Jobs.Status × Option String :=
  (job.id, job.seq, job.status, job.failedReason)

open Simulation (Rehearsal)

/-- Whether two services cannot be told apart. -/
structure SameSight (here there : Rehearsal) : Prop where
  /-- Clients that wait have the same pages. -/
  pages : ∀ step, there.page? step = here.page? step
  /-- All sinks were told the same, and all streams gave the same frames. -/
  relay : there.desk.relay = here.desk.relay
  /-- The jobs of all types have the same statuses and reasons. -/
  jobs : ∀ jobType, (there.desk.board.lane jobType).jobs.map Job.sight =
    (here.desk.board.lane jobType).jobs.map Job.sight
  /-- The database has the same rows. -/
  database : there.desk.database = here.desk.database

/-! ## Muting -/

/-- An affair without the texts of its failures, unless they may be shown. -/
def Affair.muted : Affair → Affair
  | .meets happening => .meets happening.muted
  | .breaks breakdown => .breaks breakdown.muted
  | .asks step method path query body raised =>
    .asks step method path query body (raised.map Failure.muted)
  | .close => .close

namespace Simulation.Rehearsal

/-- A muted service. -/
def muted (rehearsal : Rehearsal) : Rehearsal := { rehearsal with desk := rehearsal.desk.muted }

end Simulation.Rehearsal

namespace Web.Page

/-- The page for a failure tells nothing that is taken away. -/
theorem ofFailure_muted (failure : Failure) : ofFailure failure.muted = ofFailure failure := by
  rw [ofFailure, ofFailure, failure.isUserFacing_muted, failure.safeMessage_muted]

/-- The page for a client that asked a question tells nothing that is taken away. -/
theorem scheduled_muted (outcome : Except Failure Ticket) :
    scheduled (mutedOutcome outcome) = scheduled outcome := by
  cases outcome with
  | ok ticket => rfl
  | error failure =>
    simp only [scheduled, mutedOutcome, Except.mapError, failure.isService_muted, ofFailure_muted]

end Web.Page

namespace Simulation.Rehearsal

open Web (Page)

variable (rehearsal : Rehearsal)

/-- Somebody comes in the same way to a muted service. -/
theorem come_muted (step : Nat) (prompt : String) (source : Option String) :
    ({ rehearsal.muted with
        desk := rehearsal.muted.desk.act (.come prompt source) } : Rehearsal).withClient step
      (.posts rehearsal.muted.desk.visits.length) =
    (({ rehearsal with desk := rehearsal.desk.act (.come prompt source) } : Rehearsal).withClient
      step (.posts rehearsal.desk.visits.length)).muted := by
  have visits : rehearsal.muted.desk.visits.length = rehearsal.desk.visits.length :=
    List.length_map _
  have comes : rehearsal.muted.desk.act (.come prompt source) =
      (rehearsal.desk.act (.come prompt source)).muted :=
    (rehearsal.desk.come_muted prompt source).symm
  rw [visits, comes]
  rfl

/-- A page is visited in the same way at a muted service. -/
theorem visitPlace_muted (step : Nat) (method path query : String) (body : Web.Body) :
    rehearsal.muted.visitPlace step method path query body =
      ((rehearsal.visitPlace step method path query body).1,
        (rehearsal.visitPlace step method path query body).2.muted) := by
  simp only [visitPlace]
  split
  · rfl
  · rfl
  · rfl
  · split
    · rfl
    · rw [come_muted]
  · rfl
  · have ready : (rehearsal.muted.withChannel (streamName step)).desk =
        (rehearsal.withChannel (streamName step)).desk.muted := rfl
    rw [ready, Desk.subscribe_muted]
    rcases (rehearsal.withChannel (streamName step)).desk.subscribe _ (streamName step) with
      ⟨failure | (_ | jobKey), after⟩ <;> rfl
  · rfl

/-- A client is answered in the same way at a muted service. -/
theorem asked_muted (step : Nat) (method path query : String) (body : Web.Body)
    (raised : Option Failure) :
    rehearsal.muted.asked step method path query body (raised.map Failure.muted) =
      ((rehearsal.asked step method path query body raised).1,
        (rehearsal.asked step method path query body raised).2.muted) := by
  rw [asked, asked, Option.filter_map]
  simp only [Function.comp_def]
  cases raised.filter fun _ => isRead method path with
  | some failure => simp only [Option.map_some, Page.ofFailure_muted]
  | none => exact visitPlace_muted rehearsal step method path query body

/-- Muting a service again changes nothing. -/
theorem muted_muted : rehearsal.muted.muted = rehearsal.muted :=
  congrArg (fun desk => { rehearsal with desk }) rehearsal.desk.muted_muted

/-- What is a muted service stays so when it is muted. -/
theorem muted_of_eq {after other : Rehearsal} (same : after.muted = other) :
    after.muted = other.muted := by
  rw [← same, muted_muted]

/-- What happens to the service happens in the same way to the muted service. -/
theorem live_muted (affair : Affair) :
    (rehearsal.live affair).muted = (rehearsal.muted.live affair.muted).muted := by
  cases affair with
  | meets happening =>
    exact congrArg (fun desk => { rehearsal with desk }) (rehearsal.desk.meet_muted happening)
  | breaks breakdown =>
    exact congrArg (fun desk => { rehearsal with desk }) (rehearsal.desk.breakDown_muted breakdown)
  | asks step method path query body raised =>
    have asked := asked_muted rehearsal step method path query body raised
    exact muted_of_eq (congrArg Prod.snd asked).symm
  | close => exact congrArg (fun desk => { rehearsal with desk }) rehearsal.desk.closeDown_muted

/-- A muted service answers a client that asks with the same page. -/
theorem answered_muted (affair : Affair) :
    rehearsal.muted.answered affair.muted = rehearsal.answered affair := by
  cases affair with
  | asks step method path query body raised =>
    have asked := asked_muted rehearsal step method path query body raised
    simp only [answered, Affair.muted, asked]
  | _ => rfl

/-- A muted service has the same pages for clients that wait. -/
theorem page?_muted (step : Nat) : rehearsal.muted.page? step = rehearsal.page? step := by
  have ends : ∀ visit, (visitEnd? rehearsal.muted.desk visit).map Page.scheduled =
      (visitEnd? rehearsal.desk visit).map Page.scheduled := by
    intro visit
    have visits := rehearsal.desk.visit?_muted visit
    rw [visitEnd?, visitEnd?, show rehearsal.muted.desk = rehearsal.desk.muted from rfl, visits]
    rcases rehearsal.desk.visits[visit]? with _ | ⟨prompt, source, phase⟩
    · rfl
    · cases phase with
      | ended outcome => exact congrArg some (Page.scheduled_muted outcome)
      | _ => rfl
  have client : rehearsal.muted.client? step = rehearsal.client? step := rfl
  simp only [page?, client, ends]
  rfl

/-- A muted service cannot be told from the service. -/
theorem sameSight_muted : SameSight rehearsal rehearsal.muted where
  pages := page?_muted rehearsal
  relay := rfl
  jobs jobType := by
    have lane : rehearsal.muted.desk.board.lane jobType =
        (rehearsal.desk.board.lane jobType).masked hush := Board.lane_masked hush _ jobType
    rw [lane, Jobs.Lane.masked, List.map_map]
    rfl
  database := rfl

/-- Services that are the same once muted cannot be told apart. -/
theorem sameSight_of_muted {here there : Rehearsal} (same : here.muted = there.muted) :
    SameSight here there := by
  have one := sameSight_muted here
  have other := sameSight_muted there
  rw [same] at one
  exact ⟨fun step => (other.pages step).symm.trans (one.pages step),
    other.relay.symm.trans one.relay,
    fun jobType => (other.jobs jobType).symm.trans (one.jobs jobType),
    other.database.symm.trans one.database⟩

/-- Two courses of affairs that are the same once muted leave the service the same once muted. -/
theorem after_muted {first second : Nat → Affair}
    (alike : ∀ moment, (first moment).muted = (second moment).muted) (moment : Nat) :
    (rehearsal.after first moment).muted = (rehearsal.after second moment).muted := by
  induction moment with
  | zero => rfl
  | succ moment before => rw [after, after, live_muted, before, alike, ← live_muted]

/-- No text of a failure leaves the process unless it may be shown. Of two courses of the service
with the same requests in the same order, whose calls give the same replies and raise failures at
the same spots, the texts of those that are not user-facing may differ in any way, as long as both
or neither are failures of the service. At every moment the page that is answered, the pages of all
who wait, all sinks and streams, the statuses and reasons of all jobs and the database are the
same. -/
theorem failure_texts_unseen {first second : Nat → Affair}
    (alike : ∀ moment, (first moment).muted = (second moment).muted) (moment : Nat) :
    (rehearsal.after first moment).answered (first moment) =
        (rehearsal.after second moment).answered (second moment) ∧
      SameSight (rehearsal.after first moment) (rehearsal.after second moment) := by
  have same := after_muted rehearsal alike moment
  refine ⟨?_, sameSight_of_muted same⟩
  rw [← answered_muted, same, alike, answered_muted]

/-- A client asks and follows the updates. Counting the request, the planner, the listener and the
list of questions all fail with a text. -/
def failing (text : String) (moment : Nat) : Affair :=
  match moment with
  | 0 => .asks 0 "POST" "/api/questions" "" (.document (.object
      [("user_prompt", .text "Which types?")])) none
  | 1 | 2 | 3 | 4 => .meets (.act (.visit 0))
  | 5 => .breaks ⟨.visit 0, .persistence text, false⟩
  | 6 => .asks 1 "GET" "/api/questions/q1/updates" "" .absent none
  | 7 => .meets (.act (.take 0))
  | 8 => .meets (.act (.work (.worker 0) noResponse))
  | 9 => .breaks ⟨.run (.worker 0) .plan [], .other "RuntimeError" text, false⟩
  | 10 => .breaks ⟨.listener 0, .persistence text, true⟩
  | 11 => .asks 2 "GET" "/api/questions" "" .absent (some (.persistence text))
  | 12 => .meets (.act .fire)
  | 13 => .meets (.act .read)
  | _ => .meets (.act (.pass 0))

/-- The job has failed with the generic reason, and all texts but that one are in the notes of the
job alone. -/
theorem failure_texts_unseen_failing : ∃ desk : Desk, Desk.start Desk.smallService = .ok desk ∧
    (∀ moment, (failing "one" moment).muted = (failing "two" moment).muted) ∧
    (let here := (⟨desk, [], []⟩ : Rehearsal).after (failing "one") 14
     let there := (⟨desk, [], []⟩ : Rehearsal).after (failing "two") 14
     SameSight here there ∧
       (here.desk.board.lane questionJobType).jobs.map Job.sight =
         [("question-processing:q1", 1, .failed, some Failure.genericMessage)] ∧
       (here.page? 0).isSome = true ∧ (here.page? 1).isSome = true ∧
       (here.desk.board.lane questionJobType).jobs.map Job.notes ≠
         (there.desk.board.lane questionJobType).jobs.map Job.notes) := by
  obtain ⟨desk, started, passes⟩ := @Desk.exists_start Desk.smallService (fun desk =>
    let here := (⟨desk, [], []⟩ : Rehearsal).after (failing "one") 14
    let there := (⟨desk, [], []⟩ : Rehearsal).after (failing "two") 14
    (here.desk.board.lane questionJobType).jobs.map Job.sight =
        [("question-processing:q1", 1, .failed, some Failure.genericMessage)] &&
      (here.page? 0).isSome && (here.page? 1).isSome &&
      (here.desk.board.lane questionJobType).jobs.map Job.notes ≠
        (there.desk.board.lane questionJobType).jobs.map Job.notes) (by decide +kernel)
  simp only [Bool.and_eq_true, decide_eq_true_eq] at passes
  obtain ⟨⟨⟨failed, asked⟩, followed⟩, apart⟩ := passes
  have alike : ∀ moment, (failing "one" moment).muted = (failing "two" moment).muted := by
    intro moment
    unfold failing
    split <;> rfl
  exact ⟨desk, started, alike, (failure_texts_unseen ⟨desk, [], []⟩ alike 14).2, failed, asked,
    followed, apart⟩

end Simulation.Rehearsal

end QuestionDesk
