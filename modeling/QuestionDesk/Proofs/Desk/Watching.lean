import QuestionDesk.Proofs.Desk.Developments
import QuestionDesk.Proofs.Push.Registrations

/-!
# The relay of a desk

Whatever occurs at a desk asks at most one thing of its relay. So the relay of a desk in a course is
a relay like any other, and what is true of all registrations is true of its subscribers.
-/
namespace QuestionDesk.Desk

open Jobs (Board Job)
open Pipeline (Run Runner)
open Push (Deed JobState Station Watch)

/-! ## What is asked of the relay -/

/-- What announcing a job asks of the relay. -/
def announcement (job : Job) : Deed :=
  match JobState.ofJob job with
  | .ok state => .send job.id state
  | .error _ => .pass 0

/-- What a worker that tells a listener, or goes while it is telling one, asks of the relay. -/
def announcementOf (desk : Desk) (worker : Nat) : Deed :=
  match desk.board.telling? worker with
  | some (_, job) => if job.jobType = questionJobType then announcement job else .pass 0
  | none => .pass 0

/-- What a subscription asks of the relay. -/
def subscription (desk : Desk) (questionId sink : String) : Deed :=
  match desk.job? questionId with
  | some job =>
    match JobState.ofJob job with
    | .ok state => .setup job.id sink state
    | .error _ => .pass 0
  | none => .pass 0

/-- What something that occurs asks of the relay. -/
def deedOf (desk : Desk) : Occurrence → Deed
  | .act (.subscribe questionId sink) => desk.subscription questionId sink
  | .act (.unsubscribe jobKey sink) => .closeIfCurrent jobKey sink
  | .act (.tell worker) => desk.announcementOf worker
  | .act (.cut (.worker worker)) =>
    if (desk.run? (.worker worker)).isSome then .pass 0 else desk.announcementOf worker
  | .act .fire =>
    match desk.relay.timers.find? (·.due ≤ desk.now) with
    | some timer => .expire timer
    | none => .pass 0
  | .act (.pass span) => .pass span
  | _ => .pass 0

/-- The relay of a desk at a moment. -/
def station (desk : Desk) : Station := ⟨desk.relay, desk.now⟩

/-- The relay of a desk in a course. -/
def watch (desk : Desk) (occurrences : Nat → Occurrence) : Watch where
  closeDelay := desk.relay.closeDelay
  begins := desk.now
  sinks moment := (desk.course occurrences moment).relay.sinks
  deeds moment := (desk.course occurrences moment).deedOf (occurrences moment)

/-- All that a desk asks of its relay while something occurs. -/
inductive Asked (desk : Desk) (occurrence : Occurrence) : Deed → Prop where
  /-- Nothing but that time goes by, if it does. -/
  | passed {span : Nat} : Asked desk occurrence (.pass span)
  /-- A sink is subscribed to a job. -/
  | subscribed {questionId sink : String} {job : Job} {state : JobState}
    (acts : occurrence = .act (.subscribe questionId sink))
    (found : desk.job? questionId = some job) (told : JobState.ofJob job = .ok state) :
    Asked desk occurrence (.setup job.id sink state)
  /-- Somebody gives up a subscription. -/
  | gaveUp {jobKey sink : String} (acts : occurrence = .act (.unsubscribe jobKey sink)) :
    Asked desk occurrence (.closeIfCurrent jobKey sink)
  /-- A job that has ended is announced. -/
  | announced {worker : Nat} {listener : Listener} {job : Job} {state : JobState}
    (telling : desk.board.telling? worker = some (listener, job))
    (told : JobState.ofJob job = .ok state) : Asked desk occurrence (.send job.id state)
  /-- A timer that is due fires. -/
  | fired {timer : Push.Timer} (acts : occurrence = .act .fire) :
    Asked desk occurrence (.expire timer)

/-- A worker that tells a listener, or goes while it is telling one, announces its job. -/
theorem asked_announcementOf (desk : Desk) (occurrence : Occurrence) (worker : Nat) :
    desk.Asked occurrence (desk.announcementOf worker) := by
  unfold announcementOf
  split
  · next listener job telling =>
    split
    · unfold announcement
      split
      · next state told => exact .announced telling told
      · exact .passed
    · exact .passed
  · exact .passed

/-- What something that occurs asks of the relay is one of these things. -/
theorem asked_deedOf (desk : Desk) (occurrence : Occurrence) :
    desk.Asked occurrence (desk.deedOf occurrence) := by
  cases occurrence with
  | bring name sink => exact .passed
  | act action =>
    cases action with
    | subscribe questionId sink =>
      simp only [deedOf, subscription]
      split
      · next job found =>
        split
        · next state told => exact .subscribed rfl found told
        · exact .passed
      · exact .passed
    | unsubscribe jobKey sink => exact .gaveUp rfl
    | tell worker => exact desk.asked_announcementOf _ worker
    | cut runner =>
      cases runner with
      | hand number => exact .passed
      | worker index =>
        simp only [deedOf]
        split
        · exact .passed
        · exact desk.asked_announcementOf _ index
    | fire =>
      simp only [deedOf]
      split
      · exact .fired rfl
      · exact .passed
    | _ => exact .passed

/-! ## What becomes of the relay -/

/-- What a desk has become when its relay has done a deed; what the sinks are does not matter. -/
def Asks (desk after : Desk) (deed : Deed) : Prop :=
  after.station = { desk.station.after deed with
    relay := { (desk.station.after deed).relay with sinks := after.relay.sinks } }

/-- Where nothing is asked of a relay and no time goes by, it stays as it is. -/
theorem station_pass (desk : Desk) : desk.station.after (.pass 0) = desk.station :=
  congrArg (Station.mk desk.relay) (Int.add_zero _)

/-- A desk whose relay has done a deed and nothing else has asked for it. -/
theorem asks_of_station {desk after : Desk} {deed : Deed}
    (same : after.station = desk.station.after deed) : desk.Asks after deed := by
  unfold Asks
  rw [← same]
  rfl

/-- A desk that leaves the relay alone but for its sinks, while time stands still, asks nothing of
it. -/
theorem asks_nothing {desk after : Desk} (now : after.now = desk.now)
    (relay : after.relay = { desk.relay with sinks := after.relay.sinks }) :
    desk.Asks after (.pass 0) := by
  unfold Asks
  rw [station_pass]
  simp only [station]
  rw [← relay, now]

/-- Whether something that occurs concerns sinks that the relay is not asked about: one is brought,
one is closed by whoever gives it up, or the streams are read. -/
def handlesSinks : Occurrence → Bool
  | .bring _ _ | .act (.unsubscribe _ _) | .act .read => true
  | _ => false

section Asking

variable (desk : Desk)

/-- A run that goes on by a step leaves the relay alone, and takes no time. -/
theorem station_work (runner : Runner) (response : Remote.Response) :
    (desk.work runner response).station = desk.station := by
  obtain ⟨store, database, turns, board, hands, went⟩ := desk.work_eq runner response
  rw [went]
  rfl

/-- Announcing a job asks of the relay to tell its sink. -/
theorem station_announce (job : Job) :
    (desk.announce job).station = desk.station.after (announcement job) := by
  unfold announce announcement
  cases JobState.ofJob job with
  | ok state => rfl
  | error failure => exact desk.station_pass.symm

/-- A worker that tells a listener asks of the relay to tell the sink of the job. -/
theorem station_tell (worker : Nat) :
    (desk.tell worker).station = desk.station.after (desk.announcementOf worker) := by
  unfold tell announcementOf
  cases desk.board.telling? worker with
  | none => exact desk.station_pass.symm
  | some told =>
    obtain ⟨listener, job⟩ := told
    dsimp only
    unfold hear
    split
    · obtain ⟨database, stores⟩ := store?_eq desk listener job
      rw [show desk.store? listener job = ((desk.store? listener job).1, { desk with database }) by
        rw [← stores]]
      exact station_announce { desk with database } job
    · exact desk.station_pass.symm

/-- A worker that goes while it is telling a listener asks of the relay to tell the sink of the
job. -/
theorem station_dismiss (worker : Nat) :
    (desk.dismiss worker).station = desk.station.after (desk.announcementOf worker) := by
  unfold dismiss announcementOf
  cases desk.board.telling? worker with
  | none => exact desk.station_pass.symm
  | some told =>
    obtain ⟨listener, job⟩ := told
    dsimp only
    split
    · exact desk.station_announce job
    · exact desk.station_pass.symm

/-- Whoever is cut off asks of the relay what is said. -/
theorem station_cut (runner : Runner) : (desk.cut runner).station =
    desk.station.after (desk.deedOf (.act (.cut runner))) := by
  cases runner with
  | hand number =>
    simp only [deedOf, cut, station_pass]
    split
    · rfl
    · simp only [leaveLine_eq]
      rfl
  | worker index =>
    simp only [deedOf]
    cases running : desk.run? (.worker index) with
    | none =>
      simp only [cut, running]
      exact desk.station_dismiss index
    | some run =>
      simp only [cut, running, leaveLine_eq]
      exact desk.station_pass.symm

/-- Firing a timer asks of the relay to let the first one expire that is due. -/
theorem station_fire : (desk.act .fire).station = desk.station.after (desk.deedOf (.act .fire)) := by
  simp only [act, deedOf, Push.Relay.fire]
  cases due : desk.relay.timers.find? (·.due ≤ desk.now) with
  | none => exact desk.station_pass.symm
  | some timer =>
    have set := List.mem_of_find?_eq_some due
    have ripe : timer.due ≤ desk.now := by simpa using List.find?_some due
    simp only [Station.after, station, set, ripe, and_self, if_true]

/-- Whatever occurs and concerns no other sinks, the relay does what is said and nothing else. -/
theorem station_occur {occurrence : Occurrence} (asked : handlesSinks occurrence = false) :
    (desk.occur occurrence).station = desk.station.after (desk.deedOf occurrence) := by
  cases occurrence with
  | bring name sink => cases asked
  | act action =>
    cases action with
    | visit number =>
      obtain ⟨_, _, _, _, _, went, _⟩ := desk.visit_cases number
      refine Eq.trans ?_ desk.station_pass.symm
      exact show (desk.visit number).station = _ by rw [went]; rfl
    | work runner response =>
      exact (desk.station_work runner response).trans desk.station_pass.symm
    | tell worker => exact desk.station_tell worker
    | cut runner => exact desk.station_cut runner
    | subscribe questionId sink =>
      simp only [occur, act, subscribe, deedOf, subscription]
      cases desk.job? questionId with
      | none => exact desk.station_pass.symm
      | some job =>
        dsimp only
        cases JobState.ofJob job with
        | ok state => rfl
        | error failure => exact desk.station_pass.symm
    | unsubscribe jobKey sink | read => cases asked
    | fire => exact desk.station_fire
    | promote =>
      obtain ⟨database, promoter, went⟩ := desk.promote_eq
      refine Eq.trans ?_ desk.station_pass.symm
      simp only [occur, act, went]
      rfl
    | pass span => rfl
    | _ => exact desk.station_pass.symm

/-- Whatever occurs asks of the relay what is said. -/
theorem asks_occur (occurrence : Occurrence) :
    desk.Asks (desk.occur occurrence) (desk.deedOf occurrence) := by
  cases asked : handlesSinks occurrence with
  | false => exact asks_of_station (desk.station_occur asked)
  | true =>
    unfold handlesSinks at asked
    split at asked
    · simp only [occur, deedOf, Push.Relay.ensure]
      split <;> exact asks_nothing rfl rfl
    · simp only [occur, act, unsubscribe, deedOf, Push.Relay.closeSink]
      split <;> rfl
    · exact asks_nothing rfl rfl
    · cases asked

end Asking

/-- The relay of a service in a course is the one that is watched. -/
theorem station_watch {settings : Settings} {desk : Desk} (started : start settings = .ok desk)
    (occurrences : Nat → Occurrence) (count : Nat) :
    (desk.watch occurrences).station count = (desk.course occurrences count).station := by
  induction count with
  | zero =>
    obtain ⟨_, _, rfl⟩ := start_eq started
    rfl
  | succ count before =>
    have asks := (desk.course occurrences count).asks_occur (occurrences count)
    simp only [Watch.station, before]
    exact asks.symm

end QuestionDesk.Desk
