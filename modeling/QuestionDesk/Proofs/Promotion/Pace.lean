import Mathlib.Data.List.Induction
import QuestionDesk.Proofs.Promotion.Loops

/-!
# The pace of a promoter

Whatever course starts, stops, runs with any outcomes and time take, a promoter that was started has
one loop until it is stopped or a run ends with a failure that is not one of the service, and each
run begins as soon as the interval has passed since the start or the run before. A failure of the
other sort ends the loop, and every stop tells it until the promoter is started again; meanwhile the
service is not closed.
-/
namespace QuestionDesk.Loops

/-- The failure by which an event ends a loop: that of a run, unless it is one of the service. -/
def Event.breaks? : Event → Option Failure
  | .finish _ (.error failure) => if failure.isService then none else some failure
  | _ => none

/-- Whether a loop pauses from a note on. -/
def Note.pauses : Note → Bool
  | .begun | .ran (.ok _) => true
  | .ran (.error failure) => failure.isService
  | _ => false

/-! ## Courses -/

/-- In a course of events there was one of a sort, and every event since is of another sort. -/
def Since (sort kept : Event → Prop) (events : List Event) : Prop :=
  ∃ earlier event later, events = earlier ++ event :: later ∧ sort event ∧
    ∀ other ∈ later, kept other

/-- A promoter works in a course of events when it was started and has neither been stopped since
nor been broken by a failure. -/
def Works (events : List Event) : Prop :=
  Since (· = .start) (fun event => event ≠ .stop ∧ event.breaks? = none) events

/-- A failure has broken a promoter in a course of events when a run ended with it and the promoter
has not been started since. A cancelled run leaves no failure to tell. -/
def Broken (failure : Failure) (events : List Event) : Prop :=
  failure ≠ .cancelled ∧ Since (·.breaks? = some failure)
    (fun event => event ≠ .start ∧ event.breaks? = none) events

/-- Each run began as soon as the interval had passed since the note before it, by which a loop
began or ended a run. -/
def Paced (interval : Micros) (log : List (Micros × Note)) : Prop :=
  ∀ earlier moment later, log = earlier ++ (moment, .woke) :: later →
    ∃ since note, earlier.getLast? = some (since, note) ∧ note.pauses = true ∧
      moment = since + max 0 interval

/-- An item of a list with one more item at its end is the last one, or the list is split there. -/
theorem split_concat {α : Type} {items earlier later : List α} {item other : α}
    (split : items ++ [item] = earlier ++ other :: later) :
    (items = earlier ∧ item = other ∧ later = []) ∨
      ∃ front, later = front ++ [item] ∧ items = earlier ++ other :: front := by
  rcases List.eq_nil_or_concat later with rfl | ⟨front, last, rfl⟩
  · obtain ⟨same, own⟩ := List.append_inj' split rfl
    exact Or.inl ⟨same, List.head_eq_of_cons_eq own, rfl⟩
  · have parts : items ++ [item] = (earlier ++ other :: front) ++ [last] := by
      rw [split, List.concat_eq_append, List.append_assoc, List.cons_append]
    obtain ⟨same, own⟩ := List.append_inj' parts rfl
    cases own
    exact Or.inr ⟨front, List.concat_eq_append, same⟩

/-- What has happened since, with one more event. -/
theorem since_concat {sort kept : Event → Prop} {events : List Event} {event : Event} :
    Since sort kept (events ++ [event]) ↔ sort event ∨ Since sort kept events ∧ kept event := by
  constructor
  · rintro ⟨earlier, first, later, split, own, others⟩
    rcases split_concat split with ⟨rfl, rfl, rfl⟩ | ⟨front, rfl, rfl⟩
    · exact Or.inl own
    · refine Or.inr ⟨⟨earlier, first, front, rfl, own, fun other member => ?_⟩, ?_⟩
      · exact others other (List.mem_append_left _ member)
      · exact others event (List.mem_append_right _ List.mem_cons_self)
  · rintro (own | ⟨⟨earlier, first, later, rfl, own, others⟩, last⟩)
    · exact ⟨events, event, [], rfl, own, by simp⟩
    · refine ⟨earlier, first, later ++ [event], by simp, own, fun other member => ?_⟩
      rcases List.mem_append.mp member with before | here
      · exact others other before
      · exact List.mem_singleton.mp here ▸ last

/-- A log stays paced with one more note, provided a run begins in time if it says so. -/
theorem Paced.concat {interval moment : Micros} {log : List (Micros × Note)} {note : Note}
    (paced : Paced interval log) (inTime : note = .woke → ∃ since before,
      log.getLast? = some (since, before) ∧ before.pauses = true ∧
        moment = since + max 0 interval) : Paced interval (log ++ [(moment, note)]) := by
  intro earlier other later split
  rcases split_concat split with ⟨rfl, own, rfl⟩ | ⟨front, rfl, rfl⟩
  · cases own
    exact inTime rfl
  · exact paced earlier other front rfl

section Courses

variable {setting : Promoter} {events : List Event} {event : Event} {loops next : Loops}
  {current : Option Loop} {failure : Failure}

/-- An event that neither starts, stops nor breaks a promoter has no say in what becomes of it. -/
theorem works_concat (starts : event ≠ .start) (stops : event ≠ .stop)
    (whole : event.breaks? = none) :
    (Works (events ++ [event]) ↔ Works events) ∧
      ∀ failure, Broken failure (events ++ [event]) ↔ Broken failure events := by
  simp [Works, Broken, since_concat, starts, stops, whole]

/-- A promoter that is started works. -/
theorem works_start :
    Works (events ++ [.start]) ∧ ∀ failure, ¬Broken failure (events ++ [.start]) := by
  simp [Works, Broken, since_concat, Event.breaks?]

/-- A promoter that is stopped does not work, and stays broken if it was. -/
theorem works_stop : ¬Works (events ++ [.stop]) ∧
    ∀ failure, Broken failure (events ++ [.stop]) ↔ Broken failure events := by
  simp [Works, Broken, since_concat, Event.breaks?]

/-- A promoter that a failure breaks does not work. -/
theorem works_broken (breaks : event.breaks? = some failure) : ¬Works (events ++ [event]) ∧
    ∀ told, Broken told (events ++ [event]) ↔ failure ≠ .cancelled ∧ failure = told := by
  have other : event ≠ .start := fun same => by
    rw [same] at breaks
    cases breaks
  constructor
  · simp [Works, since_concat, breaks, other]
  · intro told
    simp only [Broken, since_concat, breaks, Option.some.injEq, reduceCtorEq, and_false, or_false]
    exact and_congr_left fun same => by rw [same]

/-- What a course of events leads to, with the loop that is held then. -/
structure Orderly (setting : Promoter) (events : List Event) (loops : Loops)
    (current : Option Loop) : Prop where
  /-- The promoter is set up as it was. -/
  kept : loops.setting = setting
  /-- It holds on to the loop, and no other is alive. -/
  holds : loops.Holds current
  /-- The loop is alive while the promoter works. -/
  works : current.any Loop.alive = true ↔ Works events
  /-- The loop tells what has broken the promoter. -/
  tells (failure : Failure) : current.bind Loop.failure? = some failure ↔ Broken failure events
  /-- Every run began in time. -/
  paced : Paced setting.interval loops.log
  /-- A pause began with the latest note, and has not taken longer than the interval. -/
  pausing : ∀ due, current = some (.pausing due) → ∃ since note,
    loops.log.getLast? = some (since, note) ∧ note.pauses = true ∧
      due = since + setting.interval ∧ since ≤ loops.now ∧
      loops.now ≤ since + max 0 setting.interval

/-- Before anything has happened, no loop is held. -/
theorem orderly_new : Orderly setting [] { setting } none where
  kept := rfl
  holds := .nothing (by simp) rfl
  works := by
    refine iff_of_false (by simp) ?_
    rintro ⟨earlier, event, later, split, _⟩
    cases earlier <;> cases split
  tells failure := by
    refine iff_of_false (by simp) ?_
    rintro ⟨_, earlier, event, later, split, _⟩
    cases earlier <;> cases split
  paced := by
    intro earlier moment later split
    cases earlier <;> cases split
  pausing := by simp

/-- A pause that is over now, and has not taken longer than it should, is over in time. -/
theorem in_time {since interval now : Int} (past : since + interval ≤ now) (began : since ≤ now)
    (inTime : now ≤ since + max 0 interval) : now = since + max 0 interval := by
  omega

/-- A loop goes on after a run unless the run breaks the promoter. -/
theorem after_run (due : Micros) (number : Nat) (outcome : Except Failure Int) :
    (Event.finish number outcome).breaks? = none ∧ Loop.after due outcome = .pausing due ∧
        (Note.ran outcome).pauses = true ∨
      ∃ failure, (Event.finish number outcome).breaks? = some failure ∧
        Loop.after due outcome = .ended failure := by
  cases outcome with
  | ok count => exact Or.inl ⟨rfl, rfl, rfl⟩
  | error failure =>
    cases service : failure.isService with
    | true => exact Or.inl ⟨if_pos service, if_pos service, service⟩
    | false =>
      have other : ¬failure.isService = true := by simp [service]
      exact Or.inr ⟨failure, if_neg other, if_neg other⟩

/-- An interval that has not begun to pass has not passed. -/
theorem soon (since interval : Micros) : since ≤ since + max 0 interval :=
  Int.le_add_of_nonneg_right (Int.le_max_left _ _)

section Steps

variable (orderly : Orderly setting events loops current)

include orderly

/-- Starting leads on to an orderly state. -/
theorem Orderly.start : ∃ after, Orderly setting (events ++ [.start]) loops.start after := by
  obtain ⟨kept, holds, works, tells, paced, pausing⟩ := orderly
  have holdsNow := holds.start
  rw [Loops.start, holds.held?] at holdsNow ⊢
  cases alive : current.any Loop.alive with
  | true =>
    rw [alive] at holdsNow
    refine ⟨current, kept, holdsNow, iff_of_true alive works_start.1, fun failure => ?_, paced,
      pausing⟩
    rw [failure?_of_alive alive]
    exact iff_of_false (by simp) (works_start.2 failure)
  | false =>
    rw [alive] at holdsNow
    refine ⟨_, kept, holdsNow, iff_of_true rfl works_start.1, fun failure => ?_,
      paced.concat (by simp), ?_⟩
    · exact iff_of_false (by simp [Loop.failure?]) (works_start.2 failure)
    · intro due same
      cases same
      refine ⟨loops.now, .begun, List.getLast?_concat, rfl, ?_, Int.le_refl _, soon _ _⟩
      rw [Loops.due, kept]

/-- Stopping leads on to an orderly state. -/
theorem Orderly.stop : ∃ after, Orderly setting (events ++ [.stop]) loops.stop.1 after := by
  obtain ⟨kept, holds, works, tells, paced, pausing⟩ := orderly
  obtain ⟨told, holdsNow, _⟩ := holds.stop
  have dead : (if loops.stop.2.isSome then current else none).any Loop.alive = false := by
    rw [← Bool.not_eq_true]
    intro lives
    split at lives
    · next failed =>
      rw [told, failure?_of_alive lives] at failed
      cases failed
    · cases lives
  refine ⟨_, kept, holdsNow, iff_of_false (by simp [dead]) works_stop.1, fun failure => ?_,
    paced.concat (by simp), ?_⟩
  · rw [works_stop.2, ← tells, ← told]
    cases failed : loops.stop.2 with
    | none => rfl
    | some other => exact Eq.congr_left (told.symm.trans failed)
  · intro due same
    rw [same] at dead
    cases dead

/-- The beginning of a run leads on to an orderly state. -/
theorem Orderly.wake {number : Nat} (steps : loops.step? (.wake number) = some next) :
    ∃ after, Orderly setting (events ++ [.wake number]) next after := by
  obtain ⟨kept, holds, works, tells, paced, pausing⟩ := orderly
  obtain ⟨due, rfl, past, holdsNow, keptNow, logged⟩ := holds.wake steps
  obtain ⟨since, note, before, pauses, rfl, began, inTime⟩ := pausing due rfl
  obtain ⟨worksStill, brokenStill⟩ := @works_concat events (.wake number) (by simp) (by simp) rfl
  refine ⟨_, keptNow.trans kept, holdsNow, works.trans worksStill.symm,
    fun failure => (tells failure).trans (brokenStill failure).symm, ?_, by simp⟩
  rw [logged]
  exact paced.concat fun _ => ⟨since, note, before, pauses, in_time past began inTime⟩

/-- The end of a run leads on to an orderly state. -/
theorem Orderly.finish {number : Nat} {outcome : Except Failure Int}
    (steps : loops.step? (.finish number outcome) = some next) :
    ∃ after, Orderly setting (events ++ [.finish number outcome]) next after := by
  obtain ⟨kept, holds, works, tells, paced, pausing⟩ := orderly
  obtain ⟨due, rfl, holdsNow, keptNow, still, logged⟩ := holds.finish steps
  have pacedNow : Paced setting.interval next.log := logged ▸ paced.concat (by simp)
  -- A pause begins now, unless the run has broken the promoter.
  rcases after_run loops.due number outcome with ⟨whole, goes, pauses⟩ | ⟨failure, breaks, ends⟩
  · obtain ⟨worksStill, brokenStill⟩ :=
      @works_concat events (.finish number outcome) (by simp) (by simp) whole
    rw [goes] at holdsNow
    refine ⟨_, keptNow.trans kept, holdsNow, works.trans worksStill.symm,
      fun failure => (tells failure).trans (brokenStill failure).symm, pacedNow, ?_⟩
    intro pause same
    cases same
    rw [logged, still]
    refine ⟨loops.now, .ran outcome, List.getLast?_concat, pauses, ?_, Int.le_refl _, soon _ _⟩
    rw [Loops.due, kept]
  · obtain ⟨worksNot, brokenNow⟩ := @works_broken events _ _ breaks
    rw [ends] at holdsNow
    refine ⟨_, keptNow.trans kept, holdsNow, iff_of_false (by simp [Loop.alive]) worksNot,
      fun told => ?_, pacedNow, by simp⟩
    rw [brokenNow]
    simp [Loop.failure?]

/-- Time leads on to an orderly state. -/
theorem Orderly.pass {span : Micros} (steps : loops.step? (.pass span) = some next) :
    ∃ after, Orderly setting (events ++ [.pass span]) next after := by
  obtain ⟨kept, holds, works, tells, paced, pausing⟩ := orderly
  obtain ⟨rfl, holdsNow, later, permitted⟩ := holds.pass steps
  obtain ⟨worksStill, brokenStill⟩ := @works_concat events (.pass span) (by simp) (by simp) rfl
  refine ⟨current, kept, holdsNow, works.trans worksStill.symm,
    fun failure => (tells failure).trans (brokenStill failure).symm, paced, fun due same => ?_⟩
  obtain ⟨since, note, before, pauses, rfl, began, _⟩ := pausing due same
  exact ⟨since, note, before, pauses, rfl, Int.le_trans began later,
    Int.le_trans (permitted _ same) (Int.add_le_add_left (Int.le_max_right _ _) _)⟩

/-- What an event leads to from an orderly state is orderly. -/
theorem Orderly.step (steps : loops.step? event = some next) :
    ∃ after, Orderly setting (events ++ [event]) next after := by
  cases event with
  | start =>
    cases steps
    exact orderly.start
  | stop =>
    cases steps
    exact orderly.stop
  | wake number => exact orderly.wake steps
  | finish number outcome => exact orderly.finish steps
  | pass span => exact orderly.pass steps

end Steps

/-- Every course of events leads to an orderly state. -/
theorem orderly_after (leads : after setting events = some loops) :
    ∃ current, Orderly setting events loops current := by
  -- The induction is on the last event; what came before has led to an orderly state.
  induction events using List.reverseRecOn generalizing loops with
  | nil =>
    cases leads
    exact ⟨none, orderly_new⟩
  | append_singleton events event ih =>
    rw [after, List.foldlM_append] at leads
    obtain ⟨before, led, steps⟩ := Option.bind_eq_some_iff.mp leads
    obtain ⟨current, orderly⟩ := ih led
    rw [List.foldlM_cons] at steps
    obtain ⟨now, steps, same⟩ := Option.bind_eq_some_iff.mp steps
    cases same
    exact orderly.step steps

end Courses

/-! ## The pace of a promoter -/

/-- What holds of the loops of a promoter after a course of events. -/
structure KeepsPace (setting : Promoter) (events : List Event) (loops : Loops) : Prop where
  /-- One loop is alive while the promoter works, and otherwise none. -/
  alone : loops.alive ≤ 1 ∧ (loops.alive = 1 ↔ Works events)
  /-- Starting a promoter that works changes nothing. -/
  again : Works events → loops.start = loops
  /-- A promoter that is started has one loop. -/
  starts : loops.start.alive = 1
  /-- Each run began when the interval had passed since the loop began or its last run ended. -/
  paced : Paced setting.interval loops.log
  /-- No more time passes during a pause, and a run can begin then. -/
  pausing : ∀ number due, loops.begun[number]? = some (.pausing due) → ∃ since note,
    loops.log.getLast? = some (since, note) ∧ note.pauses = true ∧
      loops.now ≤ since + max 0 setting.interval ∧
      (loops.now = since + max 0 setting.interval → (loops.step? (.wake number)).isSome = true)
  /-- Stopping tells the failure that has broken the promoter, if one has. -/
  tells : ∀ failure, loops.stop.2 = some failure ↔ Broken failure events
  /-- A stop that tells no failure leaves no loop. -/
  released : loops.stop.2 = none → loops.stop.1.alive = 0 ∧ loops.stop.1.held = none
  /-- A stop that tells a failure leaves the loops as they are, so the next one tells it again. -/
  stuck : ∀ failure, loops.stop.2 = some failure →
    loops.alive = 0 ∧ loops.stop.1.begun = loops.begun ∧ loops.stop.1.stop.2 = some failure
  /-- The promoter of the loops goes along with every event, and tells what they tell. -/
  follows : ∀ event next, loops.step? event = some next →
    next.promoter = loops.promoter.follow loops.now event ∧
      ∀ number, event = .wake number → loops.promoter.isDue loops.now = true
  /-- A service with the promoter is closed, and all workers go, unless stopping tells a failure. -/
  closes : ∀ desk : Desk, desk.promoter = loops.promoter → loops.stop.2 = none →
    desk.closeDown.1 = .ok () ∧ desk.closeDown.2.board.workers = []
  /-- With a failure that stopping tells, the service stays as it is. -/
  remains : ∀ (desk : Desk) failure, desk.promoter = loops.promoter →
    loops.stop.2 = some failure → desk.closeDown = (.error failure, desk)

/-- Whatever course starts, stops, runs with any outcomes and time take, the loops of a promoter
keep its pace. -/
theorem promoter_keeps_pace {setting : Promoter} {events : List Event} {loops : Loops}
    (leads : after setting events = some loops) : KeepsPace setting events loops := by
  obtain ⟨current, kept, holds, works, tells, paced, pausing⟩ := orderly_after leads
  have alive := holds.alive
  constructor
  case alone =>
    rw [alive, ← works]
    split <;> simp [*]
  case again =>
    intro working
    rw [start, holds.held?, if_pos (works.mpr working)]
  case starts =>
    rw [holds.start.alive]
    cases lives : current.any Loop.alive <;> simp [lives, Loop.alive]
  case paced => exact paced
  case pausing =>
    intro number due found
    obtain ⟨rfl, _⟩ := holds.own found rfl
    obtain ⟨since, note, before, pauses, rfl, began, inTime⟩ := pausing due rfl
    refine ⟨since, note, before, pauses, inTime, fun past => ?_⟩
    have ends : since + setting.interval ≤ loops.now :=
      past ▸ Int.add_le_add_left (Int.le_max_right _ _) _
    simp only [step?, found, if_pos ends, Option.isSome_some]
  case tells =>
    intro failure
    rw [holds.stop.1]
    exact tells failure
  case released => exact holds.released
  case stuck => exact fun failure => holds.stuck
  case follows => exact fun event next => holds.follows
  case closes => exact fun desk own => (holds.closeDown own).1
  case remains => exact fun desk failure own => (holds.closeDown own).2 failure

/-- A promoter that was started twice and whose first run the database refused runs again after a
pause, and is stopped with no failure and no loop left. -/
theorem promoter_keeps_pace_refused :
    let events : List Event := [.start, .pass 4, .start, .pass 6, .wake 0, .pass 1,
      .finish 0 (.error (.persistence "refused")), .pass 10, .wake 0, .finish 0 (.ok 2)]
    let loops : Loops := {
      setting := { interval := 10 }
      now := 21
      begun := [.pausing 31]
      held := some 0
      log := [(0, .begun), (10, .woke), (11, .ran (.error (.persistence "refused"))), (21, .woke),
        (21, .ran (.ok 2))] }
    after { interval := 10 } events = some loops ∧ Works events ∧ loops.alive = 1 ∧
      loops.stop.2 = none ∧ loops.stop.1.alive = 0 := by
  intro events loops
  have leads : after { interval := 10 } events = some loops := rfl
  have pace := promoter_keeps_pace leads
  have one : loops.alive = 1 := rfl
  have silent : loops.stop.2 = none := rfl
  exact ⟨leads, pace.alone.2.mp one, one, silent, (pace.released silent).1⟩

/-- A run that ends with a failure that is none of the service leaves a promoter that was started
without a loop. Each stop tells the failure, and a service with the promoter is not closed. -/
theorem failing_run_breaks_promoter : ∃ loops,
    after { interval := Micros.ofSeconds 10 } [.start, .pass (Micros.ofSeconds 10), .wake 0,
      .finish 0 (.error (.other "ValueError" "x"))] = some loops ∧
    loops.alive = 0 ∧ loops.stop.2 = some (.other "ValueError" "x") ∧
    loops.stop.1.stop.2 = some (.other "ValueError" "x") ∧
    ∀ desk : Desk, desk.promoter = loops.promoter →
      desk.closeDown = (.error (.other "ValueError" "x"), desk) := by
  refine ⟨_, rfl, rfl, rfl, rfl, fun desk own => ?_⟩
  rw [Desk.closeDown, own]
  rfl

end QuestionDesk.Loops
