import QuestionDesk.Desk.Action

/-!
# Loops

Starting a promoter begins a loop, which pauses, runs, pauses again and so on, while the promoter
holds on to it; stopping cuts off the loop that is held and waits for its end. Of all loops that
were begun only the one that is held can be alive, and so the promoter, which knows of this one
only, goes along with whatever happens to all of them.
-/
namespace QuestionDesk

/-! ## A loop -/

/-- What a loop that was begun is doing. -/
inductive Loop where
  /-- It pauses until a moment. -/
  | pausing (due : Micros)
  /-- It has paused until a moment, and a run of it goes on. -/
  | running (due : Micros)
  /-- It is over: it was cut off, or a failure has ended it. -/
  | ended (failure : Failure)
  deriving DecidableEq, Repr

namespace Loop

/-- Whether a loop is alive. -/
def alive : Loop → Bool
  | .ended _ => false
  | _ => true

/-- A loop that is cut off, if it is alive. -/
def cut (loop : Loop) : Loop := if loop.alive then .ended .cancelled else loop

/-- The failure that is told by waiting for the end of a loop. -/
def failure? : Loop → Option Failure
  | .ended failure => if failure = .cancelled then none else some failure
  | _ => none

/-- A loop after a run of it, given until when it pauses if it goes on. -/
def after (due : Micros) : Except Failure Int → Loop
  | .ok _ => .pausing due
  | .error failure => if failure.isService then .pausing due else .ended failure

/-- Whether time may go on to a moment: a loop whose pause is over runs first. -/
def permits (moment : Micros) : Loop → Bool
  | .pausing due => moment ≤ due
  | _ => true

/-- What a promoter that holds on to a loop is doing. -/
def errand : Loop → Errand
  | .pausing due | .running due => .pausing due
  | .ended failure => .ended failure

/-- Cutting a loop off does not change what waiting for it tells. -/
theorem failure?_cut (loop : Loop) : loop.cut.failure? = loop.failure? := by
  cases loop <;> rfl

/-- No loop is alive once it was cut off. -/
theorem alive_cut (loop : Loop) : loop.cut.alive = false := by
  cases loop <;> rfl

/-- A loop that is not alive is left as it is when it is cut off. -/
theorem cut_of_ended {loop : Loop} (dead : loop.alive = false) : loop.cut = loop := by
  rw [cut, dead]
  rfl

/-- A loop that tells a failure is not alive. -/
theorem ended_of_failure? {loop : Loop} {failure : Failure} (tells : loop.failure? = some failure) :
    loop.alive = false := by
  cases loop with
  | ended _ => rfl
  | pausing _ => cases tells
  | running _ => cases tells

end Loop

/-! ## The loops of a promoter -/

namespace Loops

/-- What happens to loops. -/
inductive Event where
  /-- The promoter is started. -/
  | start
  /-- The promoter is stopped. -/
  | stop
  /-- A loop whose pause is over begins to run. -/
  | wake (number : Nat)
  /-- A run of a loop ends. -/
  | finish (number : Nat) (outcome : Except Failure Int)
  /-- Time passes. -/
  | pass (span : Micros)

/-- What is noted of loops. -/
inductive Note where
  /-- A loop was begun. -/
  | begun
  /-- A run began. -/
  | woke
  /-- A run ended. -/
  | ran (outcome : Except Failure Int)
  /-- The promoter was stopped, which told a failure or none. -/
  | stopped (told : Option Failure)

end Loops

/-- All loops that a promoter has begun, and the one it holds on to. -/
structure Loops where
  /-- How the promoter was set up. -/
  setting : Promoter
  /-- The moment. -/
  now : Micros := 0
  /-- The loops, in the order in which they were begun. -/
  begun : List Loop := []
  /-- The number of the loop that the promoter holds on to. -/
  held : Option Nat := none
  /-- What was noted, and when. -/
  log : List (Micros × Loops.Note) := []

namespace Loops

/-- The loop that the promoter holds on to. -/
def held? (loops : Loops) : Option Loop := loops.held.bind (loops.begun[·]?)

/-- The number of loops that are alive. -/
def alive (loops : Loops) : Nat := loops.begun.countP Loop.alive

/-- Until when a loop pauses whose pause begins now. -/
def due (loops : Loops) : Micros := loops.now + loops.setting.interval

/-- The promoter that has begun the loops. -/
def promoter (loops : Loops) : Promoter :=
  { loops.setting with errand := loops.held?.map Loop.errand }

/-- Begins a loop, unless the promoter holds on to one that is alive. -/
def start (loops : Loops) : Loops :=
  if loops.held?.any Loop.alive then loops
  else { loops with
    begun := loops.begun ++ [.pausing loops.due]
    held := some loops.begun.length
    log := loops.log ++ [(loops.now, .begun)] }

/-- Cuts off the loop that the promoter holds on to and waits for its end. The promoter lets go of
it unless that tells a failure. -/
def stop (loops : Loops) : Loops × Option Failure :=
  let left := loops.held.elim loops.begun fun number => loops.begun.modify number Loop.cut
  let told := (loops.held.bind (left[·]?)).bind Loop.failure?
  ({ loops with
      begun := left
      held := if told.isSome then loops.held else none
      log := loops.log ++ [(loops.now, .stopped told)] }, told)

/-- The loops after an event, if it can happen. -/
def step? (loops : Loops) : Event → Option Loops
  | .start => some loops.start
  | .stop => some loops.stop.1
  | .wake number =>
    match loops.begun[number]? with
    | some (.pausing due) =>
      if due ≤ loops.now then some { loops with
        begun := loops.begun.set number (.running due)
        log := loops.log ++ [(loops.now, .woke)] }
      else none
    | _ => none
  | .finish number outcome =>
    match loops.begun[number]? with
    | some (.running _) => some { loops with
        begun := loops.begun.set number (Loop.after loops.due outcome)
        log := loops.log ++ [(loops.now, .ran outcome)] }
    | _ => none
  | .pass span =>
    if 0 ≤ span && loops.begun.all (Loop.permits (loops.now + span)) then
      some { loops with now := loops.now + span }
    else none

/-- The loops of a promoter after a course of events, if it is possible. -/
def after (setting : Promoter) (events : List Event) : Option Loops :=
  events.foldlM step? { setting }

/-! ## The loop that is held -/

/-- Which loop the promoter holds on to, if any: the last one that was begun. All others are
over. -/
inductive Holds (loops : Loops) : Option Loop → Prop
  /-- It holds on to none. -/
  | nothing (gone : ∀ loop ∈ loops.begun, loop.alive = false) (free : loops.held = none) :
    Holds loops none
  /-- It holds on to one. -/
  | last {before : List Loop} {loop : Loop} (gone : ∀ loop ∈ before, loop.alive = false)
    (begun : loops.begun = before ++ [loop]) (held : loops.held = some before.length) :
    Holds loops (some loop)

/-- Changing the last item. -/
theorem modify_concat (before : List Loop) (loop : Loop) (change : Loop → Loop) :
    (before ++ [loop]).modify before.length change = before ++ [change loop] := by
  induction before with
  | nil => rfl
  | cons first before ih => exact congrArg (first :: ·) ih

/-- A loop that is held and alive tells no failure. -/
theorem failure?_of_alive {current : Option Loop} (alive : current.any Loop.alive = true) :
    current.bind Loop.failure? = none := by
  rcases current with _ | (due | due | failure)
  · rfl
  · rfl
  · rfl
  · cases alive

section Holding

variable {loops next : Loops} {current : Option Loop}

/-- The loop that is held. -/
theorem Holds.held? (holds : loops.Holds current) : loops.held? = current := by
  cases holds with
  | nothing _ free => rw [Loops.held?, free, Option.bind_none]
  | last _ begun held =>
    rw [Loops.held?, held, begun, Option.bind_some]
    exact List.getElem?_concat_length

/-- One loop is alive if the one that is held is so, and otherwise none. -/
theorem Holds.alive (holds : loops.Holds current) :
    loops.alive = if current.any Loop.alive then 1 else 0 := by
  have none {begun : List Loop} (gone : ∀ loop ∈ begun, loop.alive = false) :
      begun.countP Loop.alive = 0 :=
    List.countP_eq_zero.mpr fun loop member => by simp [gone loop member]
  cases holds with
  | nothing gone _ => exact none gone
  | last gone begun _ =>
    rw [Loops.alive, begun, List.countP_append, none gone, Nat.zero_add, List.countP_singleton]
    rfl

/-- A loop that is alive is the one that is held, and any change to it is a change to that one. -/
theorem Holds.own (holds : loops.Holds current) {number : Nat} {loop : Loop}
    (found : loops.begun[number]? = some loop) (alive : loop.alive = true) :
    current = some loop ∧ ∀ {other : Loop} {changed : Loops},
      changed.begun = loops.begun.set number other → changed.held = loops.held →
        changed.Holds (some other) := by
  cases holds with
  | nothing gone _ =>
    rw [gone loop (List.mem_of_getElem? found)] at alive
    cases alive
  | @last before last gone begun held =>
    rw [begun] at found
    have bound : number < (before ++ [last]).length := (List.getElem?_eq_some_iff.mp found).1
    -- The loops before the last one are over, so a loop that is alive has the last number.
    have here : number = before.length := by
      rcases Nat.lt_or_ge number before.length with earlier | later
      · rw [List.getElem?_append_left earlier] at found
        rw [gone loop (List.mem_of_getElem? found)] at alive
        cases alive
      · rw [List.length_append, List.length_singleton] at bound
        omega
    subst here
    rw [List.getElem?_concat_length] at found
    refine ⟨found, fun set kept => .last gone ?_ (kept.trans held)⟩
    rw [set, begun, List.set_append_right _ _ (Nat.le_refl _), Nat.sub_self]
    rfl

/-- The loop that is held after a start. -/
theorem Holds.start (holds : loops.Holds current) : loops.start.Holds
    (if current.any Loop.alive then current else some (.pausing loops.due)) := by
  rw [Loops.start, holds.held?]
  split
  · exact holds
  · next dead =>
    refine .last (fun loop member => ?_) rfl rfl
    cases holds with
    | nothing gone _ => exact gone loop member
    | last gone begun _ =>
      rw [begun, List.mem_append, List.mem_singleton] at member
      rcases member with before | rfl
      · exact gone loop before
      · simpa using dead

/-- What a stop tells, and the loop that is held after it. -/
theorem Holds.stop (holds : loops.Holds current) :
    loops.stop.2 = current.bind Loop.failure? ∧
      loops.stop.1.Holds (if loops.stop.2.isSome then current else none) ∧
      (loops.stop.2.isSome → loops.stop.1.begun = loops.begun) := by
  cases holds with
  | nothing gone free =>
    have told : loops.stop.2 = none := by
      rw [Loops.stop, free]
      rfl
    rw [told]
    refine ⟨rfl, .nothing ?_ ?_, by simp⟩
    · rw [Loops.stop, free]
      exact gone
    · rw [Loops.stop, free]
      rfl
  | @last before loop gone begun held =>
    have left : loops.begun.modify before.length Loop.cut = before ++ [loop.cut] := by
      rw [begun, modify_concat]
    have stopped : loops.stop = ({ loops with
        begun := before ++ [loop.cut]
        held := if loop.failure?.isSome then loops.held else none
        log := loops.log ++ [(loops.now, .stopped loop.failure?)] }, loop.failure?) := by
      rw [Loops.stop, held, Option.elim_some, left, Option.bind_some,
        List.getElem?_concat_length, Option.bind_some, loop.failure?_cut]
    rw [stopped]
    refine ⟨rfl, ?_, fun tells => ?_⟩
    · -- The promoter lets go of the loop, which is over now, unless that was over with a failure.
      cases tells : loop.failure? with
      | none =>
        refine .nothing (fun other member => ?_) rfl
        rcases List.mem_append.mp member with earlier | own
        · exact gone other earlier
        · rw [List.mem_singleton.mp own]
          exact loop.alive_cut
      | some failure =>
        refine .last gone ?_ held
        rw [Loop.cut_of_ended (Loop.ended_of_failure? tells)]
    · obtain ⟨failure, tells⟩ := Option.isSome_iff_exists.mp tells
      rw [begun, Loop.cut_of_ended (Loop.ended_of_failure? tells)]

/-- A stop that tells nothing leaves no loop, and the promoter holds on to none. -/
theorem Holds.released (holds : loops.Holds current) (silent : loops.stop.2 = none) :
    loops.stop.1.alive = 0 ∧ loops.stop.1.held = none := by
  have holdsNow := holds.stop.2.1
  rw [silent] at holdsNow
  refine ⟨holdsNow.alive, ?_⟩
  cases holdsNow with
  | nothing _ free => exact free

/-- A stop that tells a failure leaves the loops, none of which is alive, and so the next stop tells
the failure again. -/
theorem Holds.stuck (holds : loops.Holds current) {failure : Failure}
    (tells : loops.stop.2 = some failure) : loops.alive = 0 ∧ loops.stop.1.begun = loops.begun ∧
      loops.stop.1.stop.2 = some failure := by
  obtain ⟨told, holdsNow, same⟩ := holds.stop
  rw [tells] at holdsNow same
  refine ⟨?_, same rfl, holdsNow.stop.1.trans (told.symm.trans tells)⟩
  rw [holds.alive, if_neg]
  intro lives
  rw [told, failure?_of_alive lives] at tells
  cases tells

/-- A run begins on the loop that is held, once its pause is over. -/
theorem Holds.wake (holds : loops.Holds current) {number : Nat}
    (steps : loops.step? (.wake number) = some next) :
    ∃ due, current = some (.pausing due) ∧ due ≤ loops.now ∧ next.Holds (some (.running due)) ∧
      next.setting = loops.setting ∧ next.log = loops.log ++ [(loops.now, .woke)] := by
  rw [step?] at steps
  split at steps
  · next due found =>
    split at steps
    · next past =>
      obtain ⟨same, changes⟩ := holds.own found rfl
      cases steps
      exact ⟨due, same, past, changes rfl rfl, rfl, rfl⟩
    · cases steps
  · cases steps

/-- A run ends on the loop that is held. -/
theorem Holds.finish (holds : loops.Holds current) {number : Nat} {outcome : Except Failure Int}
    (steps : loops.step? (.finish number outcome) = some next) :
    ∃ due, current = some (.running due) ∧ next.Holds (some (Loop.after loops.due outcome)) ∧
      next.setting = loops.setting ∧ next.now = loops.now ∧
      next.log = loops.log ++ [(loops.now, .ran outcome)] := by
  rw [step?] at steps
  split at steps
  · next due found =>
    obtain ⟨same, changes⟩ := holds.own found rfl
    cases steps
    exact ⟨due, same, changes rfl rfl, rfl, rfl, rfl⟩
  · cases steps

/-- Time passes no further than to the end of a pause. -/
theorem Holds.pass (holds : loops.Holds current) {span : Micros}
    (steps : loops.step? (.pass span) = some next) :
    next = { loops with now := loops.now + span } ∧ next.Holds current ∧ loops.now ≤ next.now ∧
      ∀ due, current = some (.pausing due) → next.now ≤ due := by
  rw [step?] at steps
  split at steps
  · next passes =>
    rw [Bool.and_eq_true, decide_eq_true_eq, List.all_eq_true] at passes
    cases steps
    refine ⟨rfl, ?_, Int.le_add_of_nonneg_right passes.1, fun due pausing => ?_⟩
    · cases holds with
      | nothing gone free => exact .nothing gone free
      | last gone begun held => exact .last gone begun held
    · subst pausing
      cases holds with
      | last gone begun held =>
        have permitted := passes.2 (.pausing due) (begun ▸ by simp)
        exact of_decide_eq_true permitted
  · cases steps

end Holding

/-! ## The promoter of the loops -/

end Loops

/-- A promoter after an event. -/
def Promoter.follow (promoter : Promoter) (now : Micros) : Loops.Event → Promoter
  | .start => promoter.start now
  | .stop => promoter.stop.1
  | .finish _ outcome => promoter.afterRun now outcome
  | .wake _ | .pass _ => promoter

namespace Loops

section Following

variable {loops next : Loops} {current : Option Loop}

/-- The promoter that holds on to a loop. -/
theorem Holds.promoter (holds : loops.Holds current) :
    loops.promoter = { loops.setting with errand := current.map Loop.errand } := by
  rw [Loops.promoter, holds.held?]

/-- The promoter of the loops stops as they do. -/
theorem Holds.promoter_stop (holds : loops.Holds current) :
    loops.promoter.stop = (loops.stop.1.promoter, loops.stop.2) := by
  obtain ⟨told, left, _⟩ := holds.stop
  rw [left.promoter, told, holds.promoter]
  have kept : loops.stop.1.setting = loops.setting := rfl
  rw [kept]
  rcases current with _ | (due | due | failure)
  · rfl
  · rfl
  · rfl
  · simp only [Option.map_some, Loop.errand, Promoter.stop, Option.bind_some, Loop.failure?]
    split <;> rfl

/-- The promoter of the loops goes along with every event, and is due when a run begins. -/
theorem Holds.follows (holds : loops.Holds current) {event : Event}
    (steps : loops.step? event = some next) :
    next.promoter = loops.promoter.follow loops.now event ∧
      ∀ number, event = .wake number → loops.promoter.isDue loops.now = true := by
  cases event with
  | start =>
    cases steps
    refine ⟨?_, by simp⟩
    have kept : loops.start.setting = loops.setting := by
      unfold Loops.start
      split <;> rfl
    rw [holds.start.promoter, Promoter.follow, holds.promoter, kept]
    rcases current with _ | (due | due | failure) <;> rfl
  | stop =>
    cases steps
    refine ⟨?_, by simp⟩
    rw [Promoter.follow, holds.promoter_stop]
  | wake number =>
    obtain ⟨due, rfl, past, holdsNow, kept, _⟩ := holds.wake steps
    rw [holdsNow.promoter, kept, Promoter.follow, holds.promoter]
    exact ⟨rfl, fun _ _ => decide_eq_true past⟩
  | finish number outcome =>
    obtain ⟨due, rfl, holdsNow, kept, _, _⟩ := holds.finish steps
    refine ⟨?_, by simp⟩
    rw [holdsNow.promoter, kept, Promoter.follow, holds.promoter]
    cases outcome with
    | ok count => rfl
    | error failure =>
      simp only [Loop.after, Promoter.afterRun]
      split <;> rfl
  | pass span =>
    obtain ⟨rfl, _, _, _⟩ := holds.pass steps
    exact ⟨rfl, by simp⟩

/-- A service with the promoter of the loops is closed, and all workers go, where stopping tells
nothing; otherwise it stays as it is, and the failure is told. -/
theorem Holds.closeDown (holds : loops.Holds current) {desk : Desk}
    (own : desk.promoter = loops.promoter) :
    (loops.stop.2 = none → desk.closeDown.1 = .ok () ∧ desk.closeDown.2.board.workers = []) ∧
      ∀ failure, loops.stop.2 = some failure → desk.closeDown = (.error failure, desk) := by
  have stops : desk.promoter.stop = (loops.stop.1.promoter, loops.stop.2) :=
    own ▸ holds.promoter_stop
  rw [Desk.closeDown, stops]
  constructor
  · intro silent
    rw [silent]
    exact ⟨rfl, rfl⟩
  · intro failure tells
    rw [tells]

end Following

end Loops

end QuestionDesk
