import QuestionDesk.Push.Relay

/-!
# Lines

What a relay holds about one job: the sink that is registered for it and the timers that are set for
it. Each operation changes the line of one job, in one of few ways, and leaves the lines of all
other jobs as they are. Beside that stands what each operation does to the sinks.
-/
namespace QuestionDesk.Push

/-! ## What is asked of a relay -/

/-- Something that is asked of a relay, or that happens to it. -/
inductive Deed where
  /-- A sink is registered for a job and told the first state. -/
  | setup (key sink : String) (state : JobState)
  /-- The registered sink of a job is told a state. -/
  | send (key : String) (state : JobState)
  /-- The connection of a job is closed. -/
  | close (key : String)
  /-- The connection of a job is closed if a sink is still the registered one. -/
  | closeIfCurrent (key sink : String)
  /-- A timer that is due fires; of several any may come first. -/
  | expire (timer : Timer)
  /-- Time goes by. -/
  | pass (span : Nat)

/-- The job that a deed is about. -/
def Deed.key? : Deed → Option String
  | .setup key _ _ | .send key _ | .close key | .closeIfCurrent key _ => some key
  | .expire timer => some timer.key
  | .pass _ => none

/-- A relay at a moment. -/
structure Station where
  /-- The relay. -/
  relay : Relay
  /-- The moment. -/
  now : Micros

/-- What a relay does to a sink for a job. -/
inductive Touch where
  /-- It writes a state, which the sink takes. -/
  | told (key sink : String) (state : JobState)
  /-- It writes a state, which the sink refuses. -/
  | refused (key sink : String) (state : JobState)
  /-- It closes the sink. -/
  | closed (key sink : String)
  deriving DecidableEq, Repr

namespace Touch

/-- The job for which a sink is touched. -/
def key : Touch → String
  | .told key _ _ | .refused key _ _ | .closed key _ => key

/-- The sink that is touched. -/
def sink : Touch → String
  | .told _ sink _ | .refused _ sink _ | .closed _ sink => sink

/-- What becomes of the sinks. -/
def on (sinks : Keyed Sink) : Touch → Keyed Sink
  | .told _ name state =>
    match (sinks.find? name).bind fun sink => (sink.write state).toOption with
    | some written => sinks.put name written
    | none => sinks
  | .refused _ _ _ => sinks
  | .closed _ name =>
    match sinks.find? name with
    | some sink => sinks.put name sink.close
    | none => sinks

end Touch

namespace Relay

/-- Whether a sink takes a state. -/
def accepts (relay : Relay) (name : String) (state : JobState) : Bool :=
  (relay.sinks.find? name).any fun sink => (sink.write state).isOk

/-- What is done to the registered sink of a job to tell it a state: one that refuses is closed. -/
def telling (relay : Relay) (key name : String) (state : JobState) : List Touch :=
  if relay.accepts name state then [.told key name state]
  else [.refused key name state, .closed key name]

/-- What is done to the registered sink of a job, if there is one, to close it. -/
def closing (relay : Relay) (key : String) : List Touch :=
  (relay.connections.find? key).toList.map (.closed key)

end Relay

namespace Station

/-- The station after a deed. -/
def after (station : Station) : Deed → Station
  | .setup key sink state =>
    { station with relay := station.relay.setup station.now key sink state }
  | .send key state => { station with relay := station.relay.send station.now key state }
  | .close key => { station with relay := station.relay.closeConnection key }
  | .closeIfCurrent key sink => { station with relay := station.relay.closeIfCurrent key sink }
  | .expire timer =>
    if timer ∈ station.relay.timers ∧ timer.due ≤ station.now then
      { station with relay := station.relay.expire timer }
    else station
  | .pass span => { station with now := station.now + span }

/-- What a deed does to the sinks. -/
def touches (station : Station) : Deed → List Touch
  | .setup key sink state => station.relay.telling key sink state
  | .send key state =>
    match station.relay.connections.find? key with
    | some sink => station.relay.telling key sink state
    | none => []
  | .close key => station.relay.closing key
  | .closeIfCurrent key sink =>
    if station.relay.connections.find? key = some sink then [.closed key sink] else []
  | .expire timer =>
    if (timer ∈ station.relay.timers ∧ timer.due ≤ station.now) ∧
        station.relay.connections.find? timer.key = some timer.sink then
      [.closed timer.key timer.sink]
    else []
  | .pass _ => []

end Station

/-! ## What a relay holds about a job -/

/-- What a relay holds about a job. -/
@[ext]
structure Line where
  /-- The registered sink. -/
  sink? : Option String
  /-- The timers that are set. -/
  timers : List Timer

namespace Relay

/-- What a relay holds about a job. -/
def line (relay : Relay) (key : String) : Line :=
  ⟨relay.connections.find? key, relay.timers.filter (·.key = key)⟩

section Operations

variable (relay : Relay) {key other : String}

/-- Closing a sink has no part in what is held about any job. -/
theorem line_closeSink (name : String) : (relay.closeSink name).line key = relay.line key := by
  unfold closeSink
  split <;> rfl

/-- A job whose timers are cancelled keeps its sink. -/
theorem line_cancelTimer_self :
    (relay.cancelTimer key).line key = ⟨relay.connections.find? key, []⟩ := by
  simp [cancelTimer, line, List.filter_filter]

/-- Cancelling the timers of a job has no part in other jobs. -/
theorem line_cancelTimer_ne (different : other ≠ key) :
    (relay.cancelTimer key).line other = relay.line other := by
  have kept : ∀ timer ∈ relay.timers,
      ((decide (timer.key = other) && (timer.key != key)) = decide (timer.key = other)) := by
    intro timer _
    by_cases own : timer.key = other
    · simp [own, different]
    · simp [own]
  simp only [cancelTimer, line, List.filter_filter, List.filter_congr kept]

/-- Nothing is held about a job whose connection was closed. -/
theorem line_closeConnection_self : (relay.closeConnection key).line key = ⟨none, []⟩ := by
  have quiet := @line_cancelTimer_self relay key
  unfold closeConnection
  split
  · next unregistered => rw [quiet, unregistered]
  · rw [line_closeSink]
    have timers : ((relay.cancelTimer key).line key).timers = [] := by rw [quiet]
    exact Line.ext (Keyed.find?_without_self _ _) timers

/-- Closing a connection has no part in other jobs. -/
theorem line_closeConnection_ne (different : other ≠ key) :
    (relay.closeConnection key).line other = relay.line other := by
  unfold closeConnection
  split
  · exact relay.line_cancelTimer_ne different
  · rw [line_closeSink, ← relay.line_cancelTimer_ne different]
    exact Line.ext (Keyed.find?_without_ne _ different) rfl

/-- A sink that is no longer the registered one is not closed. -/
theorem closeIfCurrent_of_ne {name : String} (other : relay.connections.find? key ≠ some name) :
    relay.closeIfCurrent key name = relay := if_neg other

/-- A sink that is still the registered one is closed. -/
theorem closeIfCurrent_of_eq {name : String} (current : relay.connections.find? key = some name) :
    relay.closeIfCurrent key name = relay.closeConnection key := if_pos current

/-- A sink that takes a state is told it, and after the last state of a job the timer of the job
starts anew. -/
theorem tell_of_accepts {now : Micros} {name : String} {state : JobState}
    (takes : relay.accepts name state = true) :
    relay.tell now key name state =
      { relay with
        sinks := Touch.on relay.sinks (.told key name state)
        timers := if state.isTerminal then
          (relay.cancelTimer key).timers ++ [⟨key, name, now + relay.closeDelay⟩]
          else relay.timers } := by
  unfold accepts at takes
  cases found : relay.sinks.find? name with
  | none => simp [found] at takes
  | some sink =>
    cases written : sink.write state with
    | error failure => simp [found, written, Except.isOk, Except.toBool] at takes
    | ok taken =>
      simp only [tell, found, written, Touch.on, Option.bind_some, Except.toOption]
      split <;> rfl

/-- A sink that refuses a state loses its connection. -/
theorem tell_of_refuses {now : Micros} {name : String} {state : JobState}
    (refuses : relay.accepts name state = false) :
    relay.tell now key name state = relay.closeConnection key := by
  unfold accepts at refuses
  cases found : relay.sinks.find? name with
  | none => simp only [tell, found]
  | some sink =>
    cases written : sink.write state with
    | error failure => simp only [tell, found, written]
    | ok taken => simp [found, written, Except.isOk, Except.toBool] at refuses

/-- What is held about a job after a sink took a state that it was told. -/
theorem line_tell_self {now : Micros} {name : String} {state : JobState}
    (takes : relay.accepts name state = true) :
    (relay.tell now key name state).line key = ⟨(relay.line key).sink?,
      if state.isTerminal then [⟨key, name, now + relay.closeDelay⟩]
      else (relay.line key).timers⟩ := by
  rw [tell_of_accepts relay takes]
  split
  · simp [line, cancelTimer, List.filter_filter]
  · rfl

/-- Telling the sink of a job has no part in other jobs. -/
theorem line_tell_ne {now : Micros} {name : String} {state : JobState} (different : other ≠ key) :
    (relay.tell now key name state).line other = relay.line other := by
  cases takes : relay.accepts name state with
  | false => rw [tell_of_refuses relay takes, line_closeConnection_ne relay different]
  | true =>
    rw [tell_of_accepts relay takes]
    split
    · have kept := congrArg Line.timers (relay.line_cancelTimer_ne different)
      simpa [line, different.symm] using kept
    · rfl

/-- Taking a timer away has no part in other jobs. -/
theorem line_erase_ne {timer : Timer} (different : other ≠ timer.key) :
    ({ relay with timers := relay.timers.erase timer } : Relay).line other = relay.line other := by
  have unkept : ∀ timers : List Timer,
      (timers.erase timer).filter (·.key = other) = timers.filter (·.key = other) := by
    intro timers
    induction timers with
    | nil => rfl
    | cons first rest ih =>
      by_cases same : first = timer
      · subst same
        rw [List.erase_cons_head, List.filter_cons_of_neg (by simpa using different.symm)]
      · rw [List.erase_cons_tail (by simpa using same), List.filter_cons, List.filter_cons, ih]
  exact congrArg (Line.mk _) (unkept _)

/-- Firing the timer of the registered sink of a job closes its connection. -/
theorem expire_of_eq {timer : Timer}
    (current : relay.connections.find? timer.key = some timer.sink) :
    (relay.expire timer).line timer.key = ⟨none, []⟩ := by
  have closes := @closeIfCurrent_of_eq { relay with timers := relay.timers.erase timer } timer.key
    timer.sink current
  rw [expire, closes, line_closeConnection_self]

/-- A job for which a sink was registered has the sink and no timer. -/
theorem line_registered_self (name : String) :
    ({ relay.cancelTimer key with connections := relay.connections.put key name } : Relay).line
      key = ⟨some name, []⟩ := by
  have quiet := congrArg Line.timers (@line_cancelTimer_self relay key)
  exact Line.ext (Keyed.find?_put_self _ _ _) quiet

/-- Registering a sink has no part in other jobs. -/
theorem line_registered_ne (name : String) (different : other ≠ key) :
    ({ relay.cancelTimer key with connections := relay.connections.put key name } : Relay).line
      other = relay.line other := by
  have quiet := congrArg Line.timers (relay.line_cancelTimer_ne different)
  exact Line.ext (Keyed.find?_put_ne _ _ different) quiet

/-- What is held about a job for which a sink was registered that took the first state. -/
theorem line_setup_of_accepts {now : Micros} {name : String} {state : JobState}
    (takes : relay.accepts name state = true) :
    (relay.setup now key name state).line key = ⟨some name,
      if state.isTerminal then [⟨key, name, now + relay.closeDelay⟩] else []⟩ := by
  have told := @line_tell_self
    { relay.cancelTimer key with connections := relay.connections.put key name } key now _ _ takes
  rw [line_registered_self] at told
  exact told

/-- Nothing is held about a job for which a sink was registered that refused the first state. -/
theorem line_setup_of_refuses {now : Micros} {name : String} {state : JobState}
    (refuses : relay.accepts name state = false) :
    (relay.setup now key name state).line key = ⟨none, []⟩ := by
  have closed := @tell_of_refuses
    { relay.cancelTimer key with connections := relay.connections.put key name } key now _ _ refuses
  exact (congrArg (Relay.line · key) closed).trans (line_closeConnection_self _)

/-- Telling a sink something for a job touches it for that job. -/
theorem telling_own (name : String) (state : JobState) :
    (relay.telling key name state).filter (·.key = key) = relay.telling key name state := by
  unfold telling
  split <;> simp [Touch.key]

/-- Telling a sink something for a job touches it for that job alone. -/
theorem telling_apart {name : String} {state : JobState} (different : other ≠ key) :
    (relay.telling key name state).filter (·.key = other) = [] := by
  unfold telling
  split <;> simp [Touch.key, different.symm]

end Operations

/-! ## The delay -/

/-- Closing a sink does not change how long sinks stay open. -/
theorem closeDelay_closeSink (relay : Relay) (name : String) :
    (relay.closeSink name).closeDelay = relay.closeDelay := by
  unfold closeSink
  split <;> rfl

/-- Closing a connection does not change how long sinks stay open. -/
theorem closeDelay_closeConnection (relay : Relay) (key : String) :
    (relay.closeConnection key).closeDelay = relay.closeDelay := by
  unfold closeConnection
  split
  · rfl
  · rw [closeDelay_closeSink]
    rfl

/-- Closing the connection of a sink does not change how long sinks stay open. -/
theorem closeDelay_closeIfCurrent (relay : Relay) (key name : String) :
    (relay.closeIfCurrent key name).closeDelay = relay.closeDelay := by
  unfold closeIfCurrent
  split
  · exact closeDelay_closeConnection relay key
  · rfl

/-- Telling a state does not change how long sinks stay open. -/
theorem closeDelay_tell (relay : Relay) (now : Micros) (key name : String) (state : JobState) :
    (relay.tell now key name state).closeDelay = relay.closeDelay := by
  cases takes : relay.accepts name state with
  | false => rw [tell_of_refuses relay takes, closeDelay_closeConnection]
  | true => rw [tell_of_accepts relay takes]

end Relay

/-- No deed changes how long sinks stay open. -/
theorem Station.closeDelay_after (station : Station) (deed : Deed) :
    (station.after deed).relay.closeDelay = station.relay.closeDelay := by
  cases deed with
  | setup key sink state => exact Relay.closeDelay_tell _ _ _ _ _
  | send key state =>
    simp only [after, Relay.send]
    split
    · exact Relay.closeDelay_tell _ _ _ _ _
    · rfl
  | close key => exact Relay.closeDelay_closeConnection _ _
  | closeIfCurrent key sink => exact Relay.closeDelay_closeIfCurrent _ _ _
  | expire timer =>
    simp only [after]
    split
    · exact Relay.closeDelay_closeIfCurrent _ _ _
    · rfl
  | pass span => rfl

/-! ## One deed -/

/-- A line in order: a timer is set at most for the registered sink, and at most one. -/
def Line.Orderly (key : String) (line : Line) : Prop :=
  line.timers = [] ∨ ∃ sink due, line = ⟨some sink, [⟨key, sink, due⟩]⟩

/-- A deed that finds nothing to do for a job. -/
def Deed.Idle (station : Station) (key : String) : Deed → Prop
  | .setup job _ _ => job ≠ key
  | .send job _ | .close job => job = key → station.relay.connections.find? key = none
  | .closeIfCurrent job sink => job = key → station.relay.connections.find? key ≠ some sink
  | .expire timer => timer.key = key → timer ∈ station.relay.timers → station.now < timer.due
  | .pass _ => True

/-- What a deed can do to the line of a job, and to the sinks for that job. -/
inductive Turn (station : Station) (key : String) : Deed → Line → List Touch → Prop where
  /-- Nothing is done for the job. -/
  | rests {deed : Deed} (idle : deed.Idle station key) :
    Turn station key deed (station.relay.line key) []
  /-- A sink is registered and takes the first state. -/
  | registered {sink : String} {state : JobState}
    (takes : station.relay.accepts sink state = true) :
    Turn station key (.setup key sink state)
      ⟨some sink, if state.isTerminal then
        [⟨key, sink, station.now + station.relay.closeDelay⟩] else []⟩ [.told key sink state]
  /-- A sink is registered and refuses the first state. -/
  | unregistered {sink : String} {state : JobState}
    (refuses : station.relay.accepts sink state = false) :
    Turn station key (.setup key sink state) ⟨none, []⟩
      [.refused key sink state, .closed key sink]
  /-- The registered sink takes a state. -/
  | sent {sink : String} {state : JobState} (current : (station.relay.line key).sink? = some sink)
    (takes : station.relay.accepts sink state = true) :
    Turn station key (.send key state)
      ⟨some sink, if state.isTerminal then
        [⟨key, sink, station.now + station.relay.closeDelay⟩]
        else (station.relay.line key).timers⟩ [.told key sink state]
  /-- The registered sink refuses a state. -/
  | unsent {sink : String} {state : JobState} (current : (station.relay.line key).sink? = some sink)
    (refuses : station.relay.accepts sink state = false) :
    Turn station key (.send key state) ⟨none, []⟩ [.refused key sink state, .closed key sink]
  /-- The connection is closed. -/
  | closed {sink : String} {deed : Deed} (current : (station.relay.line key).sink? = some sink)
    (asked : deed = .close key ∨ deed = .closeIfCurrent key sink) :
    Turn station key deed ⟨none, []⟩ [.closed key sink]
  /-- The timer of the registered sink fires. -/
  | expired {sink : String} {due : Micros}
    (current : station.relay.line key = ⟨some sink, [⟨key, sink, due⟩]⟩)
    (ripe : due ≤ station.now) :
    Turn station key (.expire ⟨key, sink, due⟩) ⟨none, []⟩ [.closed key sink]

/-- A deed has no part in jobs that it is not about. -/
theorem Station.after_apart (station : Station) {deed : Deed} {key : String}
    (other : deed.key? ≠ some key) :
    (station.after deed).relay.line key = station.relay.line key ∧
      (station.touches deed).filter (·.key = key) = [] := by
  cases deed with
  | setup job sink state =>
    have different : key ≠ job := fun same => other (congrArg some same.symm)
    exact ⟨(Relay.line_tell_ne _ different).trans (Relay.line_registered_ne _ sink different),
      Relay.telling_apart _ different⟩
  | send job state =>
    have different : key ≠ job := fun same => other (congrArg some same.symm)
    simp only [after, touches, Relay.send]
    cases station.relay.connections.find? job with
    | none => exact ⟨rfl, rfl⟩
    | some sink => exact ⟨Relay.line_tell_ne _ different, Relay.telling_apart _ different⟩
  | close job =>
    have different : key ≠ job := fun same => other (congrArg some same.symm)
    refine ⟨Relay.line_closeConnection_ne _ different, ?_⟩
    simp only [touches, Relay.closing, List.filter_eq_nil_iff, List.mem_map]
    rintro touch ⟨sink, _, rfl⟩
    simp [Touch.key, different.symm]
  | closeIfCurrent job sink =>
    have different : key ≠ job := fun same => other (congrArg some same.symm)
    simp only [after, touches, Relay.closeIfCurrent]
    split
    · exact ⟨Relay.line_closeConnection_ne _ different, by simp [Touch.key, different.symm]⟩
    · exact ⟨rfl, rfl⟩
  | expire timer =>
    have different : key ≠ timer.key := fun same => other (congrArg some same.symm)
    simp only [after, touches]
    constructor
    · split
      · have kept := station.relay.line_erase_ne different
        simp only [Relay.expire, Relay.closeIfCurrent]
        split
        · rw [Relay.line_closeConnection_ne _ different, kept]
        · exact kept
      · rfl
    · split
      · simp [Touch.key, different.symm]
      · rfl
  | pass span => exact ⟨rfl, rfl⟩

section Turns

variable {station : Station} (orderly : ∀ key, (station.relay.line key).Orderly key)
include orderly

/-- What each deed does to each line. -/
theorem Station.turn (deed : Deed) (key : String) :
    Turn station key deed ((station.after deed).relay.line key)
      ((station.touches deed).filter (·.key = key)) := by
  by_cases own : deed.key? = some key
  -- A deed for another key leaves this line alone.
  case neg =>
    obtain ⟨line, touches⟩ := station.after_apart own
    rw [line, touches]
    refine .rests ?_
    cases deed with
    | pass span => trivial
    | setup => exact fun same => own (congrArg some same)
    | _ => exact fun same => absurd (congrArg some same) own
  cases deed with
  | setup job sink state =>
    obtain rfl : job = key := Option.some.inj own
    simp only [after, touches, Relay.telling_own]
    cases takes : station.relay.accepts sink state with
    | true =>
      rw [Relay.line_setup_of_accepts _ takes, Relay.telling, if_pos takes]
      exact .registered takes
    | false =>
      rw [Relay.line_setup_of_refuses _ takes, Relay.telling, takes]
      exact .unregistered takes
  | send job state =>
    obtain rfl : job = key := Option.some.inj own
    simp only [after, touches, Relay.send]
    cases current : station.relay.connections.find? job with
    | none => exact .rests fun _ => current
    | some sink =>
      dsimp only
      rw [Relay.telling_own]
      cases takes : station.relay.accepts sink state with
      | true =>
        rw [Relay.line_tell_self _ takes, Relay.telling, if_pos takes,
          show (station.relay.line job).sink? = some sink from current]
        exact .sent current takes
      | false =>
        rw [Relay.tell_of_refuses _ takes, Relay.line_closeConnection_self, Relay.telling, takes]
        exact .unsent current takes
  | close job =>
    obtain rfl : job = key := Option.some.inj own
    simp only [after, touches, Relay.closing]
    rw [Relay.line_closeConnection_self]
    cases current : station.relay.connections.find? job with
    | some sink => simpa [Touch.key] using Turn.closed current (Or.inl rfl)
    | none =>
      have empty : station.relay.line job = ⟨none, []⟩ := by
        rcases orderly job with timers | ⟨sink, due, line⟩
        · exact Line.ext current timers
        · cases current.symm.trans (congrArg Line.sink? line)
      rw [← empty]
      exact .rests fun _ => current
  | closeIfCurrent job sink =>
    obtain rfl : job = key := Option.some.inj own
    simp only [after, touches]
    by_cases current : station.relay.connections.find? job = some sink
    · rw [Relay.closeIfCurrent_of_eq _ current, if_pos current, Relay.line_closeConnection_self]
      simpa [Touch.key] using Turn.closed current (Or.inr rfl)
    · rw [Relay.closeIfCurrent_of_ne _ current, if_neg current]
      exact .rests fun _ => current
  | expire timer =>
    obtain ⟨job, name, moment⟩ := timer
    obtain rfl : job = key := Option.some.inj own
    simp only [after, touches]
    by_cases ripe : ⟨job, name, moment⟩ ∈ station.relay.timers ∧ moment ≤ station.now
    · have member : ⟨job, name, moment⟩ ∈ (station.relay.line job).timers := by
        simpa [Relay.line] using ripe.1
      rcases orderly job with empty | ⟨sink, due, line⟩
      · rw [empty] at member
        cases member
      · rw [line, List.mem_singleton] at member
        cases member
        have current : station.relay.connections.find? job = some name :=
          congrArg Line.sink? line
        have closes := @Relay.expire_of_eq station.relay ⟨job, name, moment⟩ current
        rw [if_pos ripe, if_pos ⟨ripe, current⟩, closes]
        simpa [Touch.key] using Turn.expired line ripe.2
    · rw [if_neg ripe, if_neg fun both => ripe both.1]
      exact .rests fun _ set => Int.not_le.mp fun due => ripe ⟨set, due⟩
  | pass span => cases own

/-- Every deed keeps every line in order. -/
theorem Station.orderly_after (deed : Deed) (key : String) :
    ((station.after deed).relay.line key).Orderly key := by
  have turn := station.turn orderly deed key
  generalize (station.after deed).relay.line key = line at turn
  generalize (station.touches deed).filter (·.key = key) = touches at turn
  cases turn with
  | rests => exact orderly key
  | registered =>
    split
    · exact Or.inr ⟨_, _, rfl⟩
    · exact Or.inl rfl
  | sent current =>
    split
    · exact Or.inr ⟨_, _, rfl⟩
    · rcases orderly key with empty | ⟨sink, due, line⟩
      · exact Or.inl empty
      · rw [line] at current ⊢
        cases current
        exact Or.inr ⟨_, _, rfl⟩
  | unregistered | unsent | closed | expired => exact Or.inl rfl

end Turns

/-! ## The sinks -/

namespace Relay

variable (relay : Relay) (key name : String)

/-- The sinks after one of them was closed. -/
theorem sinks_closeSink :
    (relay.closeSink name).sinks = Touch.on relay.sinks (.closed key name) := by
  unfold closeSink
  cases found : relay.sinks.find? name with
  | none => simp only [Touch.on, found]
  | some sink =>
    simp only [Touch.on, found]
    rfl

/-- The sinks after the connection of a job was closed. -/
theorem sinks_closeConnection :
    (relay.closeConnection key).sinks = (relay.closing key).foldl Touch.on relay.sinks := by
  unfold closeConnection closing
  split
  · next unregistered => rw [unregistered]; rfl
  · next name registered =>
    rw [registered, sinks_closeSink _ key]
    rfl

/-- The sinks after the connection of a registered sink was closed. -/
theorem sinks_closeConnection_of_eq (current : relay.connections.find? key = some name) :
    (relay.closeConnection key).sinks = Touch.on relay.sinks (.closed key name) := by
  rw [sinks_closeConnection, closing, current]
  rfl

/-- The sinks after the connection of a job was closed if a sink was still the registered one. -/
theorem sinks_closeIfCurrent :
    (relay.closeIfCurrent key name).sinks =
      (if relay.connections.find? key = some name then [.closed key name] else []).foldl
        Touch.on relay.sinks := by
  by_cases current : relay.connections.find? key = some name
  · rw [closeIfCurrent_of_eq _ current, if_pos current]
    exact sinks_closeConnection_of_eq _ _ _ current
  · rw [closeIfCurrent_of_ne _ current, if_neg current]
    rfl

/-- The sinks after the registered sink of a job was told a state. -/
theorem sinks_tell {now : Micros} {state : JobState}
    (current : relay.connections.find? key = some name) :
    (relay.tell now key name state).sinks =
      (relay.telling key name state).foldl Touch.on relay.sinks := by
  unfold telling
  cases takes : relay.accepts name state with
  | true => rw [tell_of_accepts _ takes, if_pos rfl]; rfl
  | false =>
    rw [tell_of_refuses _ takes, sinks_closeConnection_of_eq _ _ _ current]
    rfl

end Relay

/-- What a deed does to the sinks is what becomes of them. -/
theorem Station.sinks_after (station : Station) (deed : Deed) :
    (station.after deed).relay.sinks =
      (station.touches deed).foldl Touch.on station.relay.sinks := by
  cases deed with
  | setup key sink state =>
    exact Relay.sinks_tell
      { station.relay.cancelTimer key with connections := station.relay.connections.put key sink }
      key sink (Keyed.find?_put_self _ _ _)
  | send key state =>
    simp only [after, touches, Relay.send]
    cases current : station.relay.connections.find? key with
    | none => rfl
    | some sink => exact Relay.sinks_tell _ _ _ current
  | close key => exact Relay.sinks_closeConnection _ _
  | closeIfCurrent key sink => exact Relay.sinks_closeIfCurrent _ _ _
  | expire timer =>
    simp only [after, touches]
    by_cases ripe : timer ∈ station.relay.timers ∧ timer.due ≤ station.now
    · rw [if_pos ripe]
      simp only [ripe, and_self, true_and]
      exact Relay.sinks_closeIfCurrent _ _ _
    · rw [if_neg ripe, if_neg fun both => ripe both.1]
      rfl
  | pass span => rfl

/-- A sink takes the states that it is told, and no others. -/
def Touch.Fits (relay : Relay) : Touch → Prop
  | .told _ sink state => relay.accepts sink state = true
  | .refused _ sink state => relay.accepts sink state = false
  | .closed _ _ => True

/-- A sink takes what it is told, and no other state. -/
theorem Station.fits_of_touches {station : Station} {deed : Deed} {touch : Touch}
    (touches : touch ∈ station.touches deed) : touch.Fits station.relay := by
  have telling : ∀ key name state, touch ∈ station.relay.telling key name state →
      touch.Fits station.relay := by
    intro key name state member
    unfold Relay.telling at member
    split at member
    · next takes =>
      rw [List.mem_singleton.mp member]
      exact takes
    · next refuses =>
      simp only [List.mem_cons, List.not_mem_nil, or_false] at member
      rcases member with rfl | rfl
      · exact eq_false_of_ne_true refuses
      · trivial
  cases deed with
  | setup key sink state => exact telling _ _ _ touches
  | send key state =>
    simp only [Station.touches] at touches
    cases current : station.relay.connections.find? key with
    | none =>
      rw [current] at touches
      cases touches
    | some sink =>
      rw [current] at touches
      exact telling _ _ _ touches
  | close key =>
    obtain ⟨sink, _, rfl⟩ := List.mem_map.mp touches
    trivial
  | closeIfCurrent key sink | expire timer =>
    simp only [Station.touches] at touches
    split at touches
    · rw [List.mem_singleton.mp touches]
      trivial
    · cases touches
  | pass span => cases touches

/-- A sink takes a state only when it is set up with it, or the job is told it. -/
theorem Station.deed_of_told {station : Station} {deed : Deed} {key sink : String}
    {state : JobState} (told : .told key sink state ∈ station.touches deed) :
    deed = .setup key sink state ∨ deed = .send key state := by
  have telling : ∀ job name first, .told key sink state ∈ station.relay.telling job name first →
      job = key ∧ name = sink ∧ first = state := by
    intro job name first member
    unfold Relay.telling at member
    split at member
    · cases List.mem_singleton.mp member
      exact ⟨rfl, rfl, rfl⟩
    · simp at member
  cases deed with
  | setup job name first =>
    obtain ⟨rfl, rfl, rfl⟩ := telling _ _ _ told
    exact Or.inl rfl
  | send job first =>
    simp only [Station.touches] at told
    split at told
    · obtain ⟨rfl, -, rfl⟩ := telling _ _ _ told
      exact Or.inr rfl
    · cases told
  | close job => simp [Station.touches, Relay.closing] at told
  | closeIfCurrent job name | expire timer =>
    simp only [Station.touches] at told
    split at told
    · cases List.mem_singleton.mp told
    · cases told
  | pass span => cases told

/-- Telling a sink a state that it does not refuse has no other effect on the sinks. -/
theorem Relay.telling_of_unrefused {relay : Relay} {key name : String} {state : JobState}
    (takes : .refused key name state ∉ relay.telling key name state) :
    relay.telling key name state = [.told key name state] := by
  unfold telling at takes ⊢
  split
  · rfl
  · next refuses =>
    rw [if_neg refuses] at takes
    exact absurd List.mem_cons_self takes

end QuestionDesk.Push
