import QuestionDesk.Keyed
import QuestionDesk.Push.Channel

/-!
# The relay

The relay holds at most one sink for each job. A new subscriber takes the place of the old one. A
sink that refuses a state is closed, and so is, some time after it, a sink that was told the last
state of its job, unless it has been replaced by then. Closing may fail without any effect on the
relay.
-/
namespace QuestionDesk.Push

/-- What a state is written to. -/
inductive Sink where
  /-- A push channel. -/
  | channel (channel : Channel)
  /-- A sink that records what it is told, and may fail at either operation. -/
  | recorder (states : List Value) (closes : Nat) (failsWrite failsClose : Bool)
  deriving DecidableEq, Repr

namespace Sink

/-- Writes a state, which a sink may refuse. -/
def write (sink : Sink) (state : JobState) : Except Failure Sink :=
  match sink with
  | .channel inner => (inner.write state).map .channel
  | .recorder states closes failsWrite failsClose =>
    if failsWrite then .error (.misuse "write failed")
    else .ok (.recorder (states ++ [state.wire]) closes failsWrite failsClose)

/-- Closes a sink; what a failing sink does before it fails stays done. -/
def close : Sink → Sink
  | .channel inner => .channel inner.close
  | .recorder states closes failsWrite failsClose =>
    .recorder states (closes + 1) failsWrite failsClose

/-- The stream of a channel reads everything that was written. -/
def drain : Sink → Sink
  | .channel inner => .channel inner.drain
  | other => other

end Sink

/-- A sink that is going to be closed. -/
structure Timer where
  /-- The key of the job. -/
  key : String
  /-- The sink for which the timer was set. -/
  sink : String
  /-- When the sink is closed. -/
  due : Micros
  deriving DecidableEq, Repr

/-- The sinks of all jobs. -/
structure Relay where
  /-- How long a sink stays open after the last state of its job. -/
  closeDelay : Micros
  /-- The registered sink of each job, by name. -/
  connections : Keyed String := []
  /-- The timers that are set, in the order in which they were set. -/
  timers : List Timer := []
  /-- All sinks by name. -/
  sinks : Keyed Sink := []
  deriving DecidableEq, Repr

namespace Relay

/-- Whether a job has a sink. -/
def hasConnection (relay : Relay) (key : String) : Bool := relay.connections.has key

/-- The relay with a sink, unless there is one of that name. -/
def ensure (relay : Relay) (name : String) (sink : Sink) : Relay :=
  if relay.sinks.has name then relay
  else { relay with sinks := relay.sinks ++ [(name, sink)] }

/-- The relay with one sink changed. -/
def withSink (relay : Relay) (name : String) (sink : Sink) : Relay :=
  { relay with sinks := relay.sinks.put name sink }

/-- Closes a sink by name. -/
def closeSink (relay : Relay) (name : String) : Relay :=
  match relay.sinks.find? name with
  | some sink => relay.withSink name sink.close
  | none => relay

/-- The relay without the timer of a job. -/
def cancelTimer (relay : Relay) (key : String) : Relay :=
  { relay with timers := relay.timers.filter (·.key != key) }

/-- Ends the connection of a job and closes its sink. -/
def closeConnection (relay : Relay) (key : String) : Relay :=
  let quiet := relay.cancelTimer key
  match relay.connections.find? key with
  | none => quiet
  | some name =>
    { quiet with connections := quiet.connections.without key }.closeSink name

/-- Ends the connection of a job if the sink is still the registered one. -/
def closeIfCurrent (relay : Relay) (key name : String) : Relay :=
  if relay.connections.find? key = some name then relay.closeConnection key else relay

/-- Tells a sink a state; after the last state of a job the timer of the job starts anew. A sink
that refuses the state loses its connection. -/
def tell (relay : Relay) (now : Micros) (key name : String) (state : JobState) : Relay :=
  match relay.sinks.find? name with
  | none => relay.closeConnection key
  | some sink =>
    match sink.write state with
    | .error _ => relay.closeConnection key
    | .ok written =>
      let told := relay.withSink name written
      if state.isTerminal then
        let quiet := told.cancelTimer key
        { quiet with timers := quiet.timers ++ [⟨key, name, now + relay.closeDelay⟩] }
      else told

/-- Registers a sink for a job and tells it the first state. The sink that was registered before
is neither told nor closed. -/
def setup (relay : Relay) (now : Micros) (key name : String) (state : JobState) : Relay :=
  let quiet := relay.cancelTimer key
  { quiet with connections := quiet.connections.put key name }.tell now key name state

/-- Tells the registered sink of a job a state, if there is one. -/
def send (relay : Relay) (now : Micros) (key : String) (state : JobState) : Relay :=
  match relay.connections.find? key with
  | some name => relay.tell now key name state
  | none => relay

/-- The earliest moment at which a timer is due. -/
def nextDue? (relay : Relay) : Option Micros := (relay.timers.map Timer.due).min?

/-- Fires a timer, which closes the sink for which it was set. -/
def expire (relay : Relay) (timer : Timer) : Relay :=
  { relay with timers := relay.timers.erase timer }.closeIfCurrent timer.key timer.sink

/-- Fires the first timer that is due by now, if there is one. -/
def fire (relay : Relay) (now : Micros) : Relay :=
  match relay.timers.find? (·.due ≤ now) with
  | some timer => relay.expire timer
  | none => relay

/-- Fires a number of timers that are due by now. -/
def fireTimes : Nat → Relay → Micros → Relay
  | 0, relay, _ => relay
  | count + 1, relay, now => fireTimes count (relay.fire now) now

/-- Fires all timers that are due by now. -/
def fireDue (relay : Relay) (now : Micros) : Relay := fireTimes relay.timers.length relay now

/-- The streams of all channels read everything that was written. -/
def drain (relay : Relay) : Relay :=
  { relay with sinks := relay.sinks.map fun entry => (entry.1, entry.2.drain) }

end Relay

end QuestionDesk.Push
