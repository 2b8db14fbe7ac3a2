import QuestionDesk.Json.Writer
import QuestionDesk.Push.State

/-!
# Push channels

A channel carries states to one stream of server-sent events. Writing puts a state into the queue
of the channel, closing puts the end behind everything written, and both are refused or without
effect once the channel is closed. The reader of the stream turns each state into one frame and
stops at the end.
-/
namespace QuestionDesk.Push

/-- The frame of a document that is sent. -/
def frameText (document : Value) : String := "data: " ++ Json.write document ++ "\n\n"

/-- A channel and its stream. -/
structure Channel where
  /-- What was written and not yet read; nothing stands for the end. -/
  queue : List (Option Value) := []
  /-- Whether the channel was closed. -/
  closed : Bool := false
  /-- The frames that the stream gave. -/
  frames : List String := []
  /-- Whether the stream has ended. -/
  ended : Bool := false
  deriving DecidableEq, Repr

namespace Channel

/-- Writes a state; a closed channel refuses it. -/
def write (channel : Channel) (state : JobState) : Except Failure Channel :=
  if channel.closed then .error (.misuse "Channel is closed")
  else .ok { channel with queue := channel.queue ++ [some state.wire] }

/-- Closes a channel; closing it again has no effect. -/
def close (channel : Channel) : Channel :=
  if channel.closed then channel
  else { channel with closed := true, queue := channel.queue ++ [none] }

/-- The stream reads one item, if there is one and it has not ended. -/
def read (channel : Channel) : Channel :=
  if channel.ended then channel
  else
    match channel.queue with
    | [] => channel
    | none :: rest => { channel with queue := rest, ended := true }
    | some document :: rest =>
      { channel with queue := rest, frames := channel.frames ++ [frameText document] }

/-- The stream reads a number of items. -/
def readTimes : Nat → Channel → Channel
  | 0, channel => channel
  | count + 1, channel => readTimes count channel.read

/-- The stream reads everything that was written. -/
def drain (channel : Channel) : Channel := readTimes channel.queue.length channel

end Channel

end QuestionDesk.Push
