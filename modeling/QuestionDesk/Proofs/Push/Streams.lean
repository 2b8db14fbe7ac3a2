import QuestionDesk.Proofs.Push.Frames

/-!
# Streams

Whatever is done to a channel, and in whatever order, its stream gives the frames of the states that
the channel took, in order, and it ends where the channel was closed. The frames of any states, one
after the other, are cut at their empty lines into the texts of the states, and each text is read
back as the state that was sent.
-/
namespace QuestionDesk.Push

open Json (Readable)

/-! ## Uses of a channel -/

/-- Something that is done to a channel. -/
inductive Use where
  /-- A state is written. -/
  | write (state : JobState)
  /-- It is closed. -/
  | close
  /-- The stream reads an item, if there is one. -/
  | read
  deriving DecidableEq, Repr

/-- The state that a use writes. -/
def Use.state? : Use → Option JobState
  | .write state => some state
  | _ => none

namespace Channel

/-- A channel after a use. A state that is refused leaves it as it is. -/
def after (channel : Channel) : Use → Channel
  | .write state => (channel.write state).toOption.getD channel
  | .close => channel.close
  | .read => channel.read

/-- The state that a channel takes by a use. -/
def taken? (channel : Channel) : Use → Option JobState
  | .write state => (channel.write state).toOption.map fun _ => state
  | _ => none

/-- The states that a channel takes in the course of uses. -/
def taken (channel : Channel) : List Use → List JobState
  | [] => []
  | use :: uses => (channel.taken? use).toList ++ (channel.after use).taken uses

section Uses

variable {channel : Channel}

/-- A closed channel refuses every state. -/
theorem write_of_closed (closed : channel.closed = true) (state : JobState) :
    channel.write state = .error (.misuse "Channel is closed") := by
  rw [write, if_pos closed]

/-- A channel that is not closed takes every state. -/
theorem write_of_open (opened : channel.closed = false) (state : JobState) :
    channel.write state = .ok { channel with queue := channel.queue ++ [some state.wire] } := by
  rw [write, opened]
  rfl

/-- A channel is closed after a use if it was before or is closed by it. -/
theorem closed_after (channel : Channel) (use : Use) :
    (channel.after use).closed = (channel.closed || use = .close) := by
  cases use with
  | write state =>
    cases closed : channel.closed with
    | true => simp [after, write_of_closed closed, Except.toOption, closed]
    | false => simp [after, write_of_open closed, Except.toOption, closed]
  | close => cases closed : channel.closed <;> simp [after, close, closed]
  | read =>
    simp only [after, read]
    split
    · simp
    · split <;> simp

/-- A channel that was not closed is closed in the course of uses when one of them closes it. -/
theorem closed_foldl (uses : List Use) (channel : Channel) :
    (uses.foldl after channel).closed = true ↔ channel.closed = true ∨ .close ∈ uses := by
  induction uses generalizing channel with
  | nil => simp
  | cons use uses ih =>
    rw [List.foldl_cons, ih, closed_after, List.mem_cons, Bool.or_eq_true, decide_eq_true_eq,
      or_assoc, @eq_comm _ use]

/-- The states that a channel takes are those that are written before it is closed. -/
theorem taken_eq (uses : List Use) (channel : Channel) : channel.taken uses =
    if channel.closed then [] else (uses.takeWhile (· ≠ .close)).filterMap Use.state? := by
  induction uses generalizing channel with
  | nil => simp [taken]
  | cons use uses ih =>
    rw [taken, ih, closed_after]
    cases closed : channel.closed with
    | true => cases use <;> simp [taken?, write_of_closed closed, Except.toOption]
    | false => cases use <;>
        simp [taken?, Use.state?, write_of_open closed, Except.toOption, List.filterMap_cons]

/-- A use has the states that it makes the channel take written behind all others. -/
theorem written_after (channel : Channel) (use : Use) : (channel.after use).written =
    channel.written ++ (channel.taken? use).toList.map JobState.frame := by
  cases use with
  | write state =>
    cases wrote : channel.write state with
    | error failure => simp [after, taken?, wrote, Except.toOption]
    | ok next => simp [after, taken?, wrote, Except.toOption, written_write wrote]
  | close => simpa [after, taken?] using channel.written_close
  | read => simpa [after, taken?] using channel.written_read

/-- All states that a channel takes in the course of uses are written, in order. -/
theorem written_foldl (uses : List Use) (channel : Channel) : (uses.foldl after channel).written =
    channel.written ++ (channel.taken uses).map JobState.frame := by
  induction uses generalizing channel with
  | nil => simp [taken]
  | cons use uses ih =>
    rw [List.foldl_cons, ih, written_after, taken, List.map_append, List.append_assoc]

/-! ## The end of a stream -/

/-- The end stands behind everything in the queue of a channel that was closed, until the stream has
read it; then nothing is left. -/
structure Orderly (channel : Channel) : Prop where
  /-- The queue holds documents, and the end behind them. -/
  queued : ∃ documents : List Value, channel.queue =
    documents.map some ++ if channel.closed && !channel.ended then [none] else []
  /-- A stream that has ended has read everything. -/
  finished : channel.ended = true → channel.closed = true ∧ channel.queue = []

/-- A new channel is orderly. -/
theorem orderly_new : Orderly {} := ⟨⟨[], rfl⟩, nofun⟩

/-- Reading leaves a channel orderly, and takes something from its queue if it holds anything. -/
theorem Orderly.read (orderly : channel.Orderly) :
    channel.read.Orderly ∧ channel.read.queue.length = channel.queue.length - 1 := by
  cases ended : channel.ended with
  | true =>
    have same : channel.read = channel := by rw [Channel.read, if_pos ended]
    rw [same, (orderly.finished ended).2]
    exact ⟨orderly, rfl⟩
  | false =>
    obtain ⟨documents, queued⟩ := orderly.queued
    rw [ended] at queued
    cases documents with
    | nil =>
      cases closed : channel.closed with
      | false =>
        rw [closed] at queued
        have same : channel.read = channel := by
          rw [Channel.read, ended, queued]
          rfl
        rw [same, queued]
        exact ⟨orderly, rfl⟩
      | true =>
        rw [closed] at queued
        have reads : channel.read = { channel with queue := [], ended := true } := by
          rw [Channel.read, ended, queued]
          rfl
        rw [reads, queued]
        exact ⟨⟨⟨[], by simp⟩, fun _ => ⟨closed, rfl⟩⟩, rfl⟩
    | cons document documents =>
      have reads : channel.read = { channel with
          queue := documents.map some ++ if channel.closed && !false then [none] else []
          frames := channel.frames ++ [frameText document] } := by
        rw [Channel.read, ended, queued]
        rfl
      rw [reads, queued]
      refine ⟨⟨⟨documents, by rw [ended]⟩, fun finished => ?_⟩, by simp⟩
      rw [ended] at finished
      cases finished

/-- Every use leaves a channel orderly. -/
theorem Orderly.after (orderly : channel.Orderly) (use : Use) : (channel.after use).Orderly := by
  cases use with
  | read => exact orderly.read.1
  | write state =>
    cases closed : channel.closed with
    | true =>
      rw [Channel.after, write_of_closed closed]
      exact orderly
    | false =>
      rw [Channel.after, write_of_open closed]
      obtain ⟨documents, queued⟩ := orderly.queued
      refine ⟨⟨documents ++ [state.wire], ?_⟩, fun ended => ?_⟩
      · simp [Except.toOption, queued, closed]
      · rw [(orderly.finished ended).1] at closed
        cases closed
  | close =>
    cases closed : channel.closed with
    | true =>
      rw [Channel.after, close, if_pos closed]
      exact orderly
    | false =>
      have running : channel.ended = false := by
        rw [← Bool.not_eq_true]
        intro ended
        rw [(orderly.finished ended).1] at closed
        cases closed
      rw [Channel.after, close, if_neg (by simp [closed])]
      obtain ⟨documents, queued⟩ := orderly.queued
      refine ⟨⟨documents, ?_⟩, fun ended => ?_⟩
      · simp [queued, closed, running]
      · rw [running] at ended
        cases ended

/-- Every course of uses leaves a channel orderly. -/
theorem Orderly.foldl (orderly : channel.Orderly) (uses : List Use) :
    (uses.foldl Channel.after channel).Orderly := by
  induction uses generalizing channel with
  | nil => exact orderly
  | cons use uses ih => exact ih (orderly.after use)

/-- A stream that goes on to read has read everything after as many items as there are, and has
ended then if the channel was closed. -/
theorem Orderly.readTimes (orderly : channel.Orderly) {count : Nat}
    (enough : channel.queue.length ≤ count) :
    (readTimes count channel).frames = channel.written ∧
      ((Channel.readTimes count channel).ended = true ↔ channel.closed = true) := by
  -- Each read takes an item from the queue, so that `count` stays enough for what is left.
  induction count generalizing channel with
  | zero =>
    obtain ⟨documents, queued⟩ := orderly.queued
    have empty : channel.queue = [] := List.length_eq_zero_iff.mp (Nat.le_zero.mp enough)
    refine ⟨by simp [Channel.readTimes, written, empty], fun ended => (orderly.finished ended).1,
      fun closed => ?_⟩
    rw [empty, closed] at queued
    simpa [Channel.readTimes] using (List.append_eq_nil_iff.mp queued.symm).2
  | succ count ih =>
    obtain ⟨next, shorter⟩ := orderly.read
    have same : channel.read.closed = channel.closed :=
      (channel.closed_after .read).trans (by simp)
    rw [Channel.readTimes, ← same, ← channel.written_read]
    exact ih next (by omega)

end Uses

end Channel

/-! ## Reading a stream -/

/-- The parts of a text between its empty lines, given the characters in front of it that belong to
the first part. An empty part at the end is none. -/
def blocksFrom (front : List Char) : List Char → List (List Char)
  | '\n' :: '\n' :: rest => front :: blocksFrom [] rest
  | char :: rest => blocksFrom (front ++ [char]) rest
  | [] => if front.isEmpty then [] else [front]

/-- The document in a part of a stream: what is read from behind the name of its field. -/
def blockDocument? (block : List Char) : Option Value :=
  (Json.after? "data: ".toList block).bind fun text => (Json.read (String.ofList text)).toOption

/-- The documents of a stream, one for each part between empty lines. -/
def streamDocuments (stream : String) : List (Option Value) :=
  (blocksFrom [] stream.toList).map blockDocument?

/-- A line and the empty one behind it are a part of their own. -/
theorem blocksFrom_line {line : List Char} (one : '\n' ∉ line) (front rest : List Char) :
    blocksFrom front (line ++ '\n' :: '\n' :: rest) = (front ++ line) :: blocksFrom [] rest := by
  induction line generalizing front with
  | nil => simp [blocksFrom]
  | cons char line ih =>
    rw [List.mem_cons, not_or] at one
    rw [List.cons_append, blocksFrom, ih one.2, List.append_assoc]
    · rfl
    · intro _ same _
      exact one.1 same.symm

/-- Lines that are each followed by an empty one are the parts of their text. -/
theorem blocksFrom_lines {lines : List (List Char)} (single : ∀ line ∈ lines, '\n' ∉ line) :
    blocksFrom [] (lines.flatMap (· ++ ['\n', '\n'])) = lines := by
  induction lines with
  | nil => rfl
  | cons line lines ih =>
    rw [List.flatMap_cons, List.append_assoc]
    have first := blocksFrom_line (single line List.mem_cons_self) []
      (lines.flatMap (· ++ ['\n', '\n']))
    refine first.trans ?_
    rw [ih fun other member => single other (List.mem_cons_of_mem _ member)]
    rfl

namespace JobState

/-- A state whose question and result were read from JSON texts, if they are there. -/
def FromJson (state : JobState) : Prop :=
  (∃ text, Json.read text = .ok state.questionContent) ∧
    ∀ fields, state.result = some fields → ∃ text, Json.read text = .ok (.object fields)

/-- The line of a state: the name of its field and its text. -/
def line (state : JobState) : List Char := "data: ".toList ++ (Json.write state.wire).toList

/-- The frame of a state is its line and an empty one. -/
theorem frame_toList (state : JobState) : state.frame.toList = state.line ++ ['\n', '\n'] := by
  simp [frame, frameText, line]

/-- The line of a state is one line. -/
theorem line_single (state : JobState) : '\n' ∉ state.line := by
  have name : '\n' ∉ "data: ".toList := by decide
  rw [line, List.mem_append, not_or]
  exact ⟨name, Json.one_line _⟩

/-- A state that was read from JSON texts can be written and read. -/
theorem FromJson.readable {state : JobState} (built : state.FromJson) : Readable state.wire := by
  obtain ⟨⟨text, read⟩, result⟩ := built
  refine state.readable_wire (Json.readable_of_read read) ?_
  cases held : state.result with
  | none => trivial
  | some fields =>
    obtain ⟨text, read⟩ := result fields held
    exact Json.readable_of_read read

/-- The document in the line of a state is the state as it was sent. -/
theorem blockDocument?_line {state : JobState} (built : state.FromJson) :
    blockDocument? state.line = some state.wire := by
  have strips : ∀ word rest : List Char, Json.after? word (word ++ rest) = some rest := by
    intro word rest
    induction word with
    | nil => rfl
    | cons letter word ih => rw [List.cons_append, Json.after?, if_pos rfl, ih]
  rw [blockDocument?, line, strips, Option.bind_some, String.ofList_toList,
    Json.read_write built.readable]
  rfl

/-- The documents of a stream of frames are the states that were sent. -/
theorem streamDocuments_frames {states : List JobState}
    (built : ∀ state ∈ states, state.FromJson) :
    streamDocuments (String.join (states.map frame)) = states.map fun state => some state.wire := by
  have lines : (String.join (states.map frame)).toList =
      (states.map line).flatMap (· ++ ['\n', '\n']) := by
    rw [String.toList_join, List.flatMap_map, List.flatMap_map]
    simp only [frame_toList]
  have parts := @blocksFrom_lines (states.map line) fun each member => by
    obtain ⟨state, _, rfl⟩ := List.mem_map.mp member
    exact state.line_single
  rw [streamDocuments, lines, parts, List.map_map]
  refine List.map_congr_left fun state member => ?_
  rw [Function.comp_apply, blockDocument?_line (built state member)]

end JobState

/-! ## Streams of channels -/

/-- Whatever is done to a new channel, and in whatever order: the channel takes the states that are
written before it is closed; once closed it refuses every state, and neither that nor closing it
again changes anything. The stream has given frames of the first states that were taken, in order;
after it has read as many items as there are, it has given one frame for each of them and nothing
else, and it has ended exactly if the channel was closed, before which it does not end. The frame of
a state is one line and an empty one; cut at empty lines, any frames are read back as their states,
where these were built from what JSON texts hold. -/
theorem streams_carry_states (uses : List Use) :
    let channel := uses.foldl Channel.after {}
    let states := Channel.taken {} uses
    states = (uses.takeWhile (· ≠ .close)).filterMap Use.state? ∧
    (.close ∈ uses → channel.close = channel ∧ ∀ state,
      channel.write state = .error (.misuse "Channel is closed") ∧
        channel.after (.write state) = channel) ∧
    channel.frames <+: states.map JobState.frame ∧
    (∀ count, channel.queue.length ≤ count →
      (Channel.readTimes count channel).frames = states.map JobState.frame ∧
        ((Channel.readTimes count channel).ended = true ↔ .close ∈ uses)) ∧
    (channel.ended = true → .close ∈ uses ∧ channel.frames = states.map JobState.frame) ∧
    (∀ state : JobState, ∃ text : String, state.frame = "data: " ++ text ++ "\n\n" ∧
      '\n' ∉ text.toList ∧ '\r' ∉ text.toList) ∧
    ∀ sent : List JobState, (∀ state ∈ sent, state.FromJson) →
      streamDocuments (String.join (sent.map JobState.frame)) =
        sent.map fun state => some state.wire := by
  intro channel states
  have closed : channel.closed = true ↔ .close ∈ uses := by
    simpa using Channel.closed_foldl uses {}
  have written : channel.written = states.map JobState.frame := Channel.written_foldl uses {}
  have orderly : channel.Orderly := Channel.orderly_new.foldl uses
  refine ⟨by simpa using Channel.taken_eq uses {}, fun closes => ?_, ?_, fun count enough => ?_,
    fun ended => ?_, fun state => ?_, fun sent built => JobState.streamDocuments_frames built⟩
  · have shut := closed.mpr closes
    refine ⟨by rw [Channel.close, if_pos shut], fun state => ?_⟩
    have refused := Channel.write_of_closed shut state
    exact ⟨refused, by rw [Channel.after, refused]; rfl⟩
  · exact written ▸ channel.frames_prefix
  · obtain ⟨frames, ended⟩ := orderly.readTimes enough
    exact ⟨frames.trans written, ended.trans closed⟩
  · obtain ⟨shut, read⟩ := orderly.finished ended
    refine ⟨closed.mp shut, ?_⟩
    rw [← written, Channel.written, read, List.filterMap_nil, List.append_nil]
  · exact ⟨Json.write state.wire, rfl, Json.one_line _, Json.no_return _⟩

/-- A job that has begun. -/
def begunState : JobState := { jobId := "job", status := "processing" }

/-- A job that has completed, with a row whose text holds an empty line. -/
def completedState : JobState :=
  { jobId := "job", status := "completed", questionContent := .text "Größe?"
    result := some [("data", .list [.object [("note", .text "one\n\ntwo")]])] }

/-- A channel that took two states, was closed twice and refused a third gives their two frames,
which are read back as the states. -/
theorem streams_carry_states_closed :
    let uses : List Use := [.write begunState, .read, .write completedState, .close,
      .write begunState, .close]
    let channel := uses.foldl Channel.after {}
    .close ∈ uses ∧ channel.queue.length ≤ 2 ∧
    (Channel.readTimes 2 channel).frames = [begunState.frame, completedState.frame] ∧
    (Channel.readTimes 2 channel).ended = true ∧
    (∀ state ∈ [begunState, completedState], state.FromJson) ∧
    streamDocuments (String.join [begunState.frame, completedState.frame]) =
      [some begunState.wire, some completedState.wire] := by
  intro uses channel
  have closes : .close ∈ uses := by decide
  have few : channel.queue.length ≤ 2 := by decide
  have built : ∀ state ∈ [begunState, completedState], state.FromJson := by
    intro state member
    have texts : Readable state.questionContent ∧ ∀ fields, state.result = some fields →
        Readable (.object fields) := by
      simp only [List.mem_cons, List.not_mem_nil, or_false] at member
      rcases member with rfl | rfl
      · exact ⟨trivial, nofun⟩
      · refine ⟨trivial, fun fields held => ?_⟩
        cases held
        simp [Readable, Json.ItemsReadable, Json.FieldsReadable]
    exact ⟨⟨_, Json.read_write texts.1⟩, fun fields held => ⟨_, Json.read_write (texts.2 _ held)⟩⟩
  have took : Channel.taken {} uses = [begunState, completedState] := rfl
  obtain ⟨-, -, -, read, -, -, sent⟩ := streams_carry_states uses
  obtain ⟨frames, ended⟩ := read 2 few
  have shown := sent _ built
  rw [took] at frames
  simp only [List.map_cons, List.map_nil] at frames shown
  exact ⟨closes, few, frames, ended.mpr closes, built, shown⟩

end QuestionDesk.Push
