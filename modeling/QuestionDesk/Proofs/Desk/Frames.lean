import QuestionDesk.Proofs.Desk.Subscribers
import QuestionDesk.Proofs.Push.Frames

/-!
# Frames of a service

The stream of a channel gives a frame for each state that the channel was told, and nothing else.
The only numbers of which the service does not know that they are finite are those that the executor
gave: the rows of a completed job and how much was read for them. Where one of them is not finite
the frame is no JSON document.
-/
namespace QuestionDesk.Desk

open Jobs (Job)
open Json (Distinct Document)
open Pipeline (Run)
open Push (JobState Station Touch WrittenFor)
open Remote (Execution)

/-! ## What is written -/

/-- The states that the sink of a name takes up to a moment of a course, in order. -/
def statesTold (desk : Desk) (occurrences : Nat → Occurrence) (name : String) (count : Nat) :
    List JobState :=
  ((desk.watch occurrences).touchesBetween 0 count).filterMap (Touch.state? name)

/-- A state was told when its sink was touched so. -/
theorem mem_statesTold {desk : Desk} {occurrences : Nat → Occurrence} {name : String} {count : Nat}
    {state : JobState} : state ∈ desk.statesTold occurrences name count ↔ ∃ moment < count, ∃ key,
      .told key name state ∈ (desk.watch occurrences).touches moment := by
  constructor
  · intro member
    obtain ⟨touch, touched, tells⟩ := List.mem_filterMap.mp member
    obtain ⟨moment, within, touches⟩ := List.mem_flatMap.mp touched
    obtain ⟨key, rfl⟩ := Touch.told_of_state? tells
    exact ⟨moment, by simpa using within, key, touches⟩
  · rintro ⟨moment, before, key, touches⟩
    refine List.mem_filterMap.mpr ⟨.told key name state, ?_, if_pos rfl⟩
    exact Push.Watch.mem_touchesBetween touches (Nat.zero_le moment) before

/-- The channels that are brought in a course are new. -/
def BringsNew (occurrences : Nat → Occurrence) : Prop :=
  ∀ moment name channel, occurrences moment = .bring name (.channel channel) → channel = {}

section Writing

variable {settings : Settings} {desk : Desk} (started : start settings = .ok desk)
  {occurrences : Nat → Occurrence}
include started

/-- The states that are told up to the next moment. -/
theorem statesTold_succ (name : String) (count : Nat) :
    desk.statesTold occurrences name (count + 1) = desk.statesTold occurrences name count ++
      ((desk.course occurrences count).station.touches
        ((desk.course occurrences count).deedOf (occurrences count))).filterMap
          (Touch.state? name) := by
  rw [statesTold, Push.Watch.touchesBetween_succ (Nat.zero_le _), List.filterMap_append,
    touches_watch started]
  rfl

/-- In a course, the frames of the states that a channel was told are all that are written for its
stream. -/
theorem writtenFor_course (brings : BringsNew occurrences) (name : String) (count : Nat) :
    WrittenFor (desk.course occurrences count).relay.sinks name
      (desk.statesTold occurrences name count) := by
  induction count with
  | zero =>
    obtain ⟨_, _, rfl⟩ := start_eq started
    rfl
  | succ count before =>
    rw [statesTold_succ started, course]
    have brought := brings count
    generalize occurrences count = occurrence at brought
    generalize desk.course occurrences count = now at before
    have written :
        WrittenFor now.station.relay.sinks name (desk.statesTold occurrences name count) := before
    -- Sinks that no deed of the relay touches come, go or are read up to what was written.
    cases asked : handlesSinks occurrence with
    | false =>
      have after := congrArg (·.relay.sinks) (now.station_occur asked)
      rw [show (now.occur occurrence).relay.sinks = _ from after]
      exact written.after _
    | true =>
      unfold handlesSinks at asked
      split at asked
      · next other sink =>
        refine (List.append_nil _).symm ▸ before.ensured ?_
        intro all written
        cases sink with
        | channel channel =>
          cases brought other channel rfl
          exact (Option.some.inj written).symm
        | recorder => cases written
      · next jobKey other =>
        have gone := written.after (.closeIfCurrent jobKey other)
        have sinks := (now.relay.closeIfCurrent jobKey other).sinks_closeSink jobKey other
        rw [show (now.occur (.act (.unsubscribe jobKey other))).relay.sinks = _ from sinks]
        exact gone.closed jobKey other
      · exact (List.append_nil _).symm ▸ before.drained
      · cases asked

/-- A stream that was read up to what was written has given the frames of all states that its channel
was told. -/
theorem frames_of_read (brings : BringsNew occurrences) {name : String} {count : Nat}
    {channel : Push.Channel}
    (found : (desk.course occurrences count).relay.sinks.find? name = some (.channel channel))
    (read : channel.queue = []) :
    channel.frames = (desk.statesTold occurrences name count).map JobState.frame := by
  rw [← (writtenFor_course started brings name count).of_channel found, Push.Channel.written, read]
  exact (List.append_nil _).symm

end Writing

/-! ## States -/

/-- Whether the numbers are finite that a state tells of an execution. -/
def isFinite (execution : Execution) : Bool :=
  execution.rowsValue.allFinite &&
    (Fields.get execution.metadata "total_bytes_processed").allFinite

/-- A state tells the rows of an execution of a kind if its job has completed, and no rows
otherwise. Names differ in it, and its numbers are finite where those of the execution are. -/
structure Telling (kind : Execution → Prop) (state : JobState) : Prop where
  /-- Names differ. -/
  distinct : Distinct state.wire
  /-- A job that has completed has its rows told. -/
  completed : state.status = "completed" → ∃ execution hash, kind execution ∧
    state.result = some (JobState.resultOf execution (.text hash)) ∧
      state.wire.allFinite = isFinite execution
  /-- Of no other job is anything told but finite numbers. -/
  others : state.status ≠ "completed" → state.result = none ∧ state.wire.allFinite = true

/-- What is told of the rows of an execution that can be read has different names. -/
theorem distinct_resultOf {execution : Execution}
    (readable : Json.Readable (.object execution.fields)) (hash : String) :
    Distinct (.object (JobState.resultOf execution (.text hash))) := by
  have gives : execution.fields.get? "rows" = some execution.rowsValue := rfl
  have notes : execution.fields.get? "execution_metadata" = some (.object execution.metadata) := rfl
  have rows : Distinct execution.rowsValue :=
    Json.Readable.distinct _ (Remote.readable_get? readable gives)
  have metadata : Json.Readable (.object execution.metadata) :=
    Remote.readable_get? readable notes
  have bytes : Distinct (Fields.get execution.metadata "total_bytes_processed") := by
    unfold Fields.get
    cases found : execution.metadata.get? "total_bytes_processed" with
    | none => trivial
    | some value => exact Json.Readable.distinct _ (Remote.readable_get? metadata found)
  have names : ["data", "metadata"].Nodup ∧
      ["totalRows", "bytesProcessed", "sqlHash"].Nodup := by decide
  exact ⟨names.1, rows, ⟨names.2, trivial, bytes, trivial, trivial⟩, trivial⟩

/-- The words of statuses are different. -/
theorem status_of_word {one other : Jobs.Status} (same : one.word = other.word) : one = other := by
  cases one <;> cases other <;> first | rfl | exact absurd same (by decide)

/-- What a job that can be told tells. -/
theorem Returned.telling {kind : Execution → Prop} {job : Job} (returned : Returned kind job)
    (readable : ∀ execution, kind execution → Json.Readable (.object execution.fields))
    {questionId : String} (known : Known questionId job) {state : JobState}
    (told : JobState.ofJob job = .ok state) : Telling kind state := by
  obtain ⟨title, named⟩ := returned.titled
  rcases returned.answer with ⟨empty, running⟩ | ⟨completed, execution, chart, hash, gave, returns,
    noted⟩
  · cases told.symm.trans (JobState.ofJob_unanswered named empty)
    refine ⟨JobState.distinct_wire _ trivial trivial, fun same => absurd ?_ running,
      fun _ => ⟨rfl, JobState.allFinite_wire _⟩⟩
    exact status_of_word same
  · cases told.symm.trans (JobState.ofJob_answered completed named returns)
    obtain ⟨prompt, asked⟩ := known.payload
    have content : job.payload.get "user_prompt" = .text prompt := by
      rw [asked]
      rfl
    rw [content, noted]
    refine ⟨JobState.distinct_wire _ trivial (distinct_resultOf (readable _ gave) hash),
      fun _ => ⟨execution, hash, gave, rfl, ?_⟩, fun other => absurd ?_ other⟩
    · rw [JobState.allFinite_wire]
      simp [JobState.resultOf, isFinite, Value.allFinite, Value.fieldsFinite]
    · rw [completed]
      rfl

/-! ## Frames -/

/-- How a state is sent in a course. -/
structure Sent (desk : Desk) (occurrences : Nat → Occurrence) (count : Nat) (state : JobState) :
    Prop where
  /-- It is the state of a job. -/
  job : ∃ moment job, moment < count ∧ Concerns (desk.course occurrences moment).board job ∧
    JobState.ofJob job = .ok state
  /-- It tells the rows of a completed job, which the executor gave, and of any other job none. -/
  tells : Telling (desk.Gave occurrences count) state
  /-- Its frame is a line and an empty one. The line has a JSON document that stands for the state
  and for nothing else where all numbers in it are finite, and no document where one is not. -/
  line : ∃ text : String, state.frame = "data: " ++ text ++ "\n\n" ∧ '\n' ∉ text.toList ∧
    ∀ value, Document text value ↔ state.wire.allFinite = true ∧ value = state.wire

/-- Where one number in a state is not finite, its frame is no line with a JSON document. -/
theorem Sent.undocumented {desk : Desk} {occurrences : Nat → Occurrence} {count : Nat}
    {state : JobState} (sent : desk.Sent occurrences count state)
    (infinite : state.wire.allFinite = false) (text : String) (value : Value)
    (frame : state.frame = "data: " ++ text ++ "\n\n") : ¬Document text value := by
  obtain ⟨line, same, _, stands⟩ := sent.line
  have own : text = line := by
    have chars := congrArg String.toList (frame.symm.trans same)
    exact String.toList_inj.mp (by simpa using chars)
  rw [own, stands, infinite]
  exact nofun ∘ And.left

section Course

variable {settings : Settings} {desk : Desk} (started : start settings = .ok desk)
  {occurrences : Nat → Occurrence} (service : ∀ moment, (occurrences moment).isService = true)
include started service

/-- A state that a sink was told is sent in this way. -/
theorem sent_of_told {moment count : Nat} (before : moment < count) {key sink : String}
    {state : JobState} (told : .told key sink state ∈ (desk.watch occurrences).touches moment) :
    desk.Sent occurrences count state := by
  obtain ⟨job, concerns, _, tells⟩ := told_concerns started service told
  obtain ⟨matters, story⟩ := exists_story started service job.fingerprint
  have stands := (story.keeps moment).only job concerns rfl
  have known := (accounted_course started service moment).known concerns
  have returned := (story.sourced started service moment stands).mono
    fun _ gave => gave.later (Nat.le_of_lt before)
  have telling := returned.telling (fun _ gave => gave.readable) known tells
  exact ⟨⟨moment, job, before, concerns, tells⟩, telling,
    JobState.frame_of_distinct _ telling.distinct⟩

/-- The stream of a channel that came to a service gives a frame for each state that the channel was
told, in order, and nothing else: a line of data and an empty one. The line has a JSON document that
stands for the state, unless the executor gave, for a job that has completed, a number that is not
finite among its rows or for how much was read; then it has none. -/
theorem stream_of_channel (brings : BringsNew occurrences) {name : String} {count : Nat}
    {channel : Push.Channel}
    (found : (desk.course occurrences count).relay.sinks.find? name = some (.channel channel)) :
    channel.frames <+: (desk.statesTold occurrences name count).map JobState.frame ∧
    (channel.queue = [] →
      channel.frames = (desk.statesTold occurrences name count).map JobState.frame) ∧
    ∀ state ∈ desk.statesTold occurrences name count, desk.Sent occurrences count state := by
  have written := (writtenFor_course started brings name count).of_channel found
  refine ⟨written ▸ channel.frames_prefix, frames_of_read started brings found,
    fun state member => ?_⟩
  obtain ⟨moment, before, key, told⟩ := mem_statesTold.mp member
  exact sent_of_told started service before told

end Course

/-! ## Two streams -/

/-- Whether a channel that is brought is new. -/
def bringsNew : Occurrence → Bool
  | .bring _ (.channel channel) => channel = {}
  | _ => true

/-- The channels that are brought in a course are new where those in its script are. -/
theorem bringsNew_script {occurrences : List Occurrence} (all : occurrences.all bringsNew = true) :
    BringsNew (script occurrences) := by
  intro moment name channel brought
  rw [script, List.getD_eq_getElem?_getD] at brought
  cases found : occurrences[moment]? with
  | none =>
    rw [found] at brought
    cases brought
  | some occurrence =>
    rw [found] at brought
    cases (brought : occurrence = _)
    simpa [bringsNew] using List.all_eq_true.mp all _ (List.mem_of_getElem? found)

/-- Somebody asks and subscribes with a channel, the executor answers, and the stream is read. -/
def streamed (answer : String) : List Occurrence :=
  asks 0 "Which types?" ++ [.bring "client" (.channel {}), .act (.subscribe "q1" "client"),
    .act (.take 0)] ++
    served 0 ["", typesPlan, "", "", "", answer, "\x7b\x7d", ""] ++ [.act (.tell 0), .act .read]

/-- The document of one row with no number where one should be. -/
def voidRows : String := "\x7b\"rows\": [\x7b\"type\": NaN\x7d]\x7d"

/-- The channel of a name. -/
def channel? (desk : Desk) (name : String) : Option Push.Channel :=
  match desk.relay.sinks.find? name with
  | some (.channel channel) => some channel
  | _ => none

/-- The channel of a name is found under it. -/
theorem find?_of_channel? {desk : Desk} {name : String} {channel : Push.Channel}
    (found : desk.channel? name = some channel) :
    desk.relay.sinks.find? name = some (.channel channel) := by
  unfold channel? at found
  split at found
  · next sink held =>
    cases found
    exact held
  · cases found

/-- The stream of a subscriber gives two frames: that the job is pending, and its rows. -/
theorem stream_of_channel_streamed : ∃ (desk : Desk) (channel : Push.Channel),
    start smallService = .ok desk ∧
    (∀ moment, (script (streamed typesRows) moment).isService = true) ∧
    BringsNew (script (streamed typesRows)) ∧
    (desk.course (script (streamed typesRows)) 18).relay.sinks.find? "client" =
      some (.channel channel) ∧
    channel.frames.length = 2 ∧ channel.queue = [] ∧
    channel.frames =
      (desk.statesTold (script (streamed typesRows)) "client" 18).map JobState.frame ∧
    ∀ state ∈ desk.statesTold (script (streamed typesRows)) "client" 18,
      desk.Sent (script (streamed typesRows)) 18 state := by
  obtain ⟨desk, started, passes⟩ := @exists_start smallService (fun desk =>
    ((desk.course (script (streamed typesRows)) 18).channel? "client").any fun channel =>
      channel.frames.length = 2 && channel.queue = [])
    (by decide +kernel)
  obtain ⟨channel, found, passes⟩ := (Option.any_eq_true _ _).mp passes
  simp only [Bool.and_eq_true, decide_eq_true_eq] at passes
  have held := find?_of_channel? found
  have service := @isService_script (streamed typesRows) rfl
  have brings := @bringsNew_script (streamed typesRows) rfl
  obtain ⟨_, all, sent⟩ := stream_of_channel started service brings held
  exact ⟨desk, channel, started, service, brings, held, passes.1, passes.2, all passes.2, sent⟩

/-- The executor gives rows with no number where one should be, its answer is accepted, and the job
completes; the frame that says so is no line with a JSON document. -/
theorem undocumented_frame : ∃ (desk : Desk) (channel : Push.Channel) (state : JobState),
    start smallService = .ok desk ∧
    (∀ moment, (script (streamed voidRows) moment).isService = true) ∧
    BringsNew (script (streamed voidRows)) ∧
    (desk.course (script (streamed voidRows)) 18).relay.sinks.find? "client" =
      some (.channel channel) ∧
    state.status = "completed" ∧ state.frame ∈ channel.frames ∧
    ¬∃ (text : String) (value : Value), state.frame = "data: " ++ text ++ "\n\n" ∧
      Document text value := by
  obtain ⟨desk, started, passes⟩ := @exists_start smallService (fun desk =>
    let course := desk.course (script (streamed voidRows))
    ((course 18).channel? "client").any fun channel => channel.queue = [] &&
      ((course 16).station.touches ((course 16).deedOf (script (streamed voidRows) 16))).any
        fun touch => (touch.state? "client").any fun state =>
          state.status = "completed" && !state.wire.allFinite)
    (by decide +kernel)
  obtain ⟨channel, found, passes⟩ := (Option.any_eq_true _ _).mp passes
  simp only [Bool.and_eq_true, decide_eq_true_eq, List.any_eq_true, Option.any_eq_true,
    Bool.not_eq_true'] at passes
  obtain ⟨read, touch, touched, state, tells, completed, infinite⟩ := passes
  have service := @isService_script (streamed voidRows) rfl
  have brings := @bringsNew_script (streamed voidRows) rfl
  have held := find?_of_channel? found
  rw [← touches_watch started] at touched
  obtain ⟨key, rfl⟩ := Touch.told_of_state? tells
  have sent : desk.Sent _ 18 state := sent_of_told started service (by decide) touched
  have framed : state.frame ∈ channel.frames := by
    rw [frames_of_read started brings held read]
    exact List.mem_map_of_mem (mem_statesTold.mpr ⟨16, by decide, key, touched⟩)
  exact ⟨desk, channel, state, started, service, brings, held, completed, framed,
    fun ⟨text, value, frame, document⟩ => sent.undocumented infinite text value frame document⟩

end QuestionDesk.Desk
