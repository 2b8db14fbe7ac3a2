import QuestionDesk.Proofs.Json.Grammar
import QuestionDesk.Proofs.Json.Printable
import QuestionDesk.Proofs.Push.Lines

/-!
# Frames

The stream of a channel gives one frame for each state that the channel was told, in order: what is
in the queue and what the stream has given are together what was written, whenever the channel is
read or closed. A frame is one line with the document of its state, and an empty line.
-/
namespace QuestionDesk.Push

open Json (Distinct Document Readable fieldsDistinct_iff fieldsReadable_iff)

/-! ## States -/

namespace JobState

/-- The frame in which a state is sent. -/
def frame (state : JobState) : String := frameText state.wire

section Wire

variable (state : JobState)

/-- The value of a field that holds a text or nothing. -/
theorem textValue_cases (text : Option String) : Jobs.Job.textValue text = .null ∨
    ∃ word, Jobs.Job.textValue text = .text word := by
  cases text with
  | none => exact Or.inl rfl
  | some word => exact Or.inr ⟨word, rfl⟩

/-- The names of the fields that are sent differ. -/
theorem nodup_wireFields : (state.wireFields.map Prod.fst).Nodup := by
  have names : ((state.fieldsAs "questionContent" "createdAt" "jobId").map Prod.fst).Nodup := by
    change ["jobId", "status", "title", "questionContent", "result", "error", "createdAt"].Nodup
    decide
  exact names.sublist (List.filter_sublist.map _)

/-- What is the case of texts, of nothing, of the question and of the result is the case of all
fields that are sent. -/
theorem wireFields_all {kind : Value → Prop} (nothing : kind .null)
    (texts : ∀ word, kind (.text word)) (content : kind state.questionContent)
    (result : kind ((state.result.map Value.object).getD .null)) :
    ∀ field ∈ state.wireFields, kind field.2 := by
  have optional : ∀ text, kind (Jobs.Job.textValue text) := by
    intro text
    rcases textValue_cases text with same | ⟨word, same⟩ <;> rw [same]
    · exact nothing
    · exact texts word
  intro field member
  have all : field ∈ state.fieldsAs "questionContent" "createdAt" "jobId" :=
    List.filter_sublist.subset member
  simp only [fieldsAs, List.mem_cons, List.not_mem_nil, or_false] at all
  rcases all with rfl | rfl | rfl | rfl | rfl | rfl | rfl
  · exact texts _
  · exact texts _
  · exact optional _
  · exact content
  · exact result
  · exact optional _
  · exact optional _

/-- The names differ in a state where they do in the question and in the result. -/
theorem distinct_wire (content : Distinct state.questionContent)
    (result : Distinct ((state.result.map Value.object).getD .null)) : Distinct state.wire :=
  ⟨state.nodup_wireFields, fieldsDistinct_iff.mpr
    (state.wireFields_all trivial (fun _ => trivial) content result)⟩

/-- A text can hold a state where it can hold the question and the result. -/
theorem readable_wire (content : Readable state.questionContent)
    (result : Readable ((state.result.map Value.object).getD .null)) : Readable state.wire :=
  ⟨state.nodup_wireFields, fieldsReadable_iff.mpr
    (state.wireFields_all trivial (fun _ => trivial) content result)⟩

/-- Fields without those that hold nothing hold the same numbers. -/
theorem fieldsFinite_filter (fields : Fields) :
    Value.fieldsFinite (fields.filter fun field => field.2 != .null) =
      Value.fieldsFinite fields := by
  induction fields with
  | nil => rfl
  | cons field fields same =>
    obtain ⟨name, value⟩ := field
    rw [List.filter_cons]
    split
    · rw [Value.fieldsFinite, Value.fieldsFinite, same]
    · next dropped =>
      obtain rfl : value = .null := by simpa using dropped
      rw [same]
      rfl

/-- All numbers in a state are finite where they are so in the question and in the result. -/
theorem allFinite_wire : state.wire.allFinite =
    (state.questionContent.allFinite && ((state.result.map Value.object).getD .null).allFinite) := by
  have texts : ∀ text, (Jobs.Job.textValue text).allFinite = true := by
    intro text
    rcases textValue_cases text with same | ⟨word, same⟩ <;> rw [same] <;> rfl
  rw [wire, Value.allFinite, wireFields, fieldsFinite_filter]
  simp [fieldsAs, Value.fieldsFinite, texts, Value.allFinite]

/-- The frame of a state in which names differ is one line and an empty one. The line holds a JSON
document that stands for the state and nothing else where all numbers are finite, and no document
where one is not. -/
theorem frame_of_distinct (distinct : Distinct state.wire) : ∃ text : String,
    state.frame = "data: " ++ text ++ "\n\n" ∧ '\n' ∉ text.toList ∧
      ∀ value, Document text value ↔ state.wire.allFinite = true ∧ value = state.wire :=
  ⟨Json.write state.wire, rfl, Json.one_line state.wire, Json.document_write distinct⟩

end Wire

end JobState

/-! ## Channels -/

namespace Channel

/-- The frames that the stream of a channel has given, and those that it will give for what is in
the queue. -/
def written (channel : Channel) : List String :=
  channel.frames ++ channel.queue.filterMap (·.map frameText)

/-- The frames that were given come first among those that are written. -/
theorem frames_prefix (channel : Channel) : channel.frames <+: channel.written :=
  List.prefix_append _ _

/-- Reading takes nothing from what is written, and adds nothing. -/
theorem written_read (channel : Channel) : channel.read.written = channel.written := by
  unfold read
  split
  · rfl
  · split
    · rfl
    · next queued => simp [written, queued]
    · next queued => simp [written, queued]

/-- Reading any number of times takes nothing from what is written, and adds nothing. -/
theorem written_readTimes (count : Nat) (channel : Channel) :
    (readTimes count channel).written = channel.written := by
  induction count generalizing channel with
  | zero => rfl
  | succ count ih => rw [readTimes, ih, written_read]

/-- Closing a channel takes nothing from what is written, and adds nothing. -/
theorem written_close (channel : Channel) : channel.close.written = channel.written := by
  unfold close
  split
  · rfl
  · simp [written]

/-- A state that a channel takes is written behind all others. -/
theorem written_write {channel after : Channel} {state : JobState}
    (takes : channel.write state = .ok after) :
    after.written = channel.written ++ [state.frame] := by
  unfold write at takes
  split at takes
  · cases takes
  · cases takes
    simp [written, JobState.frame]

end Channel

/-! ## Sinks -/

namespace Sink

/-- The frames that are written for the stream of a sink, if it is a channel. -/
def written? : Sink → Option (List String)
  | .channel inner => some inner.written
  | .recorder .. => none

/-- Reading the stream of a sink leaves what is written as it is. -/
theorem written?_drain (sink : Sink) : sink.drain.written? = sink.written? := by
  cases sink with
  | channel inner => exact congrArg some (inner.written_readTimes _)
  | recorder => rfl

/-- Closing a sink leaves what is written as it is. -/
theorem written?_close (sink : Sink) : sink.close.written? = sink.written? := by
  cases sink with
  | channel inner => exact congrArg some inner.written_close
  | recorder => rfl

/-- A state that a sink takes is written behind all others. -/
theorem written?_write {sink after : Sink} {state : JobState} (takes : sink.write state = .ok after) :
    after.written? = sink.written?.map (· ++ [state.frame]) := by
  cases sink with
  | channel inner =>
    cases wrote : inner.write state with
    | error failure => simp [write, wrote, Except.map] at takes
    | ok told =>
      simp only [write, wrote, Except.map, Except.ok.injEq] at takes
      rw [← takes]
      exact congrArg some (Channel.written_write wrote)
  | recorder states closes failsWrite failsClose =>
    simp only [write] at takes
    split at takes
    · cases takes
    · cases takes
      rfl

end Sink

/-! ## What is done to the sinks -/

/-- The state that a sink is told when a sink is touched. -/
def Touch.state? (name : String) : Touch → Option JobState
  | .told _ sink state => if sink = name then some state else none
  | .refused .. | .closed .. => none

/-- A touch by which the sink of a name is told a state. -/
theorem Touch.told_of_state? {name : String} {touch : Touch} {state : JobState}
    (tells : touch.state? name = some state) : ∃ key, touch = .told key name state := by
  cases touch with
  | told key sink told =>
    simp only [state?] at tells
    split at tells
    · next own =>
      cases tells
      exact ⟨key, by rw [own]⟩
    · cases tells
  | refused | closed => cases tells

/-- The frames of states are all that are written for the sink of a name, if it is a channel; where
there is no sink of that name there are no states. -/
def WrittenFor (sinks : Keyed Sink) (name : String) (states : List JobState) : Prop :=
  match sinks.find? name with
  | some sink => ∀ written, sink.written? = some written → written = states.map JobState.frame
  | none => states = []

section Touches

variable {sinks : Keyed Sink} {name : String} {states : List JobState}

/-- The frames of the states are those that are written for the channel of the name. -/
theorem WrittenFor.of_channel (written : WrittenFor sinks name states) {channel : Channel}
    (found : sinks.find? name = some (.channel channel)) :
    channel.written = states.map JobState.frame := by
  unfold WrittenFor at written
  rw [found] at written
  exact written channel.written rfl

/-- A sink that is changed without any part in what is written. -/
theorem WrittenFor.put (written : WrittenFor sinks name states) {other : String}
    {sink changed : Sink} (found : sinks.find? other = some sink)
    (same : changed.written? = sink.written?) :
    WrittenFor (sinks.put other changed) name states := by
  unfold WrittenFor at written ⊢
  by_cases own : name = other
  · subst own
    simp only [found] at written
    simp only [Keyed.find?_put_self, same]
    exact written
  · rw [Keyed.find?_put_ne _ _ own]
    exact written

/-- Closing a sink takes nothing from what is written. -/
theorem WrittenFor.closed (written : WrittenFor sinks name states) (key other : String) :
    WrittenFor (Touch.on sinks (.closed key other)) name states := by
  simp only [Touch.on]
  split
  · next sink found => exact written.put found sink.written?_close
  · exact written

/-- A sink that takes a state has it written behind all others. -/
theorem WrittenFor.told (written : WrittenFor sinks name states) {key other : String}
    {state : JobState}
    (takes : ((sinks.find? other).any fun sink => (sink.write state).isOk) = true) :
    WrittenFor (Touch.on sinks (.told key other state)) name
      (states ++ (Touch.state? name (.told key other state)).toList) := by
  obtain ⟨sink, found, accepts⟩ := (Option.any_eq_true _ _).mp takes
  cases wrote : sink.write state with
  | error failure =>
    rw [wrote] at accepts
    cases accepts
  | ok after =>
    have grows := Sink.written?_write wrote
    simp only [Touch.on, found, Option.bind_some, wrote, Except.toOption, Touch.state?]
    unfold WrittenFor at written ⊢
    by_cases own : other = name
    · subst own
      simp only [found] at written
      simp only [Keyed.find?_put_self, if_true]
      intro all held
      obtain ⟨before, had, rfl⟩ := Option.map_eq_some_iff.mp (grows.symm.trans held)
      rw [written before had, Option.toList_some, List.map_append]
      rfl
    · rw [Keyed.find?_put_ne _ _ (Ne.symm own), if_neg own, Option.toList_none, List.append_nil]
      exact written

/-- What is done to tell a sink is done to no other one. -/
theorem Relay.telling_cases (relay : Relay) (key name : String) (state : JobState) :
    relay.accepts name state = true ∧ relay.telling key name state = [.told key name state] ∨
      relay.telling key name state = [.refused key name state, .closed key name] := by
  unfold telling
  split
  · next takes => exact Or.inl ⟨takes, rfl⟩
  · exact Or.inr rfl

/-- A deed tells one sink that takes what it is told, or nothing but refusals and closings come of
it. -/
theorem Station.touches_cases (station : Station) (deed : Deed) :
    (∃ key sink state, station.relay.accepts sink state = true ∧
      station.touches deed = [.told key sink state]) ∨
    ∀ touch ∈ station.touches deed, ∀ key sink state, touch ≠ .told key sink state := by
  have telling : ∀ key name state,
      (∃ own sink told, station.relay.accepts sink told = true ∧
        station.relay.telling key name state = [.told own sink told]) ∨
      ∀ touch ∈ station.relay.telling key name state, ∀ own sink told,
        touch ≠ .told own sink told := by
    intro key name state
    rcases station.relay.telling_cases key name state with ⟨takes, told⟩ | refused
    · exact Or.inl ⟨key, name, state, takes, told⟩
    · rw [refused]
      exact Or.inr (by simp)
  cases deed with
  | setup key sink state => exact telling key sink state
  | send key state =>
    simp only [touches]
    split
    · exact telling key _ state
    · exact Or.inr (by simp)
  | close key => exact Or.inr (by simp [touches, Relay.closing])
  | closeIfCurrent key sink | expire timer =>
    simp only [touches]
    split <;> exact Or.inr (by simp)
  | pass span => exact Or.inr (by simp [touches])

/-- A deed writes what it tells for the sinks that it tells, and nothing else. -/
theorem WrittenFor.after {station : Station} (written : WrittenFor station.relay.sinks name states)
    (deed : Deed) : WrittenFor (station.after deed).relay.sinks name
      (states ++ (station.touches deed).filterMap (Touch.state? name)) := by
  rw [Station.sinks_after]
  rcases station.touches_cases deed with ⟨key, sink, state, takes, told⟩ | silent
  · rw [told]
    have tells := @WrittenFor.told _ _ _ written key sink state takes
    cases told : Touch.state? name (.told key sink state) with
    | none | some =>
      rw [told] at tells
      simpa [told] using tells
  · generalize station.touches deed = touches at silent
    generalize station.relay.sinks = sinks at written
    -- Where nobody is told anything, the sinks only refuse or are closed, one after the other.
    induction touches generalizing sinks with
    | nil =>
      rw [List.filterMap_nil, List.append_nil]
      exact written
    | cons touch touches ih =>
      rw [List.foldl_cons]
      have rest := fun other member => silent other (List.mem_cons_of_mem _ member)
      cases touch with
      | told key sink state => exact absurd rfl (silent _ List.mem_cons_self key sink state)
      | refused => exact ih rest _ written
      | closed key other => exact ih rest _ (written.closed key other)

/-- A sink that is brought has nothing written for it. -/
theorem WrittenFor.ensured {relay : Relay} (written : WrittenFor relay.sinks name states)
    {other : String} {sink : Sink} (fresh : ∀ all, sink.written? = some all → all = []) :
    WrittenFor (relay.ensure other sink).sinks name states := by
  unfold Relay.ensure
  split
  · exact written
  · next absent =>
    unfold WrittenFor at written ⊢
    simp only [Keyed.find?, List.lookup_append] at written ⊢
    cases found : relay.sinks.lookup name with
    | some sink =>
      rw [found] at written
      exact written
    | none =>
      rw [found] at written
      obtain rfl : states = [] := written
      by_cases own : name = other
      · subst own
        simpa using fresh
      · have unequal : (name == other) = false := by simpa using own
        simp [List.lookup_cons, unequal]

/-- The sink under a name after all streams have been read. -/
theorem Relay.find?_drain (relay : Relay) (name : String) :
    relay.drain.sinks.find? name = (relay.sinks.find? name).map Sink.drain := by
  unfold drain Keyed.find?
  induction relay.sinks with
  | nil => rfl
  | cons entry sinks ih =>
    obtain ⟨key, sink⟩ := entry
    simp only [List.map_cons, List.lookup_cons]
    cases name == key with
    | true => rfl
    | false => exact ih

/-- The streams that are read take nothing from what is written. -/
theorem WrittenFor.drained {relay : Relay} (written : WrittenFor relay.sinks name states) :
    WrittenFor relay.drain.sinks name states := by
  unfold WrittenFor at written ⊢
  rw [relay.find?_drain]
  cases found : relay.sinks.find? name with
  | none =>
    rw [found] at written
    exact written
  | some sink =>
    rw [found] at written
    simp only [Option.map_some, Sink.written?_drain]
    exact written

end Touches

end QuestionDesk.Push
