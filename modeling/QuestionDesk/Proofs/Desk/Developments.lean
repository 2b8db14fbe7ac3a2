import QuestionDesk.Proofs.Desk.Endings
import QuestionDesk.Proofs.Desk.Matters

/-!
# Developments

What can become of the matter of a question while one thing occurs at the desk. Every statement
about one question and its job is an induction over its developments, which say nothing about any
other question.
-/
namespace QuestionDesk

open Database (JobRecord Ledger Wording)
open Jobs (Board Event Job)
open Pipeline (Next Phase Prepared Run Runner)

namespace Desk

/-! ## Notes -/

/-- Notes that do not mark a duplicate, and whose titles are texts. -/
def Harmless (notes : Fields) : Prop :=
  ∀ field ∈ notes, field.1 ≠ Run.duplicateNote ∧
    (field.1 = Run.titleNote → ∃ title, field.2 = .text title)

/-- A note leaves the other notes as they are. -/
theorem get_note (job : Job) {name other : String} (value : Value) (apart : name ≠ other) :
    (job.note name value).notes.get other = job.notes.get other :=
  Fields.get_set_ne job.notes value (Ne.symm apart)

/-- The title that can be told of a job is the one that was noted. -/
theorem titleOf_congr {job changed : Job}
    (same : changed.notes.get Run.titleNote = job.notes.get Run.titleNote) :
    Push.JobState.titleOf changed = Push.JobState.titleOf job := by
  change changed.notes.get "title" = job.notes.get "title" at same
  rw [Push.JobState.titleOf, Push.JobState.titleOf, same]

/-- A harmless note leaves a job bare. -/
theorem Bare.note {job : Job} (bare : Bare job) {name : String} {value : Value}
    (unmarked : name ≠ Run.duplicateNote)
    (titled : name = Run.titleNote → ∃ title, value = .text title) :
    Bare (job.note name value) := by
  refine ⟨?_, ?_, bare.empty⟩
  · rw [isDuplicate, get_note job value unmarked]
    exact bare.unmarked
  · by_cases same : name = Run.titleNote
    · obtain ⟨title, rfl⟩ := titled same
      subst same
      refine ⟨some title, ?_⟩
      have told : (job.note Run.titleNote (.text title)).notes.get "title" = .text title := by
        exact Fields.get_set_self job.notes Run.titleNote (.text title)
      rw [Push.JobState.titleOf, told]
    · rw [titleOf_congr (get_note job value same)]
      exact bare.titled

/-- Harmless notes leave a job bare. -/
theorem Bare.noteAll {job : Job} (bare : Bare job) {notes : Fields} (harmless : Harmless notes) :
    Bare (job.noteAll notes) := by
  induction notes generalizing job with
  | nil => exact bare
  | cons field rest ih =>
    have first := harmless field List.mem_cons_self
    exact ih (bare.note first.1 first.2) fun later member =>
      harmless later (List.mem_cons_of_mem _ member)

/-- No notes are harmless. -/
theorem harmless_nil : Harmless [] := nofun

/-- One more harmless note. -/
theorem Harmless.cons {name : String} {value : Value} {rest : Fields}
    (unmarked : name ≠ Run.duplicateNote)
    (titled : name = Run.titleNote → ∃ title, value = .text title) (harmless : Harmless rest) :
    Harmless ((name, value) :: rest) := by
  intro field member
  rcases List.mem_cons.mp member with rfl | later
  · exact ⟨unmarked, titled⟩
  · exact harmless field later

/-- The last note of a run is harmless. -/
theorem harmless_summary (value : Value) : Harmless [(Run.summaryNote, value)] :=
  harmless_nil.cons (by decide) fun same => absurd same (by decide)

/-- The title of a question whose prompt is a text is a text. -/
theorem exists_titleFor (prompt : String) (answer : Remote.PlannerAnswer) :
    ∃ title, Run.titleFor (.text prompt) answer = .text title := by
  unfold Run.titleFor
  split
  · split
    · exact ⟨prompt, rfl⟩
    · exact ⟨_, rfl⟩
  · exact ⟨prompt, rfl⟩

/-- A title and harmless notes are harmless. -/
theorem harmless_titled {prompt : Value} (text : ∃ words, prompt = .text words)
    (answer : Remote.PlannerAnswer) {rest : Fields} (harmless : Harmless rest) :
    Harmless ((Run.titleNote, Run.titleFor prompt answer) :: rest) := by
  obtain ⟨words, rfl⟩ := text
  exact harmless.cons (by decide) fun _ => exists_titleFor words answer

/-- The last notes of a run that fails are harmless. -/
theorem LastNotes.harmless {run : Run} {notes : Fields} (last : LastNotes run notes)
    (text : run.phase = .planning → ∃ words, run.prompt = .text words) : Harmless notes := by
  cases last with
  | untitled summary => exact harmless_summary summary
  | titled planning answer summary =>
    exact harmless_titled (text planning) answer (harmless_summary summary)

/-- The prompt of a run that asks the planner is a text. -/
theorem Carries.text {run : Run} {job : Job} (carries : Carries run job)
    (planning : run.phase = .planning) : ∃ words, run.prompt = .text words := by
  obtain ⟨prompt, text, -⟩ := carries.asked (by simp [planning])
  exact ⟨prompt, text⟩

section Passages

variable {desk between : Desk} {runner : Runner} {run following : Run}
  {response : Remote.Response} {job : Job} {notes : Fields}

/-- A run that goes on leaves harmless notes. -/
theorem Passage.harmless
    (passage : desk.Passage runner run response (.goOn following notes) between)
    (text : run.phase = .planning → ∃ words, run.prompt = .text words) : Harmless notes := by
  cases passage with
  | planned planning =>
    exact harmless_titled (text planning) _
      (harmless_nil.cons (by decide) fun same => absurd same (by decide))
  | _ => exact harmless_nil

/-- A run that goes on is still that of its job. -/
theorem Carries.next (carries : Carries run job)
    (passage : desk.Passage runner run response (.goOn following notes) between) {prompt : String}
    (asked : job.payload = Desk.payload job.fingerprint prompt) :
    Carries following (job.noteAll notes) := by
  have faithful := passage.faithful carries.faithful
  obtain ⟨sameJob, samePayload, begun, -⟩ := passage.keeps
  have informed := passage.informed carries.informed
  have named := informed.named begun
  have prompted := informed.asked begun
  rw [samePayload, carries.payload, asked] at named prompted
  rw [Job.noteAll_eq]
  exact ⟨sameJob.trans carries.jobId, samePayload.trans carries.payload,
    fun _ => (Option.some.inj named).symm,
    fun _ => ⟨prompt, (Option.some.inj prompted).symm, asked⟩, informed, faithful⟩

/-- A run that has removed its question does not go on to another stage. -/
theorem Passage.not_removed
    (passage : desk.Passage runner run response (.goOn following notes) between) :
    run.phase.hasRemoved = false := by
  cases passage with
  | opened phase | planned phase | admitted phase | unknown phase | recognised phase
  | duplicated phase | removed phase | saved phase | executed phase | charted phase =>
    rw [phase]
    rfl

end Passages

/-! ## What is written -/

/-- What a run that goes on has written about its question. -/
inductive Wrote : Phase → Phase → Ledger → Ledger → Prop where
  /-- It has written nothing. -/
  | nothing {phase next : Phase} {ledger : Ledger} (there : next.hasRemoved = phase.hasRemoved)
    (wording : next.wording = phase.wording) : Wrote phase next ledger ledger
  /-- It has removed the question. -/
  | removed {prepared : Prepared} {entry : Cache.QueryEntry} {ledger : Ledger} :
    Wrote (.removing prepared entry) (.repointing prepared entry) ledger {}
  /-- It has stored the query with the question. -/
  | saved {prepared : Prepared} {ledger : Ledger} : Wrote (.saving prepared) (.executing prepared)
    ledger { ledger with wording := some (.saved prepared) }

/-- What a run that has ended has left of its question: what was there before, except that the query
may have been stored when storing it failed. -/
inductive Quit (phase : Phase) : Ledger → Ledger → Prop where
  /-- It has left everything as it was. -/
  | same {ledger : Ledger} : Quit phase ledger ledger
  /-- It has stored the query and failed to read it. -/
  | saved {prepared : Prepared} {ledger : Ledger} (saving : phase = .saving prepared) :
    Quit phase ledger { ledger with wording := some (.saved prepared) }

/-- What a listener has stored about the end of a job, and how that went. -/
inductive Stored (job : Job) : Event → Except Failure Unit → Ledger → Ledger → Prop where
  /-- Nothing could be stored. -/
  | refused {event : Event} {failure : Failure} {ledger : Ledger} :
    Stored job event (.error failure) ledger ledger
  /-- There is nothing to store about a duplicate. -/
  | skipped {ledger : Ledger} (marked : isDuplicate job = true) :
    Stored job .completed (.ok ()) ledger ledger
  /-- The job is marked as completed, and its answer is stored. -/
  | completed {ledger : Ledger} {record : JobRecord} {result : Value}
    (unmarked : isDuplicate job = false) (only : ledger.records = [record])
    (given : Database.storedResult job.returnValue = .ok result) :
    Stored job .completed (.ok ()) ledger
      { ledger with records := [record.completed], answers := [⟨record.questionId, result⟩] }
  /-- The job is marked as failed. -/
  | failed {ledger : Ledger} {record : JobRecord} (only : ledger.records = [record]) :
    Stored job .failed (.ok ()) ledger
      { ledger with records := [record.failed job.failedReason] }
  /-- Nothing is known about the job that could be marked. -/
  | unknown {ledger : Ledger} (none : ledger.records = []) :
    Stored job .failed (.ok ()) ledger ledger

end Desk

/-! ## Occurrences -/

/-- Whether a call goes to the store or to the database. -/
def Pipeline.Call.isLocal : Pipeline.Call → Bool
  | .plan _ | .execute _ | .chart _ => false
  | _ => true

/-- Whether a reply is that the call failed. -/
def Pipeline.Reply.isFailure : Pipeline.Reply → Bool
  | .failed _ => true
  | _ => false

/-- Something that occurs at a desk. -/
inductive Occurrence where
  /-- The desk acts. -/
  | act (action : Action)
  /-- Somebody brings a sink to which states can be told. -/
  | bring (name : String) (sink : Push.Sink)

/-- Whether something occurs at a desk that runs no job by hand. -/
def Occurrence.isService : Occurrence → Bool
  | .act (.handle _ _) => false
  | _ => true

namespace Desk

/-- The desk after something has occurred. -/
def occur (desk : Desk) : Occurrence → Desk
  | .act action => desk.act action
  | .bring name sink => { desk with relay := desk.relay.ensure name sink }

/-- The desk after the first of a sequence of occurrences. -/
def course (desk : Desk) (occurrences : Nat → Occurrence) : Nat → Desk
  | 0 => desk
  | count + 1 => (course desk occurrences count).occur (occurrences count)

/-- Whether nobody is cut off and no call to the store or to the database fails. -/
def isSmooth (desk : Desk) : Occurrence → Bool
  | .act (.visit number) =>
    match desk.visits[number]? with
    | some visit =>
      match (desk.visitStep visit).1 with
      | .ended (.error _) => false
      | _ => true
    | none => true
  | .act (.work runner response) =>
    match (desk.run? runner).bind Run.call? with
    | some call => !(call.isLocal && (desk.perform call response).1.isFailure)
    | none => true
  | .act (.tell worker) =>
    match desk.board.telling? worker with
    | some (listener, job) => (desk.hear listener job).1.isOk
    | none => true
  | .act (.cut _) => false
  | _ => true

/-! ## Developments -/

/-- How the matter of a question develops while something occurs. -/
inductive Development (desk : Desk) (occurrence : Occurrence) (questionId : String) :
    Matter → Matter → Prop where
  /-- Nothing about the question changes. -/
  | rests {matter : Matter} : Development desk occurrence questionId matter matter
  /-- That the question was asked is stored. -/
  | counted {visit : Option (Nat × Visit)} {standing : Standing} {ledger : Ledger}
    {wording : Wording} {requests : List Database.Request} (asked : ledger.wording = some wording) :
    Development desk occurrence questionId ⟨visit, standing, ledger⟩
      ⟨visit, standing, { ledger with requests }⟩
  /-- A visit is given the key of the question. -/
  | begun {number : Nat} {prompt : String} {source : Option String}
    (key : questionId = questionKey (desk.named + 1))
    (named : (desk.occur occurrence).named = desk.named + 1) :
    Development desk occurrence questionId {}
      { visit := some (number, ⟨prompt, source, .creating questionId⟩) }
  /-- The question is stored, and its job is created. -/
  | posed {number : Nat} {prompt : String} {source : Option String} {job : Job}
    (known : Known questionId job) (payload : job.payload = payload questionId prompt)
    (pending : job.status = .pending) (bare : Bare job) (blameless : job.failedReason = none) :
    Development desk occurrence questionId
      { visit := some (number, ⟨prompt, source, .creating questionId⟩) }
      ⟨some (number, ⟨prompt, source, .recording (ticketOf questionId job)⟩), .waits job,
        { wording := some .draft }⟩
  /-- The question cannot be stored, or read afterwards, and the visit fails. -/
  | unposed {visit : Nat × Visit} {wording : Option Wording}
    (fails : desk.isSmooth occurrence = false) (draft : ∀ text ∈ wording, text = .draft) :
    Development desk occurrence questionId { visit := some visit } { ledger := { wording } }
  /-- What is known about the job is stored. -/
  | recorded {number : Nat} {prompt : String} {source : Option String} {job : Job}
    {standing : Standing} {ledger : Ledger} {wording : Wording}
    (stands : standing.job? = some job) (asked : ledger.wording = some wording)
    (unknown : ledger.records = []) :
    Development desk occurrence questionId
      ⟨some (number, ⟨prompt, source, .recording (ticketOf questionId job)⟩), standing, ledger⟩
      ⟨some (number, ⟨prompt, source, .remembering (ticketOf questionId job)⟩), standing,
        { ledger with
          records := [⟨questionId, job.id, Database.pendingStatus, none, desk.now⟩] }⟩
  /-- What is known about the job cannot be stored, or read afterwards, and the visit fails. -/
  | unrecorded {visit : Nat × Visit} {standing : Standing} {ledger : Ledger}
    {records : List JobRecord} (fails : desk.isSmooth occurrence = false)
    (unread : records ≠ ledger.records → ledger.records = [] ∧
      (∃ wording, ledger.wording = some wording) ∧ ∃ job, standing.job? = some job ∧
        records = [⟨questionId, job.id, Database.pendingStatus, none, desk.now⟩]) :
    Development desk occurrence questionId ⟨some visit, standing, ledger⟩
      ⟨none, standing, { ledger with records }⟩
  /-- What the prompt became is remembered, or cannot be, and the visit is done with the
  question. -/
  | remembered {number : Nat} {prompt : String} {source : Option String} {ticket : Ticket}
    {standing : Standing} {ledger : Ledger} :
    Development desk occurrence questionId
      ⟨some (number, ⟨prompt, source, .remembering ticket⟩), standing, ledger⟩
      ⟨none, standing, ledger⟩
  /-- A worker takes the job. -/
  | taken {visit : Option (Nat × Visit)} {job : Job} {ledger : Ledger} :
    Development desk occurrence questionId ⟨visit, .waits job, ledger⟩
      ⟨visit, .handled { job with processedOn := some desk.now }
        (Run.start desk.now job.id job.payload), ledger⟩
  /-- The run of the job goes on. -/
  | wentOn {visit : Option (Nat × Visit)} {job : Job} {ledger written : Ledger} {worker : Nat}
    {run next : Run} {response : Remote.Response} {notes : Fields} {between : Desk}
    (acts : occurrence = .act (.work (.worker worker) response))
    (running : desk.run? (.worker worker) = some run)
    (passage : desk.Passage (.worker worker) run response (.goOn next notes) between)
    (wrote : Wrote run.phase next.phase ledger written) :
    Development desk occurrence questionId ⟨visit, .handled job run, ledger⟩
      ⟨visit, .handled (job.noteAll notes) next, written⟩
  /-- The run of the job ends. -/
  | ended {visit : Option (Nat × Visit)} {job : Job} {ledger left : Ledger} {worker : Nat}
    {run : Run} {response : Remote.Response} {outcome : Except Failure Value} {notes : Fields}
    {between : Desk} (acts : occurrence = .act (.work (.worker worker) response))
    (running : desk.run? (.worker worker) = some run)
    (passage : desk.Passage (.worker worker) run response (.ended outcome notes) between)
    (went : desk.occur occurrence = between.follow (.worker worker) run (.ended outcome notes))
    (quit : Quit run.phase ledger left) :
    Development desk occurrence questionId ⟨visit, .handled job run, ledger⟩
      ⟨visit, .ends (Board.ended (job.noteAll notes) desk.now outcome) (Board.eventOf outcome),
        left⟩
  /-- The run of the job is cut off. -/
  | cutOff {visit : Option (Nat × Visit)} {job : Job} {ledger : Ledger} {run : Run} {worker : Nat}
    (fails : desk.isSmooth occurrence = false) (acts : occurrence = .act (.cut (.worker worker)))
    (running : desk.run? (.worker worker) = some run) :
    Development desk occurrence questionId ⟨visit, .handled job run, ledger⟩
      ⟨visit, .closed (job.noteAll (run.cutOff desk.now)), ledger⟩
  /-- The listener of the job is told. -/
  | told {visit : Option (Nat × Visit)} {job : Job} {event : Event} {ledger after : Ledger}
    {worker : Nat} {outcome : Except Failure Unit} (acts : occurrence = .act (.tell worker))
    (telling : desk.board.telling? worker = some (listenerOf event, job))
    (went : (desk.hear (listenerOf event) job).1 = outcome)
    (stored : Stored job event outcome ledger after) :
    Development desk occurrence questionId ⟨visit, .ends job event, ledger⟩
      ⟨visit, .closed job, after⟩
  /-- The worker that is about to tell the listener of the job goes. -/
  | dismissed {visit : Option (Nat × Visit)} {job : Job} {event : Event} {ledger : Ledger}
    (fails : desk.isSmooth occurrence = false) :
    Development desk occurrence questionId ⟨visit, .ends job event, ledger⟩
      ⟨visit, .closed job, ledger⟩

/-! ## Proper matters -/

section Proper

variable {desk : Desk} {occurrence : Occurrence} {questionId : String} {matter after : Matter}
  {named : Nat}

/-- There is a key for a question about which there is anything. -/
theorem Matter.Proper.keyed (proper : matter.Proper named questionId) (some : matter ≠ {}) :
    ∃ number ≤ named, questionId = questionKey number :=
  proper.key.resolve_right some

/-- A job that has been changed without its keys has the same ticket. -/
theorem ticketOf_congr {job changed : Job} (number : changed.seq = job.seq)
    (id : changed.id = job.id) : ticketOf questionId changed = ticketOf questionId job := by
  rw [ticketOf, number, id, ticketOf]

/-- A visit is still busy with a question when its job has come further. -/
theorem Attends.follow {visit : Visit} {job changed : Job} {standing : Standing} {ledger : Ledger}
    (attends : Attends questionId matter visit) (stands : matter.standing.job? = some job)
    (here : standing.job? = some changed)
    (same : changed.seq = job.seq ∧ changed.jobType = job.jobType ∧ changed.id = job.id ∧
      changed.fingerprint = job.fingerprint ∧ changed.payload = job.payload)
    (records : matter.ledger.records = [] → ledger.records = []) :
    Attends questionId ⟨matter.visit, standing, ledger⟩ visit := by
  cases attends with
  | creating absent =>
    rw [absent] at stands
    cases stands
  | recording own payload unknown =>
    rw [stands] at own
    cases own
    rw [← ticketOf_congr same.1 same.2.2.1]
    exact .recording here (same.2.2.2.2.trans payload) (records unknown)
  | remembering own payload =>
    rw [stands] at own
    cases own
    rw [← ticketOf_congr same.1 same.2.2.1]
    exact .remembering here (same.2.2.2.2.trans payload)

/-- What is so while a visit is about to store what is known about the job of a question. -/
theorem Attends.of_recording {prompt : String} {source : Option String} {ticket : Ticket}
    (attends : Attends questionId matter ⟨prompt, source, .recording ticket⟩) :
    ∃ job, matter.standing.job? = some job ∧ ticket = ticketOf questionId job ∧
      job.payload = payload questionId prompt ∧ matter.ledger.records = [] := by
  cases attends with
  | recording stands payload unknown => exact ⟨_, stands, rfl, payload, unknown⟩

/-- What is so while a visit is about to remember what its prompt became. -/
theorem Attends.of_remembering {prompt : String} {source : Option String} {ticket : Ticket}
    (attends : Attends questionId matter ⟨prompt, source, .remembering ticket⟩) :
    ∃ job, matter.standing.job? = some job ∧ ticket = ticketOf questionId job ∧
      job.payload = payload questionId prompt := by
  cases attends with
  | remembering stands payload => exact ⟨_, stands, rfl, payload⟩

/-- A ledger without a question has no wording. -/
theorem not_empty {ledger : Ledger} {wording : Wording} (asked : ledger.wording = some wording) :
    ledger ≠ {} := by
  rintro rfl
  cases asked

/-- A question that its run has removed is gone. -/
theorem kept_removed {phase : Phase} {ledger : Ledger} (removed : phase.hasRemoved = true) :
    Kept phase ledger ↔ ledger = {} := by
  rw [Kept, if_pos removed]

/-- A question that its run has not removed is open. -/
theorem kept_there {phase : Phase} {ledger : Ledger} (there : phase.hasRemoved = false) :
    Kept phase ledger ↔ Open ledger phase.wording := by
  rw [Kept, there, if_neg nofun]

/-- A question that is there has not been removed by its run and is open. -/
theorem Kept.opened {phase : Phase} {ledger : Ledger} {wording : Wording}
    (kept : Kept phase ledger) (asked : ledger.wording = some wording) :
    phase.hasRemoved = false ∧ Open ledger phase.wording := by
  cases removed : phase.hasRemoved with
  | true => exact absurd ((kept_removed removed).mp kept) (not_empty asked)
  | false => exact ⟨rfl, (kept_there removed).mp kept⟩

/-- The ledger of a question that is there fits as before when the question stays as open as it
was. -/
theorem Fits.reopened {standing : Standing} {ledger later : Ledger} (fits : Fits standing ledger)
    {wording : Wording} (asked : ledger.wording = some wording)
    (opens : ∀ {text}, Open ledger text → Open later text)
    (absent : standing = .absent → later.records = [] ∧ later.answers = []) :
    Fits standing later := by
  cases fits with
  | absent => exact .absent (absent rfl).1 (absent rfl).2
  | waits pending bare blameless kept => exact .waits pending bare blameless (opens kept)
  | handled processing bare blameless carries kept =>
    obtain ⟨there, opened⟩ := kept.opened asked
    exact .handled processing bare blameless carries ((kept_there there).mpr (opens opened))
  | answered ending unmarked kept => exact .answered ending unmarked (opens kept)
  | duplicate ending marked gone => exact absurd gone (not_empty asked)
  | failed ending kept =>
    rcases kept with gone | ⟨text, kept⟩
    · exact absurd gone (not_empty asked)
    · exact .failed ending (Or.inr ⟨text, opens kept⟩)
  | closed ended gone => exact .closed ended fun marked => absurd (gone marked) (not_empty asked)

/-- The ledger of a question that is there fits as before when its requests change. -/
theorem Fits.requests {standing : Standing} {ledger : Ledger} (fits : Fits standing ledger)
    {wording : Wording} (asked : ledger.wording = some wording)
    (requests : List Database.Request) : Fits standing { ledger with requests } := by
  refine fits.reopened asked (fun kept => ⟨kept.asked, kept.unanswered, kept.pending⟩) ?_
  rintro rfl
  cases fits with
  | absent records answers => exact ⟨records, answers⟩

/-- The ledger of a question that is there fits as before when a job of which nothing was known
becomes known as pending. -/
theorem Fits.recorded {standing : Standing} {ledger : Ledger} {job : Job}
    (fits : Fits standing ledger) (stands : standing.job? = some job) {wording : Wording}
    (asked : ledger.wording = some wording) {record : JobRecord}
    (pending : record.status = Database.pendingStatus) :
    Fits standing { ledger with records := [record] } := by
  refine fits.reopened asked (fun kept => ⟨kept.asked, kept.unanswered, fun other member => ?_⟩) ?_
  · rw [List.mem_singleton.mp member]
    exact pending
  · rintro rfl
    cases stands

/-- The ledger of a question whose job has ended fits to a job that has ended for good, as long as
nothing is stored about a question that is gone. -/
theorem Fits.closes {job : Job} {event : Event} {ledger later : Ledger}
    (fits : Fits (.ends job event) ledger)
    (stays : isDuplicate job = true → ledger = {} → later = {}) : Fits (.closed job) later := by
  cases fits with
  | answered ending unmarked =>
    exact .closed (Or.inr ⟨_, ending⟩) fun marked => absurd marked (Bool.eq_false_iff.mp unmarked)
  | duplicate ending marked gone => exact .closed (Or.inr ⟨_, ending⟩) fun _ => stays marked gone
  | failed ending =>
    refine .closed (Or.inr ⟨_, ending⟩) fun marked => ?_
    cases ending with
    | failed status bare => exact absurd marked (Bool.eq_false_iff.mp bare.unmarked)

/-- A question is as a run has left it after the run has gone on. -/
theorem Kept.wrote {phase next : Phase} {ledger written : Ledger} (kept : Kept phase ledger)
    (wrote : Wrote phase next ledger written) : Kept next written := by
  unfold Kept at kept ⊢
  cases wrote with
  | nothing there wording =>
    rw [there, wording]
    exact kept
  | removed => rfl
  | saved =>
    obtain ⟨_, unanswered, pending⟩ := kept
    exact ⟨rfl, unanswered, pending⟩

/-- A question is removed or open after its run has failed. -/
theorem Kept.quit {phase : Phase} {ledger left : Ledger} (kept : Kept phase ledger)
    (quit : Quit phase ledger left) : left = {} ∨ ∃ wording, Open left wording := by
  unfold Kept at kept
  cases quit with
  | same =>
    split at kept
    · exact Or.inl kept
    · exact Or.inr ⟨_, kept⟩
  | saved saving =>
    rw [saving] at kept
    obtain ⟨_, unanswered, pending⟩ := kept
    exact Or.inr ⟨_, rfl, unanswered, pending⟩

/-- A run in a phase that has removed its question is about to point the prompt at another. -/
theorem repointing_of_removed {phase : Phase} (removed : phase.hasRemoved = true) :
    ∃ prepared entry, phase = .repointing prepared entry := by
  cases phase with
  | repointing prepared entry => exact ⟨prepared, entry, rfl⟩
  | _ => cases removed

/-- A run that has ended leaves a question that was there. -/
theorem Quit.asked {phase : Phase} {ledger left : Ledger} (quit : Quit phase ledger left)
    {text : Wording} (asked : ledger.wording = some text) :
    ∃ wording, left.wording = some wording := by
  cases quit with
  | same => exact ⟨_, asked⟩
  | saved => exact ⟨_, rfl⟩

/-- A run that ends has removed its question, or the question was there before and is there
afterwards. -/
theorem Kept.of_quit {phase : Phase} {ledger left : Ledger} (kept : Kept phase ledger)
    (quit : Quit phase ledger left) :
    (phase.hasRemoved = true ∧ ledger = {} ∧ left = {}) ∨
      (∃ wording, ledger.wording = some wording) ∧ ∃ wording, left.wording = some wording := by
  cases removed : phase.hasRemoved with
  | true =>
    obtain ⟨prepared, entry, rfl⟩ := repointing_of_removed removed
    have gone := (kept_removed removed).mp kept
    cases quit with
    | same => exact Or.inl ⟨rfl, gone, gone⟩
    | saved saving => cases saving
  | false =>
    have asked := ((kept_there removed).mp kept).asked
    exact Or.inr ⟨⟨_, asked⟩, quit.asked asked⟩

/-- What is written by a run adds no record. -/
theorem Wrote.records {phase next : Phase} {ledger written : Ledger}
    (wrote : Wrote phase next ledger written) :
    written.records = ledger.records ∨ written.records = [] := by
  cases wrote with
  | nothing => exact Or.inl rfl
  | removed => exact Or.inr rfl
  | saved => exact Or.inl rfl

/-- A run that ends leaves the records as they are. -/
theorem Quit.records {phase : Phase} {ledger left : Ledger} (quit : Quit phase ledger left) :
    left.records = ledger.records := by
  cases quit <;> rfl

/-- What a listener stores is about the same job, if anything is. -/
theorem Stored.records {job : Job} {event : Event} {outcome : Except Failure Unit}
    {ledger later : Ledger} (stored : Stored job event outcome ledger later) :
    later.records = ledger.records ∨ ∃ record changed, ledger.records = [record] ∧
      later.records = [changed] ∧ changed.questionId = record.questionId ∧
        changed.jobId = record.jobId := by
  cases stored with
  | refused | skipped | unknown => exact Or.inl rfl
  | completed unmarked only result => exact Or.inr ⟨_, _, only, rfl, rfl, rfl⟩
  | failed only => exact Or.inr ⟨_, _, only, rfl, rfl, rfl⟩

/-- What a listener stores leaves the question as it is. -/
theorem Stored.wording {job : Job} {event : Event} {outcome : Except Failure Unit}
    {ledger later : Ledger} (stored : Stored job event outcome ledger later) :
    later.wording = ledger.wording := by
  cases stored <;> rfl

/-- A job that ends with a reason has failed. -/
theorem ending_of_failure {job : Job} {notes : Fields} (bare : Bare job)
    (harmless : Harmless notes) {failure : Failure} (tells : failure.Tells) (now : Micros) :
    Ending (Board.ended (job.noteAll notes) now (.error failure)) .failed := by
  refine .failed ?_ ((bare.noteAll harmless).congr rfl rfl)
  simp only [Board.ended, Job.status, Jobs.statusOf, Option.getD_some, tells.said, if_false]

/-- A job without a reason that ends with a value has completed. -/
theorem completed_of_value {job : Job} (blameless : job.failedReason = none) (notes : Fields)
    (now : Micros) (value : Value) :
    (Board.ended (job.noteAll notes) now (.ok value)).status = .completed := by
  rw [Job.noteAll_eq]
  simp only [Board.ended, Job.status, Jobs.statusOf, blameless, Option.getD_none, if_true]

/-- The question of a job whose run has ended fits to how it has ended. -/
theorem fits_of_ended {desk between : Desk} {runner : Runner} {run : Run}
    {response : Remote.Response} {outcome : Except Failure Value} {notes : Fields} {job : Job}
    {ledger left : Ledger}
    (passage : desk.Passage runner run response (.ended outcome notes) between)
    (carries : Carries run job) (bare : Bare job) (blameless : job.failedReason = none)
    (kept : Kept run.phase ledger) (quit : Quit run.phase ledger left) :
    Fits (.ends (Board.ended (job.noteAll notes) desk.now outcome) (Board.eventOf outcome))
      left := by
  cases outcome with
  | error failure =>
    obtain ⟨tells, last⟩ := passage.failed
    exact .failed (ending_of_failure bare (last.harmless carries.text) tells desk.now)
      (kept.quit quit)
  | ok value =>
    have status := completed_of_value blameless notes desk.now value
    cases passage with
    | @repointed query entry key store phase keyed done =>
      have marked : isDuplicate (Board.ended (job.noteAll
          ([(Run.duplicateNote, .bool true)] ++ [(Run.summaryNote, run.log.summary desk.now)]))
            desk.now (.ok (Run.answerValue entry.result entry.chart))) = true := by
        have last := notedDuplicate_of_last job.notes (run.log.summary desk.now)
        rw [Job.noteAll_eq]
        exact congrArg Value.isTruthy last
      rw [phase] at kept quit
      cases quit with
      | same => exact .duplicate (.duplicate status marked) marked kept
      | saved saving => cases saving
    | @stored query execution chart store phase named done =>
      have noted := bare.noteAll (harmless_summary
        ((run.logged desk.now .cache
          ("Cached result for SQL " ++ Run.shortHash query.hash)).log.summary desk.now))
      rw [phase] at kept quit
      cases quit with
      | same =>
        exact .answered (.answered status noted.unmarked noted.titled rfl) noted.unmarked kept
      | saved saving => cases saving

/-- The keys and the payload of a job are the same after it has noted something. -/
theorem same_noteAll (job : Job) (notes : Fields) :
    (job.noteAll notes).seq = job.seq ∧ (job.noteAll notes).jobType = job.jobType ∧
      (job.noteAll notes).id = job.id ∧ (job.noteAll notes).fingerprint = job.fingerprint ∧
        (job.noteAll notes).payload = job.payload := by
  rw [Job.noteAll_eq]
  exact ⟨rfl, rfl, rfl, rfl, rfl⟩

/-- The keys and the payload of a job are the same after it has ended. -/
theorem same_ended (job : Job) (notes : Fields) (now : Micros) (outcome : Except Failure Value) :
    (Board.ended (job.noteAll notes) now outcome).seq = job.seq ∧
      (Board.ended (job.noteAll notes) now outcome).jobType = job.jobType ∧
        (Board.ended (job.noteAll notes) now outcome).id = job.id ∧
          (Board.ended (job.noteAll notes) now outcome).fingerprint = job.fingerprint ∧
            (Board.ended (job.noteAll notes) now outcome).payload = job.payload := by
  rw [Job.noteAll_eq]
  cases outcome <;> exact ⟨rfl, rfl, rfl, rfl, rfl⟩

/-- A matter whose job has come further is proper when its ledger is and fits. -/
theorem Matter.Proper.follow (proper : matter.Proper named questionId) {later : Nat}
    (grows : named ≤ later) {job changed : Job} {standing : Standing} {ledger : Ledger}
    (stands : matter.standing.job? = some job) (here : standing.job? = some changed)
    (same : changed.seq = job.seq ∧ changed.jobType = job.jobType ∧ changed.id = job.id ∧
      changed.fingerprint = job.fingerprint ∧ changed.payload = job.payload)
    (records : ledger.records = matter.ledger.records ∨ ledger.records = [] ∨
      ∃ record changed, matter.ledger.records = [record] ∧ ledger.records = [changed] ∧
        changed.questionId = record.questionId ∧ changed.jobId = record.jobId)
    (fits : Fits standing ledger) :
    (⟨matter.visit, standing, ledger⟩ : Matter).Proper later questionId := by
  refine ⟨Or.inl ?_, ?_, ?_, ?_, ?_, fits⟩
  · obtain ⟨number, below, key⟩ := proper.keyed (by rintro rfl; cases stands)
    exact ⟨number, Nat.le_trans below grows, key⟩
  · intro found own
    rw [here] at own
    cases own
    exact (proper.known job stands).congr same
  · intro number visit attends
    refine (proper.attended number visit attends).follow stands here same fun unknown => ?_
    rcases records with records | records | ⟨record, _, only, _⟩
    · exact records.trans unknown
    · exact records
    · rw [only] at unknown
      cases unknown
  · rcases records with records | records | ⟨_, _, _, records, _⟩
    · exact records ▸ proper.single
    · simp [records]
    · simp [records]
  · intro record member
    rcases records with records | records | ⟨earlier, _, only, records, question, job⟩
    · exact proper.about record (records ▸ member)
    · rw [records] at member
      cases member
    · rw [records, List.mem_singleton] at member
      rw [member, question, job]
      exact proper.about earlier (by rw [only]; exact List.mem_cons_self)

/-- Whatever occurs, the matter of a question stays proper. -/
theorem Development.proper (development : Development desk occurrence questionId matter after)
    (proper : matter.Proper desk.named questionId)
    (grows : desk.named ≤ (desk.occur occurrence).named) :
    after.Proper (desk.occur occurrence).named questionId := by
  have keyed : matter ≠ {} → ∃ number ≤ (desk.occur occurrence).named,
      questionId = questionKey number := by
    intro some
    obtain ⟨number, below, key⟩ := proper.keyed some
    exact ⟨number, Nat.le_trans below grows, key⟩
  have fits := proper.fits
  cases development with
  | rests =>
    refine ⟨?_, proper.known, proper.attended, proper.single, proper.about, fits⟩
    rcases proper.key with ⟨number, below, key⟩ | empty
    · exact Or.inl ⟨number, Nat.le_trans below grows, key⟩
    · exact Or.inr empty
  | counted asked =>
    refine ⟨Or.inl (keyed ?_), proper.known, ?_, proper.single, proper.about,
      fits.requests asked _⟩
    · rintro same
      cases same
      cases asked
    · intro number visit attends
      cases proper.attended number visit attends with
      | creating absent empty => exact absurd empty (not_empty asked)
      | recording stands payload unknown => exact .recording stands payload unknown
      | remembering stands payload => exact .remembering stands payload
  | begun key named =>
    refine ⟨Or.inl ⟨desk.named + 1, Nat.le_of_eq named.symm, key⟩, nofun, ?_, Nat.zero_le _, nofun,
      .absent rfl rfl⟩
    rintro number visit ⟨⟩
    exact .creating rfl rfl
  | posed known payload pending bare blameless =>
    refine ⟨Or.inl (keyed nofun), ?_, ?_, Nat.zero_le _, nofun,
      .waits pending bare blameless ⟨rfl, rfl, nofun⟩⟩
    · rintro job ⟨⟩
      exact known
    · rintro number visit ⟨⟩
      exact .recording rfl payload rfl
  | unposed => exact ⟨Or.inl (keyed nofun), nofun, nofun, Nat.zero_le _, nofun, .absent rfl rfl⟩
  | recorded stands asked unknown =>
    refine ⟨Or.inl (keyed nofun), proper.known, ?_, Nat.le_refl _, ?_,
      fits.recorded stands asked rfl⟩
    · rintro number visit ⟨⟩
      obtain ⟨_, own, _, payload, _⟩ := (proper.attended _ _ rfl).of_recording
      cases stands.symm.trans own
      exact .remembering stands payload
    · intro record member
      rw [List.mem_singleton.mp member]
      exact ⟨rfl, (proper.known _ stands).id⟩
  | @unrecorded visit standing ledger records fails unread =>
    by_cases same : records = ledger.records
    · subst same
      exact ⟨Or.inl (keyed nofun), proper.known, nofun, proper.single, proper.about, fits⟩
    · obtain ⟨_, ⟨wording, asked⟩, job, stands, rfl⟩ := unread same
      refine ⟨Or.inl (keyed nofun), proper.known, nofun, Nat.le_refl _, ?_,
        fits.recorded stands asked rfl⟩
      intro record member
      rw [List.mem_singleton.mp member]
      exact ⟨rfl, (proper.known _ stands).id⟩
  | remembered =>
    exact ⟨Or.inl (keyed nofun), proper.known, nofun, proper.single, proper.about, fits⟩
  | taken =>
    cases fits with
    | waits pending bare blameless kept =>
      refine proper.follow grows rfl rfl ⟨rfl, rfl, rfl, rfl, rfl⟩ (Or.inl rfl)
        (.handled ?_ (bare.congr rfl rfl) blameless ⟨rfl, rfl, nofun, nofun,
          .of_opening rfl, .of_phase nofun nofun⟩ kept)
      rw [Job.status_eq_pending] at pending
      simp [Job.status, Jobs.statusOf, pending]
  | @wentOn visit job _ written _ run next _ notes _ _ _ passage wrote =>
    cases fits with
    | handled processing bare blameless carries kept =>
      obtain ⟨prompt, asked⟩ := (proper.known job rfl).payload
      have own := (proper.known job rfl).question
      refine proper.follow grows rfl rfl (same_noteAll job notes) ?_
        (.handled ?_ (bare.noteAll (passage.harmless carries.text)) ?_
          (carries.next passage (by rw [own]; exact asked)) (kept.wrote wrote))
      · exact wrote.records.imp_right Or.inl
      · rw [Job.noteAll_eq]
        exact processing
      · rw [Job.noteAll_eq]
        exact blameless
  | @ended visit job _ left _ run _ outcome notes _ _ _ passage _ quit =>
    cases fits with
    | handled processing bare blameless carries kept =>
      exact proper.follow grows rfl rfl (same_ended job notes desk.now outcome)
        (Or.inl quit.records) (fits_of_ended passage carries bare blameless kept quit)
  | @cutOff visit job ledger run =>
    cases fits with
    | handled processing bare blameless carries kept =>
      have noted := bare.noteAll (harmless_summary (run.log.summary desk.now))
      refine proper.follow grows rfl rfl (same_noteAll job _) (Or.inl rfl)
        (.closed (Or.inl ⟨?_, noted⟩) fun marked => ?_)
      · rw [Job.noteAll_eq]
        exact processing
      · rw [Run.cutOff, noted.unmarked] at marked
        cases marked
  | @told visit job event ledger later _ _ _ _ _ stored =>
    refine proper.follow grows rfl rfl ⟨rfl, rfl, rfl, rfl, rfl⟩
      (stored.records.imp_right Or.inr) (fits.closes fun marked gone => ?_)
    cases stored with
    | refused | skipped | unknown => exact gone
    | completed unmarked => exact absurd marked (Bool.eq_false_iff.mp unmarked)
    | failed only =>
      obtain rfl : ledger = {} := gone
      cases only
  | dismissed =>
    exact proper.follow grows rfl rfl ⟨rfl, rfl, rfl, rfl, rfl⟩ (Or.inl rfl)
      (fits.closes fun _ gone => gone)

end Proper

/-! ## Turns -/

/-- The matter of a question develops while something occurs, and is kept by the desk afterwards. -/
abbrev Develops (desk : Desk) (occurrence : Occurrence) (questionId : String) (matter : Matter)
    (after : Desk) : Prop :=
  ∃ later, Development desk occurrence questionId matter later ∧ after.Keeps questionId later

/-- After something has occurred at a desk everything is staffed as before, and the matter of every
question has developed. -/
structure Turned (desk : Desk) (occurrence : Occurrence) (after : Desk) : Prop where
  /-- Everything is staffed as before. -/
  staffed : after.Staffed
  /-- The matter of every question has developed. -/
  develops : ∀ questionId matter, desk.Keeps questionId matter →
    matter.Proper desk.named questionId → ∃ later,
      Development desk occurrence questionId matter later ∧ after.Keeps questionId later

section Turns

variable {desk after : Desk} {occurrence : Occurrence}

/-- A desk whose workers and listeners stay is staffed as before. -/
theorem Staffed.congr (staffed : desk.Staffed) (sound : after.board.Sound)
    (listeners : after.board.listeners = desk.board.listeners)
    (workers : after.board.workers = desk.board.workers) (hands : after.hands = desk.hands) :
    after.Staffed := by
  refine ⟨sound, fun event => ?_, fun worker jobType activity does => ?_,
    hands.trans staffed.handless⟩
  · rw [Board.audience, listeners]
    exact staffed.heard event
  · rw [Board.Does, workers] at does
    exact staffed.staffed worker jobType activity does

/-- Where neither the board nor what is stored changes, all questions rest. -/
theorem Turned.of_same (staffed : desk.Staffed) (board : after.board = desk.board)
    (visits : ∀ (number : Nat) (visit : Visit) questionId,
      after.visits[number]? = some visit ∧ visit.phase.own? = some questionId ↔
        desk.visits[number]? = some visit ∧ visit.phase.own? = some questionId)
    (hands : after.hands = desk.hands) (ledger : ∀ id, after.ledger id = desk.ledger id)
    (answers : ∀ hash, after.store.answer? hash = desk.store.answer? hash) :
    desk.Turned occurrence after := by
  have runs : ∀ runner, after.run? runner = desk.run? runner := fun runner =>
    run?_congr runner (fun index => by rw [board]) hands
  refine ⟨staffed.congr (by rw [board]; exact staffed.sound) (by rw [board]) (by rw [board]) hands,
    fun questionId matter keeps proper => ⟨matter, .rests, keeps.calm proper
      (fun number visit => visits number visit questionId) (by rw [board]; exact .refl _)
      (ledger questionId) fun cites => cites.congr answers fun runner run running => Or.inl ?_⟩⟩
  rw [← runs]
  exact running

/-- Where nothing but what nobody stores or stands on the board changes, all questions rest. -/
theorem Turned.of_eq (staffed : desk.Staffed) (board : after.board = desk.board)
    (visits : after.visits = desk.visits) (hands : after.hands = desk.hands)
    (tables : after.database.tables = desk.database.tables)
    (items : after.store.items = desk.store.items) : desk.Turned occurrence after :=
  .of_same staffed board (fun _ _ _ => by rw [visits]) hands
    (fun _ => by rw [Desk.ledger, tables, Desk.ledger])
    (fun _ => by rw [Cache.Store.answer?, items, Cache.Store.answer?])

end Turns

end Desk

end QuestionDesk
