import QuestionDesk.Proofs.Desk.Attempts
import QuestionDesk.Proofs.Desk.Endings
import QuestionDesk.Proofs.Desk.Knowledge

/-!
# Every query is run once

As long as no call fails, nobody is cut off and no answer is lost, the answer to a query is
remembered by the one run that had it executed, and every other run with the query is given that
answer.
-/
namespace QuestionDesk.Desk

open Cache (Item QueryEntry)
open Jobs (Board Job)
open Pipeline (Next Phase Prepared Run Runner)

/-! ## What the store holds -/

/-- A happening other than that somebody else rewrites the store leaves the answers in it as they
are, unless it is a run that remembers its answer and ends. -/
theorem answers_meet {desk : Desk} (sound : desk.board.Sound) {happening : Happening}
    (untouched : ∀ store, happening ≠ .rewriteStore store) :
    (∀ hash, (desk.meet happening).store.answer? hash = desk.store.answer? hash) ∨
      ∃ (runner : Runner) (run : Run) (prepared : Prepared) (execution : Remote.Execution)
        (chart : Fields), desk.run? runner = some run ∧
          run.phase = .storing prepared execution chart ∧
          (∀ other, (desk.meet happening).run? other =
            if other = runner then none else desk.run? other) ∧
          desk.store.putQuery desk.now desk.keepSeconds prepared.hash (run.entry execution chart) =
            .ok (desk.meet happening).store := by
  cases happening with
  | rewriteStore store => exact absurd rfl (untouched store)
  | rewriteDatabase database => exact Or.inl fun _ => rfl
  | act action =>
    cases action with
    | work runner response =>
      rcases desk.work_cases runner response with same | ⟨run, next, between, running, passage, went⟩
      · left
        simp only [meet, act, same, implies_true]
      · have stored : (desk.meet (.act (.work runner response))).store = between.store := by
          simp only [meet, act, went]
          cases next with
          | goOn next notes => rw [follow_goOn, ← store_goOn between runner next notes]
          | ended outcome notes => rw [follow, store_conclude]
        rw [stored]
        cases passage with
        | repointed _ _ done => exact Or.inl fun hash => Cache.Store.answer?_putPrompt done hash
        | @stored prepared execution chart store phase _ done =>
          refine Or.inr ⟨runner, run, _, _, _, running, phase, fun other => ?_, done⟩
          simp only [meet, act, went]
          exact @run?_conclude { desk with store } sound runner run running _ _ other
        | _ => exact Or.inl fun _ => rfl
    | visit number =>
      left
      intro hash
      obtain ⟨visits, named, database, board, store, went, _, stores⟩ := desk.visit_cases number
      simp only [meet, act, went]
      rcases stores with same | ⟨fingerprint, entry, put⟩
      · rw [same]
      · exact Cache.Store.answer?_putPrompt put hash
    | tell worker =>
      obtain ⟨board, database, relay, told, _⟩ := desk.tell_cases worker
      left
      simp only [meet, act, told, implies_true]
    | cut runner =>
      obtain ⟨turns, relay, board, hands, gone, _⟩ := desk.cut_cases runner
      left
      simp only [meet, act, gone, implies_true]
    | subscribe questionId sink =>
      obtain ⟨relay, went⟩ := desk.subscribe_eq questionId sink
      left
      simp only [meet, act, went, implies_true]
    | promote =>
      obtain ⟨database, promoter, went⟩ := desk.promote_eq
      left
      simp only [meet, act, went, implies_true]
    | _ => exact Or.inl fun _ => rfl

/-- What is known about the answers in the store while all goes well. -/
structure Answered (desk : Desk) : Prop where
  /-- Every answer can be read. -/
  read : ∀ hash item, desk.store.answer? hash = some item → ∃ entry, item.entry? = some entry
  /-- No run has a query run, or is about to, that has been answered. -/
  quiet : ∀ hash item, desk.store.answer? hash = some item → ∀ runner run prepared,
    desk.run? runner = some run → prepared.hash = hash →
      run.phase ≠ .saving prepared ∧ run.phase.underway? ≠ some prepared
  /-- What a run knows as the answer to its query is the answer in the store. -/
  known : ∀ runner run prepared entry, desk.run? runner = some run →
    run.phase = .removing prepared entry ∨ run.phase = .repointing prepared entry →
      ∃ item, desk.store.answer? prepared.hash = some item ∧ item.entry? = some entry

/-- A desk without answers and runs. -/
theorem Answered.of_empty {desk : Desk} (items : desk.store.items = [])
    (idle : ∀ runner, desk.run? runner = none) : desk.Answered := by
  have none : ∀ hash, desk.store.answer? hash = none := by
    intro hash
    rw [Cache.Store.answer?, items]
    rfl
  refine ⟨?_, ?_, ?_⟩
  · intro hash item found
    rw [none] at found
    cases found
  · intro hash item found
    rw [none] at found
    cases found
  · intro runner run prepared entry running
    rw [idle] at running
    cases running

/-- What a lookup finds is the answer in the store, which lasts. -/
theorem answer_of_found {desk : Desk} {hash : String} {found : Option QueryEntry}
    (lasting : ∀ item, desk.store.answer? hash = some item → item.isLive desk.now = true)
    (looked : desk.store.findQuery desk.now hash = .ok found) :
    found = (desk.store.answer? hash).bind Item.entry? := by
  have reads := Cache.Store.findQuery_eq looked
  cases answer : desk.store.answer? hash with
  | none =>
    rw [answer] at reads
    exact reads
  | some item =>
    rw [answer, Option.filter_some, lasting item answer] at reads
    exact reads

section Step

variable {desk : Desk} {happening : Happening}

/-- Where the answers stay as they are, the runs go on as they should. -/
theorem Answered.unchanged (answered : desk.Answered) (sound : desk.board.Sound)
    (lasting : ∀ hash item, desk.store.answer? hash = some item → item.isLive desk.now = true)
    (same : ∀ hash, (desk.meet happening).store.answer? hash = desk.store.answer? hash) :
    (desk.meet happening).Answered := by
  refine ⟨fun hash item found => ?_, fun hash item found runner run prepared running here => ?_,
    fun runner run prepared entry running phase => ?_⟩
  · rw [same] at found
    exact answered.read hash item found
  · rw [same] at found
    cases move sound happening runner with
    | stays kept =>
      rw [kept] at running
      exact answered.quiet hash item found runner run prepared running here
    | starts _ after phase =>
      rw [after] at running
      cases running
      simp [phase, Phase.underway?]
    | goesOn _ ran passage after =>
      rw [after] at running
      cases running
      have quiet := answered.quiet hash item found runner _ prepared ran here
      cases passage with
      | unknown phase looked =>
        refine ⟨fun saving => ?_, by simp [Phase.underway?]⟩
        cases saving
        rw [here] at looked
        have reads := answer_of_found (lasting hash) looked
        obtain ⟨entry, readable⟩ := answered.read hash item found
        rw [found, Option.bind_some, readable] at reads
        cases reads
      | saved phase =>
        refine ⟨by simp, fun underway => ?_⟩
        cases underway
        exact quiet.1 phase
      | executed phase | charted phase =>
        refine ⟨by simp, fun underway => ?_⟩
        cases underway
        exact quiet.2 (by rw [phase]; rfl)
      | _ => simp [Phase.underway?]
    | ends _ _ _ after _ | cut _ _ after =>
      rw [after] at running
      cases running
  · rw [same]
    cases move sound happening runner with
    | stays kept =>
      rw [kept] at running
      exact answered.known runner run prepared entry running phase
    | starts _ after opening =>
      rw [after] at running
      cases running
      simp [opening] at phase
    | goesOn _ ran passage after =>
      rw [after] at running
      cases running
      cases passage with
      | recognised looking looked | duplicated looking looked =>
        have reads := answer_of_found (lasting _) looked
        rcases phase with phase | phase <;> cases phase
        exact Option.bind_eq_some_iff.mp reads.symm
      | removed removing =>
        rcases phase with phase | phase <;> cases phase
        exact answered.known runner _ prepared entry ran (Or.inl removing)
      | _ => simp at phase
    | ends _ _ _ after _ | cut _ _ after =>
      rw [after] at running
      cases running

/-- Once a run has remembered its answer, the answer can be read, and no other run is concerned. -/
theorem Answered.stored (answered : desk.Answered) (orderly : desk.Orderly) {writer : Runner}
    {last : Run} {own : Prepared} {execution : Remote.Execution} {chart : Fields}
    (writing : desk.run? writer = some last) (storing : last.phase = .storing own execution chart)
    (faithful : Faithful last)
    (runs : ∀ other, (desk.meet happening).run? other =
      if other = writer then none else desk.run? other)
    (put : desk.store.putQuery desk.now desk.keepSeconds own.hash (last.entry execution chart) =
      .ok (desk.meet happening).store) : (desk.meet happening).Answered := by
  obtain ⟨written, text, answers⟩ := Cache.Store.answer?_putQuery put
  -- Only the writer was past waiting for its query, and it is gone.
  have apart : ∀ runner run prepared, (desk.meet happening).run? runner = some run →
      run.phase.prepared? = some prepared → run.phase ≠ .queueing prepared →
        desk.run? runner = some run ∧ prepared.hash ≠ own.hash := by
    intro runner run prepared running has past
    rw [runs] at running
    split at running
    · cases running
    · next different =>
      refine ⟨running, fun same => different ?_⟩
      have turn := orderly.first runner run prepared running has past
      rw [same] at turn
      exact hasTurn_unique turn
        (orderly.first writer last own writing (by rw [storing]; rfl) (by rw [storing]; simp))
  refine ⟨fun hash item found => ?_, fun hash item found runner run prepared running here => ?_,
    fun runner run prepared entry running phase => ?_⟩
  · rw [answers] at found
    split at found
    · cases found
      have whole : (last.entry execution chart).Faithful := faithful.storing _ _ _ storing
      exact ⟨_, Cache.entry?_of_text whole text⟩
    · exact answered.read hash item found
  · have clear : ∀ phase : Phase, run.phase = phase → phase.prepared? = some prepared →
        phase ≠ .queueing prepared →
          run.phase ≠ .saving prepared ∧ run.phase.underway? ≠ some prepared := by
      intro phase same has past
      obtain ⟨before, different⟩ :=
        apart runner run prepared running (by rw [same]; exact has) (by rw [same]; exact past)
      rw [answers, ← here, if_neg different] at found
      exact answered.quiet prepared.hash item found runner run prepared before rfl
    constructor
    · intro saving
      exact (clear _ saving rfl (by simp)).1 saving
    · intro underway
      obtain ⟨has, past⟩ := prepared?_of_underway underway
      exact (clear _ rfl has past).2 underway
  · have has : run.phase.prepared? = some prepared ∧ run.phase ≠ .queueing prepared := by
      rcases phase with phase | phase <;> rw [phase] <;> exact ⟨rfl, by simp⟩
    obtain ⟨before, different⟩ := apart runner run prepared running has.1 has.2
    rw [answers, if_neg different]
    exact answered.known runner run prepared entry before phase

/-- An answer that is in the store stays there as it is. -/
theorem Answered.answer?_meet (answered : desk.Answered) (sound : desk.board.Sound)
    (untouched : ∀ store, happening ≠ .rewriteStore store) {hash : String} {item : Item}
    (found : desk.store.answer? hash = some item) :
    (desk.meet happening).store.answer? hash = some item := by
  rcases answers_meet sound untouched with same | ⟨runner, run, own, execution, chart, running,
    storing, _, put⟩
  · rw [same, found]
  · obtain ⟨written, _, answers⟩ := Cache.Store.answer?_putQuery put
    rw [answers, if_neg fun here => ?_, found]
    exact (answered.quiet hash item found runner run own running here.symm).2 (by rw [storing]; rfl)

end Step

/-! ## Histories in which all goes well -/

/-- A history in which, up to a moment, no call of a run fails, no run is cut off, nobody else
rewrites the store, no job without a text to ask is handed in, and no answer in the store expires.
-/
structure Smooth (desk : Desk) (happenings : Nat → Happening) (count : Nat) : Prop where
  /-- No call of a run fails. -/
  calls : ∀ moment < count, ∀ runner, ¬desk.CallFails happenings runner moment
  /-- No run is cut off. -/
  uncut : ∀ moment < count, ∀ runner, happenings moment ≠ .act (.cut runner)
  /-- Nobody else rewrites the store. -/
  untouched : ∀ moment < count, ∀ store, happenings moment ≠ .rewriteStore store
  /-- Every job that is handed in asks a text. -/
  asking : ∀ moment < count, ∀ jobId payload,
    happenings moment = .act (.handle jobId payload) → Pipeline.Asks payload
  /-- No answer expires. -/
  lasting : ∀ moment ≤ count, ∀ hash item,
    (desk.history happenings moment).store.answer? hash = some item →
      item.isLive (desk.history happenings moment).now = true

section History

variable {desk : Desk} {happenings : Nat → Happening} {count : Nat}

/-- While all goes well, what is known about the answers stays true. -/
theorem Smooth.answered (smooth : desk.Smooth happenings count) (orderly : desk.Orderly)
    (idle : ∀ runner, desk.run? runner = none) (empty : desk.store.items = []) {moment : Nat}
    (within : moment ≤ count) : (desk.history happenings moment).Answered := by
  induction moment with
  | zero => exact .of_empty empty idle
  | succ moment before =>
    have answered := before (by omega)
    have lines := orderly_history orderly happenings moment
    rcases answers_meet lines.sound (smooth.untouched moment (by omega)) with same | stored
    · exact answered.unchanged lines.sound (smooth.lasting moment (by omega)) same
    · obtain ⟨runner, run, own, execution, chart, running, storing, runs, put⟩ := stored
      exact answered.stored lines running storing
        (faithful_history orderly idle happenings moment running) runs put

/-- While all goes well, an answer that is in the store stays there. -/
theorem Smooth.answer?_later (smooth : desk.Smooth happenings count) (orderly : desk.Orderly)
    (idle : ∀ runner, desk.run? runner = none) (empty : desk.store.items = []) {moment later : Nat}
    (after : moment ≤ later) (within : later ≤ count) {hash : String} {item : Item}
    (found : (desk.history happenings moment).store.answer? hash = some item) :
    (desk.history happenings later).store.answer? hash = some item := by
  obtain ⟨gap, rfl⟩ := Nat.exists_eq_add_of_le after
  induction gap with
  | zero => exact found
  | succ gap before =>
    have below : moment + gap < count := by omega
    exact (smooth.answered orderly idle empty (Nat.le_of_lt below)).answer?_meet
      (sound_history orderly.sound happenings _) (smooth.untouched _ below)
      (before (Nat.le_add_right _ _) (Nat.le_of_lt below))

/-! ## Calls of the executor -/

/-- While all goes well, no query is run a second time. -/
theorem Smooth.not_again (smooth : desk.Smooth happenings count) (orderly : desk.Orderly)
    (idle : ∀ runner, desk.run? runner = none) (empty : desk.store.items = [])
    {earlier later : Runner} {one other : Prepared} {first second : Nat} (before : first < second)
    (within : second < count) (begins : desk.Begins happenings earlier one first)
    (again : desk.Begins happenings later other second) : one.sql ≠ other.sql := by
  intro same
  obtain ⟨final, missed, _, sooner, below, _, _, cut | fails | ⟨entry, stores, lost⟩⟩ :=
    called_again orderly idle happenings before begins again same
  · exact smooth.uncut final (by omega) earlier cut
  · exact smooth.calls final (by omega) earlier fails
  · obtain ⟨run, execution, chart, running, storing, rfl, put⟩ := stores
    obtain ⟨item, text, answers⟩ := Cache.Store.answer?_putQuery put
    have written := answers one.hash
    rw [if_pos rfl] at written
    have still := smooth.answer?_later orderly idle empty
      (show final + 1 ≤ missed by omega) (by omega) written
    have live := smooth.lasting missed (by omega) _ _ still
    have found : (desk.history happenings missed).store.find? (desk.history happenings missed).now
        (Cache.queryKey one.hash) = some item := by
      rw [Cache.Store.answer?] at still
      rw [Cache.Store.find?, still, Option.filter_some, live]
      rfl
    exact (lost item found).1 text

/-- A run that has its query and goes on keeps it. -/
theorem Passage.prepared {desk between : Desk} {runner : Runner} {run next : Run}
    {response : Remote.Response} {notes : Fields} {prepared : Prepared}
    (passage : desk.Passage runner run response (.goOn next notes) between)
    (has : run.phase.prepared? = some prepared) : next.phase.prepared? = some prepared := by
  rcases passage.goOn_cases with ⟨opening, _⟩ | ⟨_, planning, _⟩ | ⟨same, had, still, _⟩
  · rw [opening] at has
    cases has
  · rw [planning] at has
    cases has
  · rw [had] at has
    cases has
    exact still

/-- A run that has its query and ends well has been given a known answer, or has remembered one. -/
theorem Passage.answer {desk between : Desk} {runner : Runner} {run : Run}
    {response : Remote.Response} {value : Value} {notes : Fields} {prepared : Prepared}
    (passage : desk.Passage runner run response (.ended (.ok value) notes) between)
    (has : run.phase.prepared? = some prepared) :
    (∃ entry summary, run.phase = .repointing prepared entry ∧
      value = Run.answerValue entry.result entry.chart ∧
        notes = [(Run.duplicateNote, .bool true), (Run.summaryNote, summary)]) ∨
    ∃ execution chart, run.phase = .storing prepared execution chart ∧
      value = Run.answerValue execution.fields chart ∧
        desk.store.putQuery desk.now desk.keepSeconds prepared.hash (run.entry execution chart) =
          .ok between.store := by
  cases passage with
  | repointed phase =>
    rw [phase] at has
    cases has
    exact Or.inl ⟨_, _, phase, rfl, rfl⟩
  | stored phase _ done =>
    rw [phase] at has
    cases has
    exact Or.inr ⟨_, _, phase, rfl, done⟩

end History

/-! ## Jobs -/

/-- A runner turns a plan into a query at a moment: at the next one it waits for its turn with it.
-/
def Compiles (desk : Desk) (happenings : Nat → Happening) (runner : Runner) (prepared : Prepared)
    (moment : Nat) : Prop :=
  ¬desk.InPhase happenings runner (· = .queueing prepared) moment ∧
    desk.InPhase happenings runner (· = .queueing prepared) (moment + 1)

/-- A run holds a query at a moment. -/
def Holds (desk : Desk) (happenings : Nat → Happening) (sql : String) (moment : Nat) : Prop :=
  ∃ runner prepared, desk.InPhase happenings runner (·.prepared? = some prepared) moment ∧
    prepared.sql = sql

/-- Every job on the board has ended, and every one that was run by hand. -/
def AllEnded (desk : Desk) : Prop :=
  (∀ jobType, ∀ job ∈ (desk.board.lane jobType).jobs, job.isTerminal = true) ∧
    ∀ hand ∈ desk.hands, ∃ outcome, hand.phase = .ended outcome

/-- Where every job has ended, no run goes on. -/
theorem AllEnded.idle {desk : Desk} (ended : desk.AllEnded) (sound : desk.board.Sound)
    (runner : Runner) : desk.run? runner = none := by
  cases running : desk.run? runner with
  | none => rfl
  | some run =>
    cases runner with
    | worker index =>
      obtain ⟨jobType, seq, does⟩ := run?_worker.mp running
      obtain ⟨job, found, processing⟩ := sound.handled _ _ _ _ does
      have terminal := ended.1 jobType job (Jobs.Lane.mem_of_job? found).1
      rw [Job.isTerminal_of_processing processing] at terminal
      cases terminal
    | hand number =>
      obtain ⟨notes, found⟩ := run?_hand.mp running
      obtain ⟨outcome, closed⟩ := ended.2 _ (List.mem_of_getElem? found)
      cases closed

end QuestionDesk.Desk
