import QuestionDesk.Proofs.Cache.Answers
import QuestionDesk.Proofs.Desk.Moves
import QuestionDesk.Proofs.Remote.Answers

/-!
# Attempts to run a query

An attempt begins when a run calls the executor and is over when the run has remembered the answer,
has failed or was cut off. A later attempt with the same query begins only after its run has looked
for the answer of the earlier one in vain.
-/
namespace QuestionDesk.Desk

open Cache (Item QueryEntry)
open Json (Readable)
open Pipeline (Next Phase Prepared Run Runner)

/-! ## Faithful answers -/

/-- What the executor and the planner answered to a run can be written and read. -/
structure Faithful (run : Run) : Prop where
  /-- The rows of a run that is about to have a chart chosen. -/
  charting : ∀ prepared execution, run.phase = .charting prepared execution →
    Readable (.object execution.fields)
  /-- The rows and the chart of a run that is about to remember the answer. -/
  storing : ∀ prepared execution chart, run.phase = .storing prepared execution chart →
    Readable (.object execution.fields) ∧ Readable (.object chart)

/-- A run in a phase without answers holds nothing that could not be read. -/
theorem Faithful.of_phase {run : Run}
    (charting : ∀ prepared execution, run.phase ≠ .charting prepared execution)
    (storing : ∀ prepared execution chart, run.phase ≠ .storing prepared execution chart) :
    Faithful run :=
  ⟨fun _ _ phase => absurd phase (charting _ _), fun _ _ _ phase => absurd phase (storing _ _ _)⟩

/-- A run that goes on holds what a text can hold. -/
theorem Passage.faithful {desk between : Desk} {runner : Runner} {run next : Run}
    {response : Remote.Response} {notes : Fields}
    (passage : desk.Passage runner run response (.goOn next notes) between)
    (before : Faithful run) : Faithful next := by
  cases passage with
  | executed phase read =>
    refine ⟨fun prepared execution same => ?_, fun _ _ _ same => (by cases same)⟩
    cases same
    exact Remote.Executor.readable_of_read read
  | charted phase chosen =>
    refine ⟨fun _ _ same => (by cases same), fun prepared execution chart same => ?_⟩
    cases same
    exact ⟨before.charting _ _ phase, Remote.Planner.readable_chart chosen⟩
  | _ => exact .of_phase (fun _ _ same => by cases same) (fun _ _ _ same => by cases same)

/-- All runs of a history hold what a text can hold. -/
theorem faithful_history {desk : Desk} (orderly : desk.Orderly)
    (idle : ∀ runner, desk.run? runner = none) (happenings : Nat → Happening) (count : Nat)
    {runner : Runner} {run : Run}
    (running : (desk.history happenings count).run? runner = some run) : Faithful run := by
  induction count generalizing run with
  | zero =>
    rw [history, idle] at running
    cases running
  | succ count before =>
    have sound := sound_history orderly.sound happenings count
    rw [history_succ] at running
    cases move sound (happenings count) runner with
    | stays same =>
      rw [same] at running
      exact before running
    | starts _ after phase =>
      rw [after] at running
      cases running
      exact .of_phase (by simp [phase]) (by simp [phase])
    | goesOn _ ran passage after =>
      rw [after] at running
      cases running
      exact passage.faithful (before ran)
    | ends _ _ _ after _ | cut _ _ after =>
      rw [after] at running
      cases running

/-! ## From the lookup to the call -/

section

variable {desk : Desk} {happenings : Nat → Happening} {runner : Runner} {prepared : Prepared}

/-- A runner that begins to have the executor run a query was about to store the query. -/
theorem saving_of_begins (sound : desk.board.Sound) {moment : Nat}
    (begins : desk.Begins happenings runner prepared moment) :
    desk.InPhase happenings runner (· = .saving prepared) moment := by
  obtain ⟨before, after⟩ := begins
  obtain ⟨run, running, phase⟩ := executing?_eq_some.mp after
  rw [history_succ] at running
  cases move (sound_history sound happenings moment) (happenings moment) runner with
  | stays same =>
    rw [same] at running
    rw [executing?_eq_some.mpr ⟨run, running, phase⟩] at before
    cases before
  | starts _ started opening =>
    rw [started] at running
    cases running
    rw [opening] at phase
    cases phase
  | goesOn _ ran passage went =>
    rw [went] at running
    cases running
    cases passage with
    | saved saving =>
      cases phase
      exact ⟨_, ran, saving⟩
    | _ => cases phase
  | ends _ _ _ gone _ | cut _ _ gone =>
    rw [gone] at running
    cases running

/-- A runner that is about to store a query has looked it up in vain, and done nothing since. -/
theorem missed_of_saving (sound : desk.board.Sound) (idle : desk.run? runner = none) {count : Nat}
    (saving : desk.InPhase happenings runner (· = .saving prepared) count) :
    ∃ missed < count, desk.Misses happenings runner prepared missed ∧
      ∀ later, missed < later → later ≤ count →
        desk.InPhase happenings runner (· = .saving prepared) later := by
  have first : ¬desk.InPhase happenings runner (· = .saving prepared) 0 := by
    rintro ⟨run, running, _⟩
    rw [history, idle] at running
    cases running
  obtain ⟨missed, below, never, since⟩ := exists_began first saving
  refine ⟨missed, below, ?_, since⟩
  obtain ⟨run, running, phase⟩ := since (missed + 1) (by omega) (by omega)
  rw [history_succ] at running
  cases move (sound_history sound happenings missed) (happenings missed) runner with
  | stays same =>
    rw [same] at running
    exact absurd ⟨run, running, phase⟩ never
  | starts _ started opening =>
    rw [started] at running
    cases running
    rw [opening] at phase
    cases phase
  | goesOn acts ran passage went =>
    rw [went] at running
    cases running
    cases passage with
    | unknown looking found =>
      cases phase
      exact ⟨_, _, acts, ran, looking, found⟩
    | _ => cases phase
  | ends _ _ _ gone _ | cut _ _ gone =>
    rw [gone] at running
    cases running

/-! ## From the call to the end -/

/-- A run that is underway and goes on stays underway with its query. -/
theorem Passage.underway {between : Desk} {run next : Run} {response : Remote.Response}
    {notes : Fields} (passage : desk.Passage runner run response (.goOn next notes) between)
    (underway : run.phase.underway? = some prepared) : next.phase.underway? = some prepared := by
  cases passage with
  | executed phase | charted phase =>
    rw [phase] at underway
    exact underway
  | opened phase | planned phase | admitted phase | unknown phase | recognised phase
  | duplicated phase | removed phase | saved phase =>
    rw [phase] at underway
    cases underway

/-- A run that is underway and ends well has just remembered its answer. -/
theorem Passage.stores {between : Desk} {run : Run} {response : Remote.Response} {value : Value}
    {notes : Fields} (passage : desk.Passage runner run response (.ended (.ok value) notes) between)
    (underway : run.phase.underway? = some prepared) :
    ∃ execution chart, run.phase = .storing prepared execution chart ∧
      value = Run.answerValue execution.fields chart ∧
        desk.store.putQuery desk.now desk.keepSeconds prepared.hash (run.entry execution chart) =
          .ok between.store := by
  cases passage with
  | stored phase _ done =>
    rw [phase] at underway
    cases underway
    exact ⟨_, _, phase, rfl, done⟩
  | repointed phase =>
    rw [phase] at underway
    cases underway

/-- How an attempt is over: the runner is cut off, its call fails, or it remembers the answer. -/
def Over (desk : Desk) (happenings : Nat → Happening) (runner : Runner) (prepared : Prepared)
    (moment : Nat) : Prop :=
  happenings moment = .act (.cut runner) ∨ desk.CallFails happenings runner moment ∨
    ∃ entry, desk.Stores happenings runner prepared entry moment

/-- An attempt that is not underway any more was over at some moment. -/
theorem exists_final (sound : desk.board.Sound) {first count : Nat}
    (begun : desk.InPhase happenings runner (·.underway? = some prepared) first)
    (later : first ≤ count)
    (gone : ¬desk.InPhase happenings runner (·.underway? = some prepared) count) :
    ∃ final, first ≤ final ∧ final < count ∧ (∀ moment, first ≤ moment → moment ≤ final →
      desk.InPhase happenings runner (·.underway? = some prepared) moment) ∧
        desk.Over happenings runner prepared final := by
  obtain ⟨final, above, below, all, ends⟩ := exists_until begun later gone
  refine ⟨final, above, below, all, ?_⟩
  obtain ⟨run, running, underway⟩ := all final above (Nat.le_refl _)
  have settings := constant_history desk happenings final
  cases move (sound_history sound happenings final) (happenings final) runner with
  | stays same => exact absurd ⟨run, by rw [history_succ, same, running], underway⟩ ends
  | starts free =>
    rw [free] at running
    cases running
  | goesOn _ ran passage went =>
    rw [running] at ran
    cases ran
    exact absurd ⟨_, went, passage.underway underway⟩ ends
  | cut acts => exact Or.inl acts
  | @ends _ outcome _ _ _ acts ran passage _ store =>
    rw [running] at ran
    cases ran
    cases outcome with
    | error failure =>
      obtain ⟨call, failure, calls, fails⟩ :=
        passage.call_fails (prepared?_of_underway underway).1 fun none =>
          nomatch underway.symm.trans none
      exact Or.inr (Or.inl ⟨_, _, _, _, acts, running, calls, fails⟩)
    | ok value =>
      obtain ⟨execution, chart, phase, _, put⟩ := passage.stores underway
      refine Or.inr (Or.inr ⟨_, run, execution, chart, running, phase, rfl, ?_⟩)
      rw [history_succ, store, ← settings.2.2.2]
      exact put

end

/-! ## Another attempt -/

/-- What an attempt wrote for a query is not there: its time has come, or it was removed, or what
stands in its place is something else that cannot be read. -/
def Lost (desk : Desk) (hash : String) (entry : QueryEntry) : Prop :=
  ∀ item, desk.store.find? desk.now (Cache.queryKey hash) = some item →
    item.text ≠ Json.write entry.document ∧ item.entry? = none

/-- A lookup in vain did not find what a faithful entry was written as. -/
theorem lost_of_missed {desk : Desk} {hash : String} {entry : QueryEntry}
    (faithful : entry.Faithful) (missed : desk.store.findQuery desk.now hash = .ok none) :
    desk.Lost hash entry := by
  intro item found
  have unread := Cache.Store.findQuery_eq missed
  have unreadable : item.entry? = none := by
    rw [Cache.Store.answer?] at unread
    rw [Cache.Store.find?] at found
    rw [found] at unread
    exact unread.symm
  refine ⟨fun written => ?_, unreadable⟩
  rw [Cache.entry?_of_text faithful written] at unreadable
  cases unreadable

/-- No two runs are past waiting for the same query in different phases. -/
theorem Orderly.phase_unique {desk : Desk} (orderly : desk.Orderly) {left right : Runner}
    {first second : Run} {one other : Prepared} (runsLeft : desk.run? left = some first)
    (runsRight : desk.run? right = some second) (hasLeft : first.phase.prepared? = some one)
    (hasRight : second.phase.prepared? = some other) (same : one.sql = other.sql)
    (pastLeft : first.phase ≠ .queueing one) (pastRight : second.phase ≠ .queueing other) :
    first = second := by
  have alone := orderly.unique runsLeft runsRight hasLeft hasRight same pastLeft pastRight
  rw [alone, runsRight] at runsLeft
  exact (Option.some.inj runsLeft).symm

/-- A run that begins to have a query run that another run had run before looked for the answer
after that attempt was over, and the attempt was cut off, or failed, or what it wrote was lost. -/
theorem called_again {desk : Desk} (orderly : desk.Orderly)
    (idle : ∀ runner, desk.run? runner = none) (happenings : Nat → Happening)
    {earlier later : Runner} {one other : Prepared} {first second : Nat} (before : first < second)
    (begins : desk.Begins happenings earlier one first)
    (again : desk.Begins happenings later other second) (same : one.sql = other.sql) :
    ∃ final missed, first < final ∧ final < missed ∧ missed < second ∧
      (∀ moment, first < moment → moment ≤ final →
        desk.InPhase happenings earlier (·.underway? = some one) moment) ∧
      desk.Misses happenings later other missed ∧
      (happenings final = .act (.cut earlier) ∨ desk.CallFails happenings earlier final ∨
        ∃ entry, desk.Stores happenings earlier one entry final ∧
          (desk.history happenings missed).Lost one.hash entry) := by
  obtain ⟨missed, below, misses, since⟩ :=
    missed_of_saving orderly.sound (idle later) (saving_of_begins orderly.sound again)
  -- Whoever is underway with the query is not the run that looks it up or is about to store it.
  have apart : ∀ moment, missed ≤ moment → moment ≤ second →
      ¬desk.InPhase happenings earlier (·.underway? = some one) moment := by
    rintro moment above limit ⟨run, running, underway⟩
    obtain ⟨has, past⟩ := prepared?_of_underway underway
    have lines := orderly_history orderly happenings moment
    rcases Nat.lt_or_ge missed moment with beyond | here
    · obtain ⟨rival, ran, saving⟩ := since moment beyond limit
      have alone := lines.phase_unique running ran has (by rw [saving]; rfl) same past
        (by rw [saving]; simp)
      rw [alone, saving] at underway
      cases underway
    · obtain ⟨_, rival, _, ran, looking, _⟩ := misses
      rw [Nat.le_antisymm here above] at running lines
      have alone := lines.phase_unique running ran has (by rw [looking]; rfl) same past
        (by rw [looking]; simp)
      rw [alone, looking] at underway
      cases underway
  obtain ⟨run, running, phase⟩ := executing?_eq_some.mp begins.2
  have begun : desk.InPhase happenings earlier (·.underway? = some one) (first + 1) :=
    ⟨run, running, by rw [phase]; rfl⟩
  obtain ⟨final, above, ends, all, how⟩ :=
    exists_final orderly.sound begun before (apart second (by omega) (Nat.le_refl _))
  have sooner : final < missed := by
    rcases Nat.lt_or_ge final missed with sooner | after
    · exact sooner
    · exact absurd (all final above (Nat.le_refl _)) (apart final after (by omega))
  refine ⟨final, missed, above, sooner, below, all, misses, how.imp_right (Or.imp_right ?_)⟩
  rintro ⟨entry, stores⟩
  refine ⟨entry, stores, ?_⟩
  obtain ⟨writer, execution, chart, ran, storing, rfl, _⟩ := stores
  have faithful := (faithful_history orderly idle happenings final ran).storing _ _ _ storing
  have hashes : one.hash = other.hash := by
    obtain ⟨_, rival, _, wants, looking, _⟩ := misses
    rw [(orderly_history orderly happenings final).hashed _ _ _ ran (by rw [storing]; rfl),
      (orderly_history orderly happenings missed).hashed _ _ _ wants (by rw [looking]; rfl), same]
  obtain ⟨_, _, _, _, _, found⟩ := misses
  rw [hashes]
  exact lost_of_missed faithful found

end QuestionDesk.Desk
