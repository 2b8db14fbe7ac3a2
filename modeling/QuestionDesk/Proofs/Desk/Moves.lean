import QuestionDesk.Proofs.Desk.Order

/-!
# What a runner does over time

One runner seen through a history. `Move` says what a happening does to it; whatever its run has
been doing for a while it began with one move and ends with another.
-/
namespace QuestionDesk

open Cache (QueryEntry)
open Pipeline (Call Next Phase Prepared Run Runner)

/-! ## Since and until -/

/-- What did not hold at first and holds now began to hold at some moment and has held since. -/
theorem exists_began {property : Nat → Prop} {count : Nat} (first : ¬property 0)
    (now : property count) : ∃ began < count, ¬property began ∧
      ∀ later, began < later → later ≤ count → property later := by
  induction count with
  | zero => exact absurd now first
  | succ count before =>
    by_cases held : property count
    · obtain ⟨began, below, never, since⟩ := before held
      refine ⟨began, by omega, never, fun later above limit => ?_⟩
      rcases Nat.lt_or_ge count later with beyond | within
      · rw [show later = count + 1 by omega]
        exact now
      · exact since later above within
    · refine ⟨count, by omega, held, fun later above limit => ?_⟩
      rw [show later = count + 1 by omega]
      exact now

/-- What holds at one moment and not at a later one holds until some moment in between. -/
theorem exists_until {property : Nat → Prop} {first count : Nat} (holds : property first)
    (later : first ≤ count) (not : ¬property count) : ∃ last, first ≤ last ∧ last < count ∧
      (∀ moment, first ≤ moment → moment ≤ last → property moment) ∧ ¬property (last + 1) := by
  obtain ⟨gap, rfl⟩ := Nat.exists_eq_add_of_le later
  induction gap generalizing first with
  | zero => exact absurd holds not
  | succ gap after =>
    have alone : ∀ moment, first ≤ moment → moment ≤ first → property moment := by
      intro moment above below
      rw [Nat.le_antisymm below above]
      exact holds
    by_cases still : property (first + 1)
    · obtain ⟨last, above, below, all, ends⟩ :=
        after still (by omega) (by rw [show first + 1 + gap = first + (gap + 1) by omega]; exact not)
      refine ⟨last, by omega, by omega, fun moment from_ until_ => ?_, ends⟩
      rcases Nat.lt_or_ge first moment with beyond | here
      · exact all moment beyond until_
      · exact alone moment from_ here
    · exact ⟨first, Nat.le_refl _, by omega, alone, still⟩

/-! ## Moves -/

namespace Desk

/-- What a happening does to one runner. -/
inductive Move (desk : Desk) (happening : Happening) (runner : Runner) : Prop where
  /-- It leaves the run of the runner as it is. -/
  | stays (run : (desk.meet happening).run? runner = desk.run? runner)
  /-- A run starts. -/
  | starts {run : Run} (free : desk.run? runner = none)
    (after : (desk.meet happening).run? runner = some run) (phase : run.phase = .opening)
    (offered : desk.Offers happening run.payload)
  /-- The run goes on. -/
  | goesOn {run next : Run} {notes : Fields} {response : Remote.Response} {between : Desk}
    (acts : happening = .act (.work runner response)) (running : desk.run? runner = some run)
    (passage : desk.Passage runner run response (.goOn next notes) between)
    (after : (desk.meet happening).run? runner = some next)
  /-- The run ends. -/
  | ends {run : Run} {outcome : Except Failure Value} {notes : Fields}
    {response : Remote.Response} {between : Desk}
    (acts : happening = .act (.work runner response)) (running : desk.run? runner = some run)
    (passage : desk.Passage runner run response (.ended outcome notes) between)
    (after : (desk.meet happening).run? runner = none)
    (store : (desk.meet happening).store = between.store)
    (went : desk.meet happening = between.follow runner run (.ended outcome notes))
  /-- The run is cut off. -/
  | cut {run : Run} (acts : happening = .act (.cut runner)) (running : desk.run? runner = some run)
    (after : (desk.meet happening).run? runner = none)

/-- A happening moves every runner in one of these ways. -/
theorem move {desk : Desk} (sound : desk.board.Sound) (happening : Happening) (runner : Runner) :
    desk.Move happening runner := by
  cases desk.shift sound happening with
  | aside runs _ => exact .stays (runs runner)
  | @started other run phase free runs _ offered =>
    by_cases own : runner = other
    · subst own
      exact .starts free (by rw [runs, if_pos rfl]) phase offered
    · exact .stays (by rw [runs, if_neg own])
  | @wentOn other run next notes response between acts running passage runs _ _ =>
    by_cases own : runner = other
    · subst own
      exact .goesOn acts running passage (by rw [runs, if_pos rfl])
    · exact .stays (by rw [runs, if_neg own])
  | @ended other run outcome notes response between acts running passage runs _ store went =>
    by_cases own : runner = other
    · subst own
      exact .ends acts running passage (by rw [runs, if_pos rfl]) store went
    · exact .stays (by rw [runs, if_neg own])
  | @cut other run acts running runs _ _ =>
    by_cases own : runner = other
    · subst own
      exact .cut acts running (by rw [runs, if_pos rfl])
    · exact .stays (by rw [runs, if_neg own])

section History

variable (desk : Desk) (happenings : Nat → Happening)

/-- A runner begins to have the executor run a query: it does not do so at a moment and does at the
next one. -/
def Begins (runner : Runner) (prepared : Prepared) (moment : Nat) : Prop :=
  (desk.history happenings moment).executing? runner = none ∧
    (desk.history happenings (moment + 1)).executing? runner = some prepared

/-- The call that a runner makes at a moment fails. -/
def CallFails (runner : Runner) (moment : Nat) : Prop :=
  ∃ (response : Remote.Response) (run : Run) (call : Call) (failure : Failure),
    happenings moment = .act (.work runner response) ∧
      (desk.history happenings moment).run? runner = some run ∧ run.call? = some call ∧
        ((desk.history happenings moment).perform call response).1 = .failed failure

/-- A runner looks up a query at a moment and finds no answer. -/
def Misses (runner : Runner) (prepared : Prepared) (moment : Nat) : Prop :=
  ∃ (response : Remote.Response) (run : Run),
    happenings moment = .act (.work runner response) ∧
      (desk.history happenings moment).run? runner = some run ∧ run.phase = .lookingUp prepared ∧
        (desk.history happenings moment).store.findQuery (desk.history happenings moment).now
          prepared.hash = .ok none

/-- A runner remembers the answer to a query at a moment. -/
def Stores (runner : Runner) (prepared : Prepared) (entry : QueryEntry) (moment : Nat) : Prop :=
  ∃ (run : Run) (execution : Remote.Execution) (chart : Fields),
    (desk.history happenings moment).run? runner = some run ∧
      run.phase = .storing prepared execution chart ∧ entry = run.entry execution chart ∧
        (desk.history happenings moment).store.putQuery (desk.history happenings moment).now
          desk.keepSeconds prepared.hash entry = .ok (desk.history happenings (moment + 1)).store

/-- A runner has a run whose phase has a property. -/
def InPhase (runner : Runner) (property : Phase → Prop) (moment : Nat) : Prop :=
  ∃ run, (desk.history happenings moment).run? runner = some run ∧ property run.phase

end History

end Desk

/-- The query of a phase in which a run has called the executor and not yet remembered the
answer. -/
def Pipeline.Phase.underway? : Phase → Option Prepared
  | .executing prepared | .charting prepared _ | .storing prepared _ _ => some prepared
  | _ => none

namespace Desk

/-- What is underway has its query. -/
theorem prepared?_of_underway {phase : Phase} {prepared : Prepared}
    (underway : phase.underway? = some prepared) :
    phase.prepared? = some prepared ∧ phase ≠ .queueing prepared := by
  cases phase <;> simp_all [Phase.underway?, Phase.prepared?]

/-- A run that has its query and ends with a failure made a call that failed, if its prompt has a
fingerprint or is not needed any more. -/
theorem Passage.call_fails {desk between : Desk} {runner : Runner} {run : Run}
    {response : Remote.Response} {failure : Failure} {notes : Fields} {prepared : Prepared}
    (passage : desk.Passage runner run response (.ended (.error failure) notes) between)
    (has : run.phase.prepared? = some prepared)
    (keyed : run.phase.underway? = none → ∃ key, Run.keyFor run.prompt = .ok key) :
    ∃ call failure, run.call? = some call ∧ (desk.perform call response).1 = .failed failure := by
  cases passage with
  | unopened phase | unplanned phase | obstructed phase | rejected phase | uncompiled phase
  | unhashed phase =>
    rw [phase] at has
    cases has
  | mistaken phase _ _ keyless | stranded phase _ keyless =>
    obtain ⟨key, found⟩ := keyed (by rw [phase]; rfl)
    rw [found] at keyless
    cases keyless
  | @unseen query _ phase found =>
    refine ⟨.findQuery query.hash, failure, by simp only [Run.call?, phase], ?_⟩
    simp only [perform, found]
  | unremoved phase done =>
    refine ⟨.deleteQuestion run.questionId, failure, by simp only [Run.call?, phase], ?_⟩
    simp only [Run.question] at done
    simp only [perform, done, replyOf]
  | @unpointed _ entry key _ phase keyed done =>
    refine ⟨.rememberPrompt key (Run.pointer entry), failure,
      by simp only [Run.call?, phase, keyed, Except.toOption, Option.map_some], ?_⟩
    simp only [perform, done]
  | @unsaved query _ phase done =>
    refine ⟨.updateQuestion run.questionId query, failure, by simp only [Run.call?, phase], ?_⟩
    simp only [Run.question] at done
    simp only [perform, done, replyOf]
  | @unexecuted query _ phase refused =>
    have fails : ∃ failure, (desk.perform (.execute query.sql) response).1 = .failed failure := by
      simp only [perform]
      cases asked : Remote.Executor.request? desk.executorUrl (.text query.sql) with
      | error failure => exact ⟨failure, rfl⟩
      | ok request =>
        rcases refused with unasked | unread
        · rw [asked] at unasked
          cases unasked
        · simp only [unread]
          exact ⟨_, rfl⟩
    obtain ⟨failure, failed⟩ := fails
    exact ⟨.execute query.sql, failure, by simp only [Run.call?, phase], failed⟩
  | @unstored query execution chart _ phase done =>
    refine ⟨.rememberQuery query.hash run.questionId execution.fields chart run.jobId, failure,
      by simp only [Run.call?, phase], ?_⟩
    simp only [perform, done]
  | @uncharted _ execution _ phase refused =>
    refine ⟨.chart execution.rows, failure, by simp only [Run.call?, phase], ?_⟩
    simp only [perform, refused]

end Desk

end QuestionDesk
