import QuestionDesk.Proofs.Jobs.Search
import QuestionDesk.Proofs.Jobs.Service

/-!
# Endurance

Failures of handlers and listeners cost nothing: the job ends, and its worker goes on. Only a
cancellation that a handler or a listener raises itself takes its worker with it, one worker each
time, and if it was the handler that raised it, the job is being processed for good, though nobody
handles it.
-/
namespace QuestionDesk.Jobs

variable {π ℓ : Type}

/-- In a step nobody is sent away, and nobody comes beside workers that are being sent away. -/
def Step.Stays : Step π ℓ → Prop
  | .kill _ | .close | .reinforce _ _ => False
  | _ => True

namespace Chronicle

/-- Nobody is ever sent away in a chronicle. -/
def Unclosed (chronicle : Chronicle π ℓ) : Prop := ∀ count, (chronicle.steps count).Stays

/-- Nobody is sent away in the chronicle of some steps if nobody is in any of them. -/
theorem unclosed_ofList {retention : Option Micros} {began : Micros} {steps : List (Step π ℓ)}
    (stays : ∀ step ∈ steps, step.Stays) : (ofList retention began steps).Unclosed := by
  intro count
  simp only [ofList, List.getD_eq_getElem?_getD]
  cases found : steps[count]? with
  | none => trivial
  | some step => exact stays step (List.mem_of_getElem? found)

/-- In the step after some steps the handler of a job raises a cancellation. -/
def Raises (chronicle : Chronicle π ℓ) (count worker : Nat) (jobType : String) (seq : Nat) : Prop :=
  chronicle.steps count = .finish worker (.error .cancelled) ∧
    ∃ progress, (chronicle.board count).Does worker jobType (.handling seq progress)

/-- How often, since a moment, a handler for jobs of a type raised a cancellation, or a listener that
was told about one. -/
def cancellations (chronicle : Chronicle π ℓ) (jobType : String) (earlier later : Nat) : Nat :=
  (List.range later).countP fun count => earlier ≤ count &&
    (chronicle.floor count).cancels? (chronicle.steps count) = some jobType

variable {chronicle : Chronicle π ℓ} {jobType : String} {seq count earlier later worker : Nat}
  {job : Job}

/-- Where nobody is sent away, workers are lost to cancellations only. -/
theorem Unclosed.lost (unclosed : chronicle.Unclosed) (order : earlier ≤ later) :
    chronicle.lost jobType later =
      chronicle.lost jobType earlier + chronicle.cancellations jobType earlier later := by
  induction order with
  | refl =>
    have none : chronicle.cancellations jobType earlier earlier = 0 := by
      refine List.countP_eq_zero.mpr fun count below => ?_
      have := List.mem_range.mp below
      simp only [Bool.and_eq_true, decide_eq_true_eq, not_and]
      omega
    rw [none]
    rfl
  | @step later order ih =>
    have next : (chronicle.floor later).losses jobType (chronicle.steps later) =
        if (chronicle.floor later).cancels? (chronicle.steps later) = some jobType then 1 else 0 := by
      have stays := unclosed later
      cases here : chronicle.steps later with
      | kill | close =>
        rw [here] at stays
        exact stays.elim
      | _ => rfl
    rw [Chronicle.lost, ih, next, cancellations, cancellations, List.range_succ, List.countP_append,
      List.countP_singleton, Nat.add_assoc]
    have since : earlier ≤ later := order
    simp [since]

/-- Where nobody is sent away, a job that is being processed is handled, or its handler raised a
cancellation. -/
theorem Unclosed.handled (unclosed : chronicle.Unclosed)
    (found : (chronicle.board count).job? jobType seq = some job)
    (processing : job.status = .processing) :
    (∃ worker progress, (chronicle.board count).Does worker jobType (.handling seq progress)) ∨
      ∃ earlier worker, earlier < count ∧ chronicle.Raises earlier worker jobType seq := by
  obtain ⟨created, born, since, creates, rfl, rfl⟩ := created_before found
  -- A job that has ended stays so, and this one has not.
  have unended : ∀ ended worker outcome, ended < count →
      ¬chronicle.Ends ended worker born.jobType born.seq outcome := by
    intro ended worker outcome past ends
    obtain ⟨seen, here, terminal⟩ := ends.terminal past
    cases here.symm.trans (seen?_of_found found)
    rw [Job.isTerminal_of_processing processing] at terminal
    cases terminal
  cases creates.standing since with
  | waits inLine =>
    obtain ⟨other, there, pending⟩ := (chronicle.sound count).pending_of_waiting inLine
    cases there.symm.trans found
    cases pending.symm.trans processing
  | handled does => exact Or.inl ⟨_, _, does⟩
  | telling number does ends past => exact absurd ends (unended _ _ _ past)
  | heard heard => exact absurd heard.ends (unended _ _ _ (Nat.lt_of_le_of_lt heard.order heard.past))
  | @cutOff earlier worker past cuts =>
    cases cuts with
    | dismissed busy away =>
      have stays := unclosed earlier
      rcases away with away | away <;> rw [away] at stays <;> exact stays.elim
    | handler does raises => exact Or.inr ⟨earlier, worker, past, raises, _, does⟩
    | listener number does raises =>
      obtain ⟨ended, outcome, -, before, ends, -⟩ := ended_of_tells does
      exact absurd (number ▸ ends) (unended ended worker outcome (Nat.lt_trans before past))

/-- A job is abandoned: it is being processed, and nobody is busy with it. -/
def Abandoned (chronicle : Chronicle π ℓ) (count : Nat) (jobType : String) (seq : Nat) : Prop :=
  (∃ job, (chronicle.board count).job? jobType seq = some job ∧ job.status = .processing) ∧
    ∀ worker, ¬(chronicle.board count).Busy worker jobType seq

/-- A worker becomes busy with a job by taking it from the line. -/
theorem busy_before (busy : (chronicle.board (count + 1)).Busy worker jobType seq) :
    (chronicle.board count).Busy worker jobType seq ∨
      seq ∈ ((chronicle.board count).lane jobType).waiting := by
  obtain ⟨activity, does, same⟩ := busy
  cases Floor.duty (chronicle.sound count) (chronicle.steps count) worker with
  | aside stays => exact Or.inl ⟨activity, stays.symm.trans does, same⟩
  | absent after => cases after.symm.trans does
  | came before after =>
    cases (after.unique does).2
    cases same
  | went after =>
    cases (after.unique does).2
    cases same
  | took takes before line after =>
    obtain ⟨rfl, rfl⟩ := after.unique does
    cases same
    exact Or.inr (line ▸ List.mem_cons_self)
  | wentOn before after =>
    obtain ⟨rfl, rfl⟩ := after.unique does
    exact Or.inl ⟨_, before, same⟩
  | @ended kind job progress outcome finishes alive before found after =>
    obtain ⟨rfl, rfl⟩ := after.unique does
    rcases Board.tellingNext_cases (chronicle.floor count).board
      (Board.ended job (chronicle.floor count).now outcome) (Board.eventOf outcome) 0 with
      telling | idle
    · rw [telling] at same
      cases same
      exact Or.inl ⟨_, before, congrArg some (Board.ended_same job _ outcome).1.symm⟩
    · rw [idle] at same
      cases same
  | @told kind job event told before after =>
    obtain ⟨rfl, rfl⟩ := after.unique does
    rcases Board.tellingNext_cases (chronicle.floor count).board job event (told + 1) with
      telling | idle
    · rw [telling] at same
      exact Or.inl ⟨_, before, same⟩
    · rw [idle] at same
      cases same
  | revised change before after =>
    obtain ⟨rfl, rfl⟩ := after.unique does
    exact Or.inl ⟨_, before, same⟩

/-- What is abandoned stays so. -/
theorem Abandoned.next (abandoned : chronicle.Abandoned count jobType seq) :
    chronicle.Abandoned (count + 1) jobType seq := by
  obtain ⟨⟨job, found, processing⟩, nobody⟩ := abandoned
  have sound := chronicle.sound count
  refine ⟨?_, fun worker busy => ?_⟩
  · cases Floor.turn sound (chronicle.steps count) jobType seq with
    | aside same => exact ⟨job, same.trans found, processing⟩
    | created _ _ _ fresh =>
      rw [sound.job?_of_above (fresh ▸ Nat.lt_succ_self _)] at found
      cases found
    | taken _ before pending =>
      cases before.symm.trans found
      cases pending.symm.trans processing
    | revised change before after =>
      cases before.symm.trans found
      exact ⟨_, after, processing⟩
    | ended ends =>
      obtain ⟨-, -, progress, does⟩ := ends
      exact absurd ⟨_, does, rfl⟩ (nobody _)
    | left before terminal =>
      cases before.symm.trans found
      rw [Job.isTerminal_of_processing processing] at terminal
      cases terminal
  · rcases busy_before busy with before | waits
    · exact nobody worker before
    · obtain ⟨other, there, pending⟩ := sound.pending_of_waiting waits
      cases there.symm.trans found
      cases pending.symm.trans processing

/-- A job whose handler raised a cancellation is abandoned from then on. -/
theorem Raises.abandoned (raises : chronicle.Raises earlier worker jobType seq)
    (past : earlier < later) : chronicle.Abandoned later jobType seq := by
  induction past with
  | refl =>
    obtain ⟨finishes, progress, does⟩ := raises
    have after : chronicle.board (earlier + 1) = (chronicle.board earlier).kill worker := by
      rw [board, floor, finishes, Floor.step, Board.finish_cancelled _ does]
    obtain ⟨job, found, processing⟩ := (chronicle.sound earlier).handled _ _ _ _ does
    refine ⟨⟨job, ?_, processing⟩, fun other busy => ?_⟩
    · rw [after, Board.job?, Lane.job?, (Board.lane_kill _ worker jobType).1]
      exact found
    · rcases busy_before busy with ⟨activity, before, same⟩ | waits
      · obtain rfl := (chronicle.sound earlier).alone _ _ _ _ ⟨_, before, same⟩ ⟨_, does, rfl⟩
        obtain ⟨activity, still, same⟩ := busy
        rw [after, Board.Does, Board.workers_kill, if_pos rfl, does] at still
        cases still
        cases same
      · obtain ⟨other, there, pending⟩ := (chronicle.sound earlier).pending_of_waiting waits
        cases there.symm.trans found
        cases pending.symm.trans processing
  | step past ih => exact ih.next

/-! ## Endurance -/

/-- What handlers and listeners that fail cost, in a chronicle in which nobody is sent away. -/
structure Endures (chronicle : Chronicle π ℓ) : Prop where
  /-- Of the workers that were engaged for a type as many are gone as there were cancellations that a
  handler or a listener of the type raised itself; failures cost none. -/
  manned : ∀ jobType registered limit, chronicle.Engages registered jobType limit →
    ∀ count, registered < count → (chronicle.board count).live jobType +
      chronicle.cancellations jobType registered count = limit
  /-- A job whose handler has returned or failed has ended for good. -/
  ended : ∀ earlier worker jobType seq outcome, chronicle.Ends earlier worker jobType seq outcome →
    ∀ count, earlier < count →
      ∃ job, chronicle.seen? jobType seq count = some job ∧ job.isTerminal = true
  /-- A job is being processed with nobody busy with it exactly when its handler raised a cancellation
  itself. -/
  abandoned : ∀ count jobType seq, chronicle.Abandoned count jobType seq ↔
    ∃ earlier worker, earlier < count ∧ chronicle.Raises earlier worker jobType seq
  /-- Whoever asks for a job is given one that is being processed only if somebody handles it, or its
  handler raised a cancellation itself. -/
  found : ∀ count jobType fingerprint payload skipsSearch job after,
    (chronicle.board count).create (chronicle.floor count).now jobType fingerprint payload
        skipsSearch = (job, after) → job.status = .processing →
      (∃ worker progress, after.Does worker jobType (.handling job.seq progress)) ∨
        ∃ earlier worker, earlier < count ∧ chronicle.Raises earlier worker jobType job.seq

/-- A job that is given to whoever asks for one, and is being processed, was on the board. -/
theorem found_of_create {board after : Board π ℓ} (sound : board.Sound) {now : Micros}
    {fingerprint : String} {payload : Fields} {skipsSearch : Bool}
    (gives : board.create now jobType fingerprint payload skipsSearch = (job, after))
    (processing : job.status = .processing) :
    board.job? jobType job.seq = some job ∧ after.workers = board.workers := by
  have kept := Board.sheds_forget sound now jobType
  rcases board.create_cases now jobType fingerprint payload skipsSearch with
    ⟨known, -, usable, found⟩ | ⟨-, added⟩
  · cases gives.symm.trans found
    obtain ⟨member, -⟩ := kept.sound.find?_eq_some.mp (Board.findUsable?_eq_some.mp usable).1
    have there := kept.sound.job?_of_mem member
    rcases kept.jobs jobType job.seq with same | ⟨_, -, -, gone⟩
    · exact ⟨same.symm.trans there, kept.workers⟩
    · cases gone.symm.trans there
  · cases gives.symm.trans added
    cases processing

/-- Where nobody is sent away, only cancellations that handlers and listeners raise themselves cost
workers, and only those of handlers leave jobs abandoned. -/
theorem failures_cost_nothing (chronicle : Chronicle π ℓ) (unclosed : chronicle.Unclosed) :
    chronicle.Endures where
  manned := by
    intro jobType registered limit engages count since
    have open_ : chronicle.Open jobType registered count := by
      intro between _ _
      have stays := unclosed between
      refine ⟨fun away => ?_, fun more beside => ?_⟩
      · rw [away] at stays
        exact stays
      · rw [beside] at stays
        exact stays
    obtain ⟨-, -, present⟩ := engages.staff since open_
    have lost := @Unclosed.lost _ _ _ jobType _ _ unclosed (Nat.le_of_lt since)
    omega
  ended _ _ _ _ _ ends _ past := ends.terminal past
  abandoned := by
    intro count jobType seq
    constructor
    · rintro ⟨⟨job, found, processing⟩, nobody⟩
      rcases unclosed.handled found processing with ⟨worker, progress, does⟩ | raised
      · exact absurd ⟨_, does, rfl⟩ (nobody worker)
      · exact raised
    · rintro ⟨earlier, worker, past, raises⟩
      exact raises.abandoned past
  found := by
    intro count jobType fingerprint payload skipsSearch job after gives processing
    obtain ⟨found, workers⟩ := found_of_create (chronicle.sound count) gives processing
    rcases unclosed.handled found processing with ⟨worker, progress, does⟩ | raised
    · exact Or.inl ⟨worker, progress, (congrArg (·[worker]?) workers).trans does⟩
    · exact Or.inr raised

/-- Of two workers one has a handler that fails, and the other one a handler that raises a
cancellation. -/
def faltering : Chronicle Unit Unit :=
  .ofList none 0 [.register "ask" 2, .create "ask" "a" [] false, .create "ask" "b" [] false,
    .take 0 fun _ => (), .take 1 fun _ => (), .finish 0 (.error .notFinite),
    .finish 1 (.error .cancelled)]

/-- The first worker is still there and its job has ended; the second one is gone and its job is
abandoned. -/
theorem failures_cost_nothing_faltering : faltering.Unclosed ∧ faltering.Endures ∧
    faltering.Engages 0 "ask" 2 ∧ (faltering.board 7).live "ask" = 1 ∧
      faltering.cancellations "ask" 0 7 = 1 ∧ faltering.Raises 6 1 "ask" 2 ∧
        (faltering.seen? "ask" 1 7).map Job.status = some .failed := by
  have unclosed : faltering.Unclosed := unclosed_ofList (by simp [Step.Stays])
  exact ⟨unclosed, faltering.failures_cost_nothing unclosed, ⟨rfl, _, rfl⟩, by decide +kernel,
    by decide +kernel, ⟨rfl, (), by decide +kernel⟩, by decide +kernel⟩

/-- The only worker has a handler that raises a cancellation. -/
def forsaken : Chronicle Unit Unit :=
  .ofList none 0 [.register "ask" 1, .create "ask" "a" [] false, .take 0 fun _ => (),
    .finish 0 (.error .cancelled)]

/-- Though nobody is sent away, no worker is left for the type: the job whose handler raised is still
being processed, nobody is busy with it, and it is what whoever asks for the fingerprint is given. -/
theorem forsaken_by_cancellation : forsaken.Unclosed ∧ forsaken.Engages 0 "ask" 1 ∧
    forsaken.Raises 3 0 "ask" 1 ∧ (forsaken.board 4).live "ask" ≠ 1 ∧
      (forsaken.board 4).inHand "ask" = [] ∧
        ((forsaken.board 4).job? "ask" 1).map (fun job => (job.status, job.isTerminal)) =
          some (.processing, false) ∧
          some ((forsaken.board 4).create 0 "ask" "a" [] false).1 =
            (forsaken.board 4).job? "ask" 1 :=
  ⟨unclosed_ofList (by simp [Step.Stays]), ⟨rfl, _, rfl⟩, ⟨rfl, (), by decide +kernel⟩,
    by decide +kernel, by decide +kernel, by decide +kernel, by decide +kernel⟩

end Chronicle

end QuestionDesk.Jobs
