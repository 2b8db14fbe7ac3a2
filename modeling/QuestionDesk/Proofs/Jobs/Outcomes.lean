import QuestionDesk.Proofs.Jobs.Lives

/-!
# Outcomes

A job keeps the outcome of its handler: its status, its reason and its value, and the event of which
listeners are told, all say the same. They do so unless the handler failed in a way that may be
shown and has nothing to say: the reason is empty then, and the job, of which listeners are told
that it failed, is completed.
-/
namespace QuestionDesk

/-- The reason that is given for a failure is empty exactly when the failure may be shown and says
nothing. -/
theorem Failure.safeMessage_eq_empty {failure : Failure} :
    failure.safeMessage = "" ↔ failure.isUserFacing = true ∧ failure.message = "" := by
  unfold Failure.safeMessage
  split
  · next shown => simp [shown]
  · next hidden => simp [hidden, Failure.genericMessage]

namespace Jobs

variable {π ℓ : Type}

/-- What a job says once its handler has had an outcome. -/
def Settled (outcome : Except Failure Value) (job : Job) : Prop :=
  match outcome with
  | .ok value => job.status = .completed ∧ job.failedReason = none ∧ job.returnValue = value
  | .error _ =>
    job.status = .failed ∧ (∃ reason, job.failedReason = some reason ∧ reason ≠ "") ∧
      job.returnValue = .null

/-- A job says the same whatever is noted on it. -/
theorem Settled.of_alike {outcome : Except Failure Value} {job other : Job}
    (settled : Settled outcome job) (alike : job.Alike other) : Settled outcome other := by
  rw [alike]
  cases outcome with
  | ok value => exact settled
  | error failure => exact settled

/-- Whether an outcome is a failure that may be shown and says nothing. -/
def Wordless (outcome : Except Failure Value) : Prop :=
  ∃ failure, outcome = .error failure ∧ failure.isUserFacing = true ∧ failure.message = ""

/-- A job that ends, and to which nothing else was written, says what its outcome is, unless that is
wordless. -/
theorem settled_ended {outcome : Except Failure Value} {job : Job} (now : Micros)
    (reasonless : job.failedReason = none) (valueless : job.returnValue = .null) :
    Settled outcome (Board.ended job now outcome) ↔ ¬Wordless outcome := by
  cases outcome with
  | ok value =>
    refine ⟨fun _ ⟨_, fails, _⟩ => (nomatch fails), fun _ => ⟨?_, reasonless, rfl⟩⟩
    simp [Job.status, statusOf, Board.ended, reasonless]
  | error failure =>
    constructor
    · rintro ⟨-, ⟨reason, said, wordy⟩, -⟩ ⟨other, same, wordless⟩
      cases same
      exact wordy ((Option.some.inj said).symm.trans (Failure.safeMessage_eq_empty.mpr wordless))
    · intro wordy
      have said : failure.safeMessage ≠ "" := fun empty =>
        wordy ⟨failure, rfl, Failure.safeMessage_eq_empty.mp empty⟩
      refine ⟨?_, ⟨failure.safeMessage, rfl, said⟩, valueless⟩
      simp [Job.status, statusOf, Board.ended, said]

namespace Chronicle

variable {chronicle : Chronicle π ℓ} {count worker : Nat} {jobType : String} {seq : Nat}
  {outcome : Except Failure Value}

/-- What follows in a chronicle when a handler has had an outcome. -/
structure Settles (chronicle : Chronicle π ℓ) (count worker : Nat) (jobType : String) (seq : Nat)
    (outcome : Except Failure Value) : Prop where
  /-- Whoever has the job sees from then on what the outcome is. -/
  seen : ∀ later, count < later →
    ∃ job, chronicle.seen? jobType seq later = some job ∧ Settled outcome job
  /-- The worker turns to the listeners of the event of the outcome. -/
  turns : ∃ job, job.seq = seq ∧ Settled outcome job ∧
    (chronicle.board (count + 1)).Does worker jobType
      ((chronicle.board count).tellingNext job (Board.eventOf outcome) 0)
  /-- A worker that has told one of them turns to the next one. -/
  next : ∀ later other job event told result, job.seq = seq →
    (chronicle.board later).Does other jobType (.notifying job event told) →
      chronicle.steps later = .notified other result → result ≠ .error .cancelled →
        (chronicle.board (later + 1)).Does other jobType
          ((chronicle.board later).tellingNext job event (told + 1))
  /-- No others are told about the job, and each of them sees what the outcome is. -/
  told : ∀ later other job event told, job.seq = seq →
    (chronicle.board later).Does other jobType (.notifying job event told) →
      event = Board.eventOf outcome ∧ Settled outcome job

/-- A job that has ended says from then on what its outcome is, unless that is wordless. -/
theorem Ends.settled {later : Nat} (ends : chronicle.Ends count worker jobType seq outcome)
    (wordy : ¬Wordless outcome) (order : count < later) :
    ∃ job, chronicle.seen? jobType seq later = some job ∧ Settled outcome job := by
  obtain ⟨job, sees, processing, ended⟩ := ends.seen
  obtain ⟨reasonless, valueless⟩ := blank_of_seen sees (Job.isTerminal_of_processing processing)
  obtain ⟨after, there, -, alike⟩ := seen_later order ended
  have settled := (settled_ended (chronicle.floor count).now reasonless valueless).mpr wordy
  exact ⟨after, there, settled.of_alike (alike (Board.isTerminal_ended _ _ _))⟩

/-- Once its handler has returned or failed, a job says so for ever, and the listeners of that
event, and no others, are told about it and see that it says so, exactly when the outcome is not a
failure that may be shown and says nothing. -/
theorem settles_iff (ends : chronicle.Ends count worker jobType seq outcome) :
    chronicle.Settles count worker jobType seq outcome ↔ ¬Wordless outcome := by
  obtain ⟨job, sees, processing, ended⟩ := ends.seen
  have blank := blank_of_seen sees (Job.isTerminal_of_processing processing)
  have settled : Settled outcome (Board.ended job (chronicle.floor count).now outcome) ↔
      ¬Wordless outcome := settled_ended _ blank.1 blank.2
  constructor
  · intro settles
    obtain ⟨known, there, stands⟩ := settles.seen (count + 1) (Nat.lt_succ_self count)
    cases there.symm.trans ended
    exact settled.mp stands
  · intro wordy
    refine ⟨fun later order => ends.settled wordy order, ?_, ?_, ?_⟩
    · obtain ⟨finishes, alive, progress, does⟩ := ends
      obtain ⟨known, found, -⟩ := (chronicle.sound count).handled _ _ _ _ does
      obtain ⟨-, rfl⟩ := Lane.mem_of_job? found
      cases (seen?_of_found found).symm.trans sees
      refine ⟨_, (Board.ended_same job (chronicle.floor count).now outcome).1,
        settled.mpr wordy, ?_⟩
      rw [board, floor, finishes]
      exact (Board.advance_finish (chronicle.sound count) does found _ alive).does
    · rintro later other job event told result - tells notifies alive
      rw [board, floor, notifies]
      exact (Board.advance_notified (chronicle.sound later) tells alive).does
    · rintro later other job event told rfl tells
      obtain ⟨earlier, result, known, order, ended, about, sees, alike⟩ := ended_of_tells tells
      obtain ⟨rfl, -, rfl⟩ := ends.unique ended
      obtain ⟨after, there, stands⟩ := ends.settled wordy order
      cases there.symm.trans sees
      exact ⟨about, stands.of_alike alike⟩

/-- A chronicle in which the handler of the only job has an outcome, and a listener waits to be told
of failures. -/
def single (outcome : Except Failure Value) : Chronicle Unit Unit :=
  .ofList none 0 [.subscribe .failed (), .create "ask" "a" [] false, .register "ask" 1,
    .take 0 fun _ => (), .finish 0 outcome]

/-- A handler that crashes without a word. -/
def crash : Except Failure Value := .error (.other "KeyError" "")

/-- A handler that fails with an empty message for the person who asked. -/
def silence : Except Failure Value := .error (.userFacing "" none)

/-- A job whose handler crashed has failed, and the listener of failures sees that. -/
theorem settles_iff_crash :
    (single crash).Ends 4 0 "ask" 1 crash ∧ (single crash).Settles 4 0 "ask" 1 crash := by
  have ends : (single crash).Ends 4 0 "ask" 1 crash := ⟨rfl, nofun, (), by decide +kernel⟩
  refine ⟨ends, (settles_iff ends).mpr ?_⟩
  rintro ⟨failure, same, shown, -⟩
  cases same
  cases shown

/-- A job whose handler failed without a word is completed, and the listener of failures sees that.
-/
theorem not_settles_silence :
    (single silence).Ends 4 0 "ask" 1 silence ∧
      (((single silence).board 5).telling? 0).map (fun told => (told.1, told.2.status)) =
        some ((), .completed) ∧
      ¬(single silence).Settles 4 0 "ask" 1 silence := by
  have completed : ((single silence).seen? "ask" 1 5).map Job.status = some .completed := by
    decide +kernel
  refine ⟨⟨rfl, nofun, (), by decide +kernel⟩, by decide +kernel, fun settles => ?_⟩
  obtain ⟨job, sees, failed, -⟩ := settles.seen 5 (by decide)
  rw [sees, Option.map_some, failed] at completed
  cases completed

end Chronicle

end Jobs

end QuestionDesk
