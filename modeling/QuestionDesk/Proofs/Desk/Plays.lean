import QuestionDesk.Proofs.Desk.Endings
import QuestionDesk.Proofs.Desk.Reasons
import QuestionDesk.Proofs.Pipeline.Accounts

/-!
# Runs play their scripts

The calls that a runner makes in a history, each with what the desk makes of it. Whatever happens
around it, a run that goes on at the desk has played from its opening on, with these calls; so what
is true of every play is true of every run.
-/
namespace QuestionDesk.Desk

open Pipeline (Call Next Plays Reply Run Runner Steps)

/-! ## The calls of a runner -/

/-- The call that a runner makes when it goes on, with what comes of it. -/
def callsOn (desk : Desk) (runner : Runner) (response : Remote.Response) : List (Call × Reply) :=
  match (desk.run? runner).bind Run.call? with
  | some call => [(call, (desk.perform call response).1)]
  | none => []

/-- The call that a runner makes at a moment of a history, if it makes one. -/
def callsAt (desk : Desk) (happenings : Nat → Happening) (runner : Runner) (moment : Nat) :
    List (Call × Reply) :=
  match happenings moment with
  | .act (.work other response) =>
    if other = runner then (desk.history happenings moment).callsOn runner response else []
  | _ => []

/-- The calls that a runner makes in a history from a moment on, up to another one. -/
def callsFrom (desk : Desk) (happenings : Nat → Happening) (runner : Runner) (first : Nat) :
    Nat → List (Call × Reply)
  | 0 => []
  | span + 1 =>
    callsFrom desk happenings runner first span ++ callsAt desk happenings runner (first + span)

/-! ## Steps -/

/-- What the desk makes of a call is what the call can come to. -/
theorem takes_perform (desk : Desk) (call : Call) (response : Remote.Response) :
    call.Takes (desk.perform call response).1 := by
  have done : ∀ {call : Call} {α : Type} (outcome : Except Failure α), call.Gives .done →
      call.Takes (replyOf outcome) := by
    intro call α outcome gives
    cases outcome with
    | ok value => exact Or.inl gives
    | error failure => exact Or.inr ⟨failure, rfl⟩
  cases call with
  | plan prompt =>
    simp only [perform]
    split
    · exact Or.inl (.planned _)
    · exact Or.inr ⟨_, rfl⟩
  | findQuery hash =>
    simp only [perform]
    split
    · exact Or.inl (.found _)
    · exact Or.inr ⟨_, rfl⟩
  | deleteQuestion questionId => exact done _ .removed
  | rememberPrompt fingerprint entry =>
    simp only [perform]
    split
    · exact Or.inl .pointed
    · exact Or.inr ⟨_, rfl⟩
  | updateQuestion questionId prepared => exact done _ .saved
  | execute sql =>
    simp only [perform]
    split
    · exact Or.inr ⟨_, rfl⟩
    · split
      · exact Or.inl (.executed _)
      · exact Or.inr ⟨_, rfl⟩
  | chart rows =>
    simp only [perform]
    split
    · exact Or.inl (.charted _)
    · exact Or.inr ⟨_, rfl⟩
  | rememberQuery hash questionId result chart jobId =>
    simp only [perform]
    split
    · exact Or.inl .stored
    · exact Or.inr ⟨_, rfl⟩

/-- No call at the desk is cancelled: a run is cut off between its calls. -/
theorem perform_alive {desk : Desk} {run : Run} {call : Call}
    (calls : run.call? = some call) (response : Remote.Response) :
    (desk.perform call response).1 ≠ .failed .cancelled := by
  intro cancelled
  -- What is called does not depend on who calls.
  have passage := @passage_of_call desk (.worker 0) run response call calls
  rw [cancelled] at passage
  have fails : run.resume (desk.perform call response).2.policy (desk.perform call response).2.now
      (.failed .cancelled) = run.fail (desk.perform call response).2.now run.phase.stage .cancelled
        [] := by
    simp only [Run.resume]
  rw [fails] at passage
  exact passage.failed.1.alive rfl

/-- A run that goes on at the desk takes one of its steps, unless it has to wait. -/
theorem work_steps (desk : Desk) (runner : Runner) (response : Remote.Response) :
    (desk.work runner response = desk ∧ desk.callsOn runner response = []) ∨
      ∃ run next between, desk.run? runner = some run ∧
        desk.Passage runner run response next between ∧
          Steps desk.policy run (desk.callsOn runner response) next ∧
            desk.work runner response = between.follow runner run next := by
  cases running : desk.run? runner with
  | none => exact Or.inl ⟨by simp [Desk.work, running], by simp [callsOn, running]⟩
  | some run =>
    cases calls : run.call? with
    | some call =>
      right
      have passage := @passage_of_call desk runner run response call calls
      refine ⟨run, _, _, rfl, passage, ?_, work_of_call running calls⟩
      have made : desk.callsOn runner response = [(call, (desk.perform call response).1)] := by
        simp only [callsOn, running, Option.bind_some, calls]
      have policy : (desk.perform call response).2.policy = desk.policy := by
        rw [passage.after_eq]
      have receives : Steps desk.policy run _ _ :=
        .calls calls (desk.takes_perform call response) (desk.perform call response).2.now
      rw [Run.receive, if_neg (perform_alive calls response)] at receives
      rw [made, policy]
      exact receives
    | none =>
      have silent : desk.callsOn runner response = [] := by
        simp only [callsOn, running, Option.bind_some, calls]
      rw [silent]
      cases phase : run.phase with
      | opening =>
        refine Or.inr ⟨run, _, _, rfl, passage_opening phase, .opens phase desk.now, ?_⟩
        simp [Desk.work, running, phase]
      | queueing prepared =>
        cases turn : desk.turns.hasTurn prepared.hash runner with
        | false =>
          left
          simp [Desk.work, running, phase, turn]
        | true =>
          have admitted : run.admitted = .goOn { run with phase := .lookingUp prepared } [] := by
            simp only [Run.admitted, phase, Run.goTo]
          refine Or.inr ⟨run, _, _, rfl, .admitted phase turn, admitted ▸ .admitted phase, ?_⟩
          simp [Desk.work, running, phase, turn, admitted]
      | repointing prepared known =>
        -- A run without the fingerprint of its prompt would never come this far.
        left
        simp [Desk.work, running, phase, calls]
      | _ => simp [Run.call?, phase] at calls

/-- The run of a runner after it has done what its run does next. -/
theorem run?_follow {desk : Desk} (sound : desk.board.Sound) {runner : Runner} {run : Run}
    (running : desk.run? runner = some run) (next : Next) :
    (desk.follow runner run next).run? runner =
      match next with | .goOn later _ => some later | .ended _ _ => none := by
  cases next with
  | goOn later notes =>
    have moved := run?_goOn running later notes runner
    rw [if_pos rfl] at moved
    rw [follow_goOn]
    exact (run?_congr runner (fun _ => rfl) rfl).trans moved
  | ended outcome notes =>
    have left := run?_conclude sound running outcome notes runner
    rwa [if_pos rfl] at left

/-! ## Histories -/

section History

variable {desk : Desk} {happenings : Nat → Happening} {runner : Runner}

/-- A runner that does not go on makes no call. -/
theorem callsAt_of_not_work {moment : Nat}
    (rests : ∀ response, happenings moment ≠ .act (.work runner response)) :
    desk.callsAt happenings runner moment = [] := by
  unfold callsAt
  split
  · next other response acts =>
    rw [if_neg]
    rintro rfl
    exact rests response acts
  · rfl

/-- A runner that goes on makes the call of its run. -/
theorem callsAt_of_work {moment : Nat} {response : Remote.Response}
    (acts : happenings moment = .act (.work runner response)) :
    desk.callsAt happenings runner moment =
      (desk.history happenings moment).callsOn runner response := by
  simp only [callsAt, acts, if_true]

/-- A run that goes on at the desk has played from its opening on, with the calls that its runner
has made since. -/
theorem played_of_running (sound : desk.board.Sound) (idle : ∀ runner, desk.run? runner = none)
    (count : Nat) {run : Run} (running : (desk.history happenings count).run? runner = some run) :
    ∃ first span begun notes, first + span = count ∧
      (desk.history happenings first).run? runner = some begun ∧ begun.phase = .opening ∧
        Plays desk.policy (.goOn begun []) (desk.callsFrom happenings runner first span) notes
          (.running run) := by
  induction count generalizing run with
  | zero =>
    rw [history, idle] at running
    cases running
  | succ count before =>
    have still := sound_history sound happenings count
    rw [history_succ] at running
    -- A runner that makes no call and has the run that it had has played no more than before.
    have rested : desk.callsAt happenings runner count = [] →
        (desk.history happenings count).run? runner = some run →
          ∃ first span begun notes, first + span = count + 1 ∧
            (desk.history happenings first).run? runner = some begun ∧ begun.phase = .opening ∧
              Plays desk.policy (.goOn begun []) (desk.callsFrom happenings runner first span) notes
                (.running run) := by
      intro silent had
      obtain ⟨first, span, begun, notes, rfl, began, opening, plays⟩ := before had
      refine ⟨first, span + 1, begun, notes, rfl, began, opening, ?_⟩
      rwa [callsFrom, silent, List.append_nil]
    by_cases acts : ∃ response, happenings count = .act (.work runner response)
    · obtain ⟨response, acts⟩ := acts
      rw [acts] at running
      have made := @callsAt_of_work desk _ _ _ _ acts
      rcases work_steps (desk.history happenings count) runner response with
        ⟨same, silent⟩ | ⟨earlier, next, between, ran, passage, steps, went⟩
      · rw [silent] at made
        exact rested made (by rwa [meet, act, same] at running)
      · rw [meet, act, went, run?_follow (by rw [passage.after_eq]; exact still)
          (by rw [passage.run?_eq, ran])] at running
        cases next with
        | ended outcome notes => cases running
        | goOn later more =>
          cases running
          obtain ⟨first, span, begun, notes, rfl, began, opening, plays⟩ := before ran
          rw [(constant_history desk happenings _).1] at steps
          have longer := plays.append (.step [] steps (.paused run more))
          refine ⟨first, span + 1, begun, notes ++ more, rfl, began, opening, ?_⟩
          rw [callsFrom, made]
          simpa using longer
    · have rests : ∀ response, happenings count ≠ .act (.work runner response) :=
        fun response same => acts ⟨response, same⟩
      have silent := @callsAt_of_not_work desk _ _ _ rests
      cases shift still (happenings count) with
      | aside runs _ => exact rested silent (by rwa [runs] at running)
      | @started other begun opening _ runs _ =>
        have now := running
        rw [runs] at running
        split at running
        · cases running
          exact ⟨count + 1, 0, run, [], rfl, by rwa [history_succ], opening, .paused run []⟩
        · exact rested silent running
      | @wentOn other _ next notes response _ goes _ _ runs _ _ =>
        rw [runs] at running
        split at running
        · next own =>
          subst own
          exact absurd goes (rests response)
        · exact rested silent running
      | ended _ _ _ runs _ | cut _ _ runs _ =>
        rw [runs] at running
        split at running
        · cases running
        · exact rested silent running

/-- When the run of a worker ends, it has played from its opening to its end with the calls that the
worker has made since, and its job has ended with the outcome. -/
theorem played_of_ended (sound : desk.board.Sound) (idle : ∀ runner, desk.run? runner = none)
    {worker last seq : Nat} {jobType : String} {run : Run} {response : Remote.Response}
    (does : (desk.history happenings last).board.Does worker jobType (.handling seq run))
    (acts : happenings last = .act (.work (.worker worker) response))
    (ends : (desk.history happenings (last + 1)).run? (.worker worker) = none) :
    ∃ first span begun notes outcome job, first + span = last + 1 ∧
      (desk.history happenings first).run? (.worker worker) = some begun ∧ begun.phase = .opening ∧
      Plays desk.policy (.goOn begun [])
        (desk.callsFrom happenings (.worker worker) first span) notes (.ended outcome) ∧
      (∀ failure, outcome = .error failure → failure.Tells) ∧
      (desk.history happenings last).board.job? jobType seq = some job ∧ job.status = .processing ∧
      ∃ more, (desk.history happenings (last + 1)).board.job? jobType seq =
        some (Jobs.Board.ended (job.noteAll more) (desk.history happenings last).now outcome) := by
  have still := sound_history sound happenings last
  have running := run?_worker.mpr ⟨jobType, seq, does⟩
  obtain ⟨first, span, begun, notes, rfl, began, opening, plays⟩ :=
    played_of_running sound idle last running
  have made := @callsAt_of_work desk _ _ _ _ acts
  have after := history_succ desk happenings (first + span)
  rw [acts, meet, act] at after
  rcases work_steps (desk.history happenings (first + span)) (.worker worker) response with
    ⟨same, silent⟩ | ⟨earlier, next, between, ran, passage, steps, went⟩
  · rw [after, same, running] at ends
    cases ends
  · rw [running] at ran
    cases ran
    have kept : between.board.Sound := by
      rw [passage.after_eq]
      exact still
    have runs : between.run? (.worker worker) = some run := by rw [passage.run?_eq, running]
    rw [after, went, run?_follow kept runs] at ends
    cases next with
    | goOn later more => cases ends
    | ended outcome more =>
      have tells : ∀ failure, outcome = .error failure → failure.Tells := by
        rintro failure rfl
        exact passage.failed.1
      have alive : outcome ≠ .error .cancelled := fun same => (tells _ same).alive rfl
      have handles : between.board.Does worker jobType (.handling seq run) := by
        rw [passage.after_eq]
        exact does
      obtain ⟨job, found, processing, ended⟩ := job_of_ended kept handles alive more
      rw [(constant_history desk happenings _).1] at steps
      have whole := plays.append (.step [] steps (.closed outcome more))
      refine ⟨first, span + 1, begun, notes ++ more, outcome, job, rfl, began, opening, ?_, tells,
        ?_, processing, more, ?_⟩
      · rw [callsFrom, made]
        simpa using whole
      · rw [← found, passage.after_eq]
      · rw [after, went, ended, passage.after_eq]

end History

/-- Somebody asks a question, and a worker takes its job and goes on with it; the planner answers
with a text. -/
def answeredWith (text : String) : Nat → Happening
  | 0 => .act (.come "How many?" none)
  | 1 | 2 | 3 | 4 => .act (.visit 0)
  | 5 => .act (.take 0)
  | 7 => .act (.work (.worker 0) (.answer 200 text))
  | _ => .act (.work (.worker 0) (.answer 200 ""))

end QuestionDesk.Desk
