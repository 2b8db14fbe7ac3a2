import QuestionDesk.Proofs.Desk.Passage
import QuestionDesk.Proofs.Jobs.Board

/-!
# Runs at the desk

Which runs there are, and how each action changes them. A worker carries out the run of the job that
it handles, and whoever runs a job by hand carries out one run.
-/
namespace QuestionDesk.Desk

open Jobs (Activity Board Job Worker)
open Pipeline (Next Prepared Run Runner Turns)

/-! ## Who carries out which run -/

/-- A worker carries out the run of the job that it handles. -/
theorem run?_worker {desk : Desk} {index : Nat} {run : Run} :
    desk.run? (.worker index) = some run ↔
      ∃ jobType seq, desk.board.Does index jobType (.handling seq run) := by
  simp only [run?]
  constructor
  · intro running
    split at running
    · next jobType seq other found =>
      cases running
      exact ⟨jobType, seq, found⟩
    · cases running
  · rintro ⟨jobType, seq, does⟩
    simp only [does]

/-- Whoever runs a job by hand carries out its run until it has ended. -/
theorem run?_hand {desk : Desk} {number : Nat} {run : Run} :
    desk.run? (.hand number) = some run ↔
      ∃ notes, desk.hands[number]? = some ⟨notes, .running run⟩ := by
  simp only [run?]
  constructor
  · intro running
    split at running
    · next notes other found =>
      cases running
      exact ⟨notes, found⟩
    · cases running
  · rintro ⟨notes, found⟩
    simp only [found]

/-- Two runners that carry out the same runs agree. -/
theorem run?_ext {desk after : Desk} {runner other : Runner}
    (same : ∀ run, after.run? runner = some run ↔ desk.run? other = some run) :
    after.run? runner = desk.run? other := by
  cases running : desk.run? other with
  | some run => exact (same run).mpr running
  | none =>
    cases found : after.run? runner with
    | none => rfl
    | some run => exact absurd ((same run).mp found) (by simp [running])

/-- The runs depend on the workers and on the jobs that are run by hand alone. -/
theorem run?_congr {desk after : Desk} (runner : Runner)
    (workers : ∀ index : Nat, after.board.workers[index]? = desk.board.workers[index]?)
    (hands : after.hands = desk.hands) : after.run? runner = desk.run? runner := by
  cases runner with
  | worker index => simp only [run?, workers index]
  | hand number => simp only [run?, hands]

/-- A worker that does not handle a job carries out no run. -/
theorem run?_worker_none {desk : Desk} {index : Nat}
    (free : ∀ jobType seq run, ¬desk.board.Does index jobType (.handling seq run)) :
    desk.run? (.worker index) = none := by
  cases running : desk.run? (.worker index) with
  | none => rfl
  | some run =>
    obtain ⟨jobType, seq, does⟩ := run?_worker.mp running
    exact absurd does (free jobType seq run)

/-- The run of a worker after it has turned to something else, while all others go on. -/
theorem run?_of_workers {desk after : Desk} {worker : Nat} {jobType : String}
    {activity : Activity Run} (runner : Runner)
    (workers : ∀ index : Nat, after.board.workers[index]? =
      if index = worker then some { jobType, activity } else desk.board.workers[index]?)
    (hands : after.hands = desk.hands) :
    after.run? runner = if runner = .worker worker then
      (match activity with | .handling _ run => some run | _ => none) else desk.run? runner := by
  cases runner with
  | hand number => simp [run?, hands]
  | worker index =>
    by_cases own : index = worker
    · subst own
      simp only [run?, workers, if_true]
      cases activity <;> rfl
    · simp [run?, workers, own]

/-- The query that a runner has the executor run, if it does. -/
def executing? (desk : Desk) (runner : Runner) : Option Prepared :=
  match (desk.run? runner).map Run.phase with
  | some (.executing prepared) => some prepared
  | _ => none

/-- A runner has the executor run a query while its run is in the phase of that name. -/
theorem executing?_eq_some {desk : Desk} {runner : Runner} {prepared : Prepared} :
    desk.executing? runner = some prepared ↔
      ∃ run, desk.run? runner = some run ∧ run.phase = .executing prepared := by
  unfold executing?
  cases running : desk.run? runner with
  | none => simp
  | some run =>
    simp only [Option.map_some, Option.some.injEq, exists_eq_left']
    cases phase : run.phase <;> simp

/-! ## Going on -/

/-- The turns do not change when a run notes something and goes on. -/
theorem turns_goOn (desk : Desk) (runner : Runner) (next : Run) (notes : Fields) :
    (desk.goOn runner next notes).turns = desk.turns := by
  cases runner <;> rfl

/-- The store does not change when a run notes something and goes on. -/
theorem store_goOn (desk : Desk) (runner : Runner) (next : Run) (notes : Fields) :
    (desk.goOn runner next notes).store = desk.store := by
  cases runner <;> rfl

/-- The runs after one of them went on. -/
theorem run?_goOn {desk : Desk} {runner : Runner} {run : Run}
    (running : desk.run? runner = some run) (next : Run) (notes : Fields) (other : Runner) :
    (desk.goOn runner next notes).run? other =
      if other = runner then some next else desk.run? other := by
  cases runner with
  | worker index =>
    obtain ⟨jobType, seq, does⟩ := run?_worker.mp running
    have workers : ∀ position, (desk.goOn (.worker index) next notes).board.workers[position]? =
        if position = index then some { jobType, activity := .handling seq next }
        else desk.board.workers[position]? := by
      intro position
      simp only [goOn]
      rw [Board.goOn_eq desk.board does, Board.workers_advanced desk.board does]
    exact run?_of_workers other workers rfl
  | hand number =>
    obtain ⟨notes', found⟩ := run?_hand.mp running
    cases other with
    | worker index => simp [run?, goOn, withHand]
    | hand position =>
      by_cases own : position = number
      · subst own
        simp [run?, goOn, withHand, found, Hand.note]
      · have apart : ¬number = position := fun same => own same.symm
        simp [run?, goOn, withHand, own, apart]

/-! ## Ending -/

/-- The turns after a run has left its line, if it stood in one. -/
def turnsWithout (desk : Desk) (runner : Runner) (run : Run) : Turns :=
  match run.phase.prepared? with
  | some prepared => desk.turns.leave prepared.hash runner
  | none => desk.turns

/-- Who leaves a line changes nothing but the turns. -/
theorem leaveLine_eq (desk : Desk) (runner : Runner) (run : Run) :
    desk.leaveLine runner run = { desk with turns := desk.turnsWithout runner run } := by
  unfold leaveLine turnsWithout
  cases run.phase.prepared? <;> rfl

/-- The turns after a run has ended. -/
theorem turns_conclude (desk : Desk) (runner : Runner) (run : Run)
    (outcome : Except Failure Value) (notes : Fields) :
    (desk.conclude runner run outcome notes).turns = desk.turnsWithout runner run := by
  cases runner <;> simp [conclude, leaveLine_eq, withHand]

/-- The store after a run has ended. -/
theorem store_conclude (desk : Desk) (runner : Runner) (run : Run)
    (outcome : Except Failure Value) (notes : Fields) :
    (desk.conclude runner run outcome notes).store = desk.store := by
  cases runner <;> simp [conclude, leaveLine_eq, withHand]

/-- The run of somebody who runs a job by hand, after it has ended. -/
theorem run?_withHand_ended {desk : Desk} {number : Nat} (other : Runner) (change : Hand → Hand)
    (ends : ∀ hand, ∃ outcome, (change hand).phase = .ended outcome) :
    (desk.withHand number change).run? other =
      if other = .hand number then none else desk.run? other := by
  cases other with
  | worker index => simp [run?, withHand]
  | hand position =>
    by_cases own : position = number
    · subst own
      cases found : desk.hands[position]? with
      | none => simp [run?, withHand, found]
      | some hand =>
        obtain ⟨outcome, ended⟩ := ends hand
        simp only [run?, withHand, List.getElem?_modify, found, if_true]
        split
        · next notes run same =>
          have same : change hand = ⟨notes, .running run⟩ := Option.some.inj same
          rw [same] at ended
          cases ended
        · rfl
    · have apart : ¬number = position := fun same => own same.symm
      simp [run?, withHand, own, apart]

/-- The runs after one of them has ended. -/
theorem run?_conclude {desk : Desk} (sound : desk.board.Sound) {runner : Runner} {run : Run}
    (running : desk.run? runner = some run) (outcome : Except Failure Value) (notes : Fields)
    (other : Runner) :
    (desk.conclude runner run outcome notes).run? other =
      if other = runner then none else desk.run? other := by
  cases runner with
  | worker index =>
    obtain ⟨jobType, seq, does⟩ := run?_worker.mp running
    have still : (desk.board.goOn index run notes).Does index jobType (.handling seq run) := by
      rw [Board.goOn_eq desk.board does, Board.Does, Board.workers_advanced desk.board does,
        if_pos rfl]
    obtain ⟨next, free, workers⟩ :=
      (sound.goOn index run notes).workers_finish still desk.now outcome
    have all : ∀ position,
        (desk.conclude (.worker index) run outcome notes).board.workers[position]? =
          if position = index then some { jobType, activity := next }
          else desk.board.workers[position]? := by
      intro position
      simp only [conclude, leaveLine_eq]
      rw [workers position, Board.goOn_eq desk.board does, Board.workers_advanced desk.board does]
      split <;> rfl
    rw [run?_of_workers other all (by simp [conclude, leaveLine_eq])]
    split
    · cases next with
      | handling other progress => exact absurd rfl (free other progress)
      | _ => rfl
    · rfl
  | hand number =>
    simp only [conclude, leaveLine_eq]
    rw [run?_withHand_ended other _ fun _ => ⟨outcome, rfl⟩]
    split
    · rfl
    · exact run?_congr other (fun _ => rfl) rfl

/-- The runs after one of them was cut off. -/
theorem run?_cut {desk : Desk} {runner : Runner} {run : Run}
    (running : desk.run? runner = some run) (other : Runner) :
    (desk.cut runner).run? other = if other = runner then none else desk.run? other := by
  cases runner with
  | worker index =>
    obtain ⟨jobType, seq, does⟩ := run?_worker.mp running
    have all : ∀ position, (desk.cut (.worker index)).board.workers[position]? =
        if position = index then some { jobType, activity := .gone }
        else desk.board.workers[position]? := by
      intro position
      simp only [cut, running, leaveLine_eq]
      rw [Board.workers_kill, Board.goOn_eq desk.board does,
        Board.workers_advanced desk.board does]
      split <;> rfl
    rw [run?_of_workers other all (by simp [cut, running, leaveLine_eq])]
  | hand number =>
    simp only [cut, running, leaveLine_eq]
    rw [run?_withHand_ended other _ fun _ => ⟨_, rfl⟩]
    split
    · rfl
    · exact run?_congr other (fun _ => rfl) rfl

/-- The turns after a run was cut off. -/
theorem turns_cut {desk : Desk} {runner : Runner} {run : Run}
    (running : desk.run? runner = some run) :
    (desk.cut runner).turns = desk.turnsWithout runner run := by
  cases runner <;> simp [cut, running, leaveLine_eq, withHand]

/-- Nothing is announced to the runs. -/
theorem announce_eq (desk : Desk) (job : Job) :
    ∃ relay, desk.announce job = { desk with relay } := by
  unfold announce
  split
  · exact ⟨_, rfl⟩
  · exact ⟨desk.relay, rfl⟩

/-- Who is cut off without carrying out a run only goes. -/
theorem cut_of_none {desk : Desk} {runner : Runner} (free : desk.run? runner = none) :
    desk.cut runner = desk ∨ ∃ index relay, runner = .worker index ∧
      desk.cut runner = { desk with relay, board := desk.board.kill index } := by
  unfold cut
  rw [free]
  cases runner with
  | hand number => exact Or.inl rfl
  | worker index =>
    right
    simp only [dismiss]
    split
    · next listener job telling =>
      split
      · obtain ⟨relay, told⟩ := desk.announce_eq job
        rw [told]
        exact ⟨index, relay, rfl, rfl⟩
      · exact ⟨index, desk.relay, rfl, rfl⟩
    · exact ⟨index, desk.relay, rfl, rfl⟩

/-- Whoever is cut off leaves the line, and a worker goes for good, after the last notes of its run
are written. -/
theorem cut_cases (desk : Desk) (runner : Runner) : ∃ turns relay board hands,
    desk.cut runner = { desk with turns, relay, board, hands } ∧
      (board = desk.board ∨ ∃ index, runner = .worker index ∧
        (board = desk.board.kill index ∨ ∃ run notes, desk.run? runner = some run ∧
          board = (desk.board.goOn index run notes).kill index)) := by
  cases running : desk.run? runner with
  | none =>
    rcases cut_of_none running with same | ⟨index, relay, own, gone⟩
    · exact ⟨_, _, _, _, same, Or.inl rfl⟩
    · exact ⟨_, _, _, _, gone, Or.inr ⟨index, own, Or.inl rfl⟩⟩
  | some run =>
    simp only [cut, running, leaveLine_eq]
    cases runner with
    | worker index => exact ⟨_, _, _, _, rfl, Or.inr ⟨index, rfl, Or.inr ⟨run, _, rfl, rfl⟩⟩⟩
    | hand number => exact ⟨_, _, _, _, rfl, Or.inl rfl⟩

/-- A subscription changes the relay alone. -/
theorem subscribe_eq (desk : Desk) (questionId sink : String) :
    ∃ relay, (desk.subscribe questionId sink).2 = { desk with relay } := by
  unfold subscribe
  split
  · exact ⟨desk.relay, rfl⟩
  · split
    · exact ⟨desk.relay, rfl⟩
    · exact ⟨_, rfl⟩

/-- The promoter changes the database, and remembers that it ran. -/
theorem promote_eq (desk : Desk) :
    ∃ database promoter, desk.promote = { desk with database, promoter } := by
  unfold promote
  split
  · exact ⟨_, _, rfl⟩
  · exact ⟨desk.database, desk.promoter, rfl⟩

end QuestionDesk.Desk
