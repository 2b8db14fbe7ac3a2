import QuestionDesk.Proofs.Desk.History
import QuestionDesk.Proofs.Jobs.Lives

/-!
# The chronicle of a desk

Whatever happens to a desk, its board goes through a chronicle: each action of the desk is made of
steps at the board, and nothing else changes it. So what holds in every chronicle holds of the jobs
of every desk.
-/
namespace QuestionDesk

open Jobs (Chronicle Floor Job Step)
open Pipeline (Run Runner)

/-- The steps at the board that an action may be made of: only a visit asks for a job, which is about
a question and its prompt, jobs are removed on purpose only by cleaning, and the clock does not go
back. -/
def Action.Makes (action : Action) (step : Step Run Listener) : Prop :=
  step.Onward ∧ match step with
    | .create _ _ given _ => ∃ number questionId prompt,
      action = .visit number ∧ given = Desk.payload questionId prompt
    | .clean olderThan => action = .clean olderThan
    | _ => True

namespace Desk

/-- The board of a desk and the moment. -/
def floor (desk : Desk) : Floor Run Listener := ⟨desk.now, desk.board⟩

/-- One floor becomes another one by some steps of a kind. -/
def Follows (kind : Step Run Listener → Prop) (floor after : Floor Run Listener) : Prop :=
  ∃ steps : List (Step Run Listener), steps.foldl Floor.step floor = after ∧
    ∀ step ∈ steps, kind step

namespace Follows

variable {kind : Step Run Listener → Prop} {floor between after : Floor Run Listener}

/-- No step is needed where nothing changes. -/
theorem of_eq (same : after = floor) : Follows kind floor after := ⟨[], same.symm, by simp⟩

/-- One step is enough for what it brings about. -/
theorem of_step (step : Step Run Listener) (allowed : kind step)
    (same : floor.step step = after) : Follows kind floor after :=
  ⟨[step], same, by simpa using allowed⟩

/-- Steps come after steps. -/
theorem trans (first : Follows kind floor between) (second : Follows kind between after) :
    Follows kind floor after := by
  obtain ⟨earlier, rfl, before⟩ := first
  obtain ⟨later, rfl, behind⟩ := second
  refine ⟨earlier ++ later, List.foldl_append, fun step member => ?_⟩
  exact (List.mem_append.mp member).elim (before step) (behind step)

/-- The steps of an action go on. -/
theorem onward {action : Action} (follows : Follows action.Makes floor after) :
    Follows Step.Onward floor after := by
  obtain ⟨steps, went, makes⟩ := follows
  exact ⟨steps, went, fun step member => (makes step member).1⟩

/-- The clock does not go back. -/
theorem now_le (follows : Follows Step.Onward floor after) : floor.now ≤ after.now := by
  obtain ⟨steps, rfl, onward⟩ := follows
  induction steps generalizing floor with
  | nil => exact Int.le_refl _
  | cons step rest ih =>
    exact Int.le_trans (Floor.now_step (onward step List.mem_cons_self))
      (ih fun other member => onward other (List.mem_cons_of_mem _ member))

/-- Jobs that have ended are kept for as long as before. -/
theorem retention (follows : Follows kind floor after) :
    after.board.retention = floor.board.retention := by
  obtain ⟨steps, rfl, -⟩ := follows
  induction steps generalizing floor with
  | nil => rfl
  | cons step rest ih =>
    exact ih.trans (Floor.retention_step floor step)

/-- A job that has ended stays on the board as it is, but for its notes, unless jobs are removed on
purpose, or the action is a visit and the job has been kept for the retention. -/
theorem keeps_ended {action : Action} (follows : Follows action.Makes floor after)
    (sound : floor.board.Sound) (uncleaned : ∀ olderThan, action ≠ .clean olderThan)
    {span ended : Micros} (lasting : floor.board.retention = some span) {jobType : String}
    {seq : Nat} {job : Job} (found : floor.board.job? jobType seq = some job)
    (finished : job.finishedOn = some ended) :
    (∃ later, after.board.job? jobType seq = some later ∧ job.Alike later) ∨
      (∃ number, action = .visit number) ∧ ended + span ≤ after.now := by
  obtain ⟨steps, rfl, makes⟩ := follows
  induction steps generalizing floor job with
  | nil => exact Or.inl ⟨job, found, .refl job⟩
  | cons step rest ih =>
    have terminal : job.isTerminal = true := by rw [Job.isTerminal, finished]; rfl
    rcases Floor.ended_stays sound step found terminal with ⟨later, here, alike⟩ | removes
    · refine (ih (Floor.sound_step sound step) ((Floor.retention_step _ _).trans lasting) here
        (by rw [alike]; exact finished) fun other member =>
          makes other (List.mem_cons_of_mem _ member)).imp_left ?_
      rintro ⟨last, there, same⟩
      exact ⟨last, there, alike.trans same⟩
    · obtain ⟨-, allowed⟩ := makes step List.mem_cons_self
      rcases removes with ⟨olderThan, rfl⟩ | ⟨⟨_, _, _, _, rfl⟩, moment, length, same, kept, past⟩
      · exact absurd allowed (uncleaned olderThan)
      · cases finished.symm.trans same
        cases lasting.symm.trans kept
        have later : Follows action.Makes floor _ := ⟨_, rfl, makes⟩
        obtain ⟨number, _, _, visits, _⟩ := allowed
        exact Or.inr ⟨⟨number, visits⟩, Int.le_trans past later.onward.now_le⟩

/-- Every job on the board is about a question and its prompt, as long as every job was. -/
theorem keeps_posed {action : Action} (follows : Follows action.Makes floor after)
    (sound : floor.board.Sound) (posed : ∀ jobType seq job,
      floor.board.job? jobType seq = some job → ∃ questionId prompt,
        job.payload = payload questionId prompt) {jobType : String} {seq : Nat} {job : Job}
    (found : after.board.job? jobType seq = some job) :
    ∃ questionId prompt, job.payload = payload questionId prompt := by
  obtain ⟨steps, rfl, makes⟩ := follows
  induction steps generalizing floor with
  | nil => exact posed jobType seq job found
  | cons step rest ih =>
    refine ih (Floor.sound_step sound step) (fun kind number other here => ?_)
      (fun other member => makes other (List.mem_cons_of_mem _ member)) found
    rcases Floor.payload_step sound step here with ⟨_, _, _, rfl⟩ | ⟨before, there, same⟩
    · obtain ⟨-, number, questionId, prompt, -, asks⟩ := makes _ List.mem_cons_self
      exact ⟨questionId, prompt, asks⟩
    · rw [← same]
      exact posed kind number before there

end Follows

variable (desk : Desk)

/-! ## Actions -/

/-- A runner that goes on, or ends its run, makes steps at the board. -/
theorem follows_follow {action : Action} (runner : Runner) (run : Run) (next : Pipeline.Next) :
    Follows action.Makes desk.floor (desk.follow runner run next).floor := by
  cases next with
  | goOn next notes =>
    rw [follow_goOn]
    cases runner with
    | worker index => exact .of_step (.goOn index next notes) ⟨trivial, trivial⟩ rfl
    | hand number => exact .of_eq rfl
  | ended outcome notes =>
    simp only [follow, conclude, leaveLine_eq]
    cases runner with
    | worker index =>
      exact (Follows.of_step (.goOn index run notes) ⟨trivial, trivial⟩ rfl).trans
        (.of_step (.finish index outcome) ⟨trivial, trivial⟩ rfl)
    | hand number => exact .of_eq rfl

/-- A run that goes on makes steps at the board. -/
theorem follows_work (runner : Runner) (response : Remote.Response) :
    Follows (Action.work runner response).Makes desk.floor (desk.work runner response).floor := by
  rcases desk.work_cases runner response with same | ⟨run, next, between, -, passage, went⟩
  · exact .of_eq (by rw [same])
  · have unmoved : between.floor = desk.floor := by rw [passage.after_eq, floor, floor]
    rw [went, ← unmoved]
    exact between.follows_follow runner run next

/-- A visit that goes on asks for a job at most. -/
theorem follows_visit (number : Nat) :
    Follows (Action.visit number).Makes desk.floor (desk.visit number).floor := by
  obtain ⟨visits, named, database, board, store, went, boards, -⟩ := desk.visit_cases number
  rw [went]
  rcases boards with rfl | ⟨questionId, prompt, rfl⟩
  · exact .of_eq rfl
  · exact .of_step (.create questionJobType questionId (payload questionId prompt) true)
      ⟨trivial, number, questionId, prompt, rfl, rfl⟩ rfl

/-- A worker that tells a listener makes a step at the board. -/
theorem follows_tell (worker : Nat) :
    Follows (Action.tell worker).Makes desk.floor (desk.tell worker).floor := by
  obtain ⟨board, database, relay, told, boards⟩ := desk.tell_cases worker
  rw [told]
  rcases boards with rfl | ⟨outcome, rfl⟩
  · exact .of_eq rfl
  · exact .of_step (.notified worker outcome) ⟨trivial, trivial⟩ rfl

/-- A runner that is cut off makes steps at the board. -/
theorem follows_cut (runner : Runner) :
    Follows (Action.cut runner).Makes desk.floor (desk.cut runner).floor := by
  obtain ⟨turns, relay, board, hands, gone, boards⟩ := desk.cut_cases runner
  rw [gone]
  rcases boards with rfl | ⟨index, _, rfl | ⟨run, notes, _, rfl⟩⟩
  · exact .of_eq rfl
  · exact .of_step (.kill index) ⟨trivial, trivial⟩ rfl
  · exact (Follows.of_step (.goOn index run notes) ⟨trivial, trivial⟩ rfl).trans
      (.of_step (.kill index) ⟨trivial, trivial⟩ rfl)

/-- Every action of a desk is made of steps at its board. -/
theorem follows_act (action : Action) :
    Follows action.Makes desk.floor (desk.act action).floor := by
  cases action with
  | visit number => exact desk.follows_visit number
  | take worker =>
    exact .of_step (.take worker fun job => Run.start desk.now job.id job.payload)
      ⟨trivial, trivial⟩ rfl
  | work runner response => exact desk.follows_work runner response
  | tell worker => exact desk.follows_tell worker
  | cut runner => exact desk.follows_cut runner
  | clean olderThan => exact .of_step (.clean olderThan) ⟨trivial, rfl⟩ rfl
  | pass span => exact .of_step (.pass span) ⟨Int.natCast_nonneg span, trivial⟩ rfl
  | subscribe questionId sink =>
    obtain ⟨relay, went⟩ := desk.subscribe_eq questionId sink
    rw [act, went]
    exact .of_eq rfl
  | promote =>
    obtain ⟨database, promoter, went⟩ := desk.promote_eq
    rw [act, went]
    exact .of_eq rfl
  | _ => exact .of_eq rfl

/-- Closing a desk down is made of steps at its board. -/
theorem follows_closeDown : Follows Step.Onward desk.floor desk.closeDown.2.floor := by
  have cuts : ∀ (runners : List Runner) (desk : Desk),
      Follows Step.Onward desk.floor (runners.foldl cut desk).floor := by
    intro runners
    induction runners with
    | nil => exact fun _ => .of_eq rfl
    | cons runner rest ih => exact fun desk => (desk.follows_cut runner).onward.trans (ih _)
  unfold closeDown
  split
  · exact .of_eq rfl
  · next promoter _ =>
    have cutOff := cuts ((List.range desk.board.workers.length).map .worker) { desk with promoter }
    refine cutOff.trans ?_
    exact (Follows.of_step .close trivial rfl).trans (.of_step (.clean none) trivial rfl)

/-- Whatever happens to a desk is made of steps at its board. -/
theorem follows_meet (happening : Happening) :
    Follows Step.Onward desk.floor (desk.meet happening).floor := by
  cases happening with
  | act action => exact (desk.follows_act action).onward
  | rewriteStore store => exact .of_eq rfl
  | rewriteDatabase database => exact .of_eq rfl

/-! ## Histories -/

/-- A desk that has just been set up has engaged its workers and has two listeners. -/
theorem follows_start {settings : Settings} {desk : Desk} (started : start settings = .ok desk) :
    Follows Step.Onward ⟨0, { retention := some (Micros.ofSeconds settings.cacheTtlSeconds) }⟩
      desk.floor := by
  obtain ⟨staffed, engaged, rfl⟩ := start_eq started
  refine ⟨[.register questionJobType settings.jobConcurrency, .subscribe .completed .completion,
    .subscribe .failed .failure], ?_, by simp [Step.Onward]⟩
  simp only [List.foldl_cons, List.foldl_nil, Floor.step, engaged]
  rfl

/-- The board of a desk that was just set up goes through a chronicle, in which its moments come one
after the other. -/
theorem exists_chronicle {settings : Settings} {desk : Desk} (started : start settings = .ok desk)
    (happenings : Nat → Happening) (last : Nat) :
    ∃ (chronicle : Chronicle Run Listener) (moments : Nat → Nat), chronicle.Forward ∧
      (∀ earlier later, earlier ≤ later → moments earlier ≤ moments later) ∧ ∀ count, count ≤ last →
        chronicle.floor (moments count) = (desk.history happenings count).floor := by
  obtain ⟨setup, begun, forward⟩ := follows_start started
  obtain ⟨parts, spec⟩ := Classical.axiomOfChoice fun count =>
    (desk.history happenings count).follows_meet (happenings count)
  -- All steps up to a moment, which begin with all steps up to any moment before it.
  have steps : ∃ all : Nat → List (Step Run Listener), all 0 = setup ∧
      ∀ count, all (count + 1) = all count ++ parts count :=
    ⟨fun count => setup ++ (List.range count).flatMap parts, by simp, fun count => by
      simp [List.range_succ, List.flatMap_append]⟩
  obtain ⟨all, first, more⟩ := steps
  have floors : ∀ count, (all count).foldl Floor.step
      ⟨0, { retention := some (Micros.ofSeconds settings.cacheTtlSeconds) }⟩ =
        (desk.history happenings count).floor := by
    intro count
    induction count with
    | zero => rw [first, begun, history]
    | succ count ih => rw [more, List.foldl_append, ih, (spec count).1, history]
  have onward : ∀ count, ∀ step ∈ all count, step.Onward := by
    intro count step member
    induction count with
    | zero => exact forward step (first ▸ member)
    | succ count ih =>
      rw [more] at member
      exact (List.mem_append.mp member).elim ih ((spec count).2 step)
  have begins : ∀ earlier later, earlier ≤ later → all earlier <+: all later := by
    intro earlier later order
    induction order with
    | refl => exact List.prefix_rfl
    | @step later order ih => exact ih.trans (more later ▸ List.prefix_append _ _)
  refine ⟨.ofList (some (Micros.ofSeconds settings.cacheTtlSeconds)) 0 (all last),
    fun count => (all count).length, Chronicle.forward_ofList (onward last),
    fun earlier later order => (begins earlier later order).length_le, fun count within => ?_⟩
  have start := begins count last within
  rw [Chronicle.floor_ofList _ _ _ start.length_le, ← List.prefix_iff_eq_take.mp start, floors]

/-- A job of a desk that has ended stays on the board as it is, but for its notes, or is gone. -/
theorem ended_job_stays {settings : Settings} {desk : Desk} (started : start settings = .ok desk)
    (happenings : Nat → Happening) {earlier later : Nat} (order : earlier ≤ later)
    {jobType : String} {seq : Nat} {job : Job}
    (found : (desk.history happenings earlier).board.job? jobType seq = some job)
    (ended : job.isTerminal = true) :
    (desk.history happenings later).board.job? jobType seq = none ∨
      ∃ after, (desk.history happenings later).board.job? jobType seq = some after ∧
        job.Alike after := by
  obtain ⟨chronicle, moments, -, onward, floors⟩ := exists_chronicle started happenings later
  have boards : ∀ count, count ≤ later →
      chronicle.board (moments count) = (desk.history happenings count).board :=
    fun count within => congrArg Floor.board (floors count within)
  rw [← boards earlier order] at found
  obtain ⟨after, there, -, alike⟩ :=
    Chronicle.seen_later (onward earlier later order) (Chronicle.seen?_of_found found)
  rw [← boards later (Nat.le_refl later)]
  rcases (Chronicle.seen_of_seen? there).here with here | ⟨gone, -⟩
  · exact Or.inr ⟨after, here, alike ended⟩
  · exact Or.inl gone

end Desk

end QuestionDesk
