import QuestionDesk.Proofs.Jobs.Chronicle

/-!
# Masks

A mask takes away some of what is noted on jobs and of how far handlers have come. What happens at
a board happens at the masked board in the same way: masking it before or after comes to the same.
So nothing that a mask takes away has a part in which jobs there are, who takes them, what is told
about them, or how they end.
-/
namespace QuestionDesk

namespace Keyed

variable {α β : Type} (things : Keyed α) (change : α → β)

/-- Things with each one changed. -/
def mapped : Keyed β := things.map fun entry => (entry.1, change entry.2)

/-- What stands under a name is what stood there, changed. -/
theorem find?_mapped (name : String) :
    (things.mapped change).find? name = (things.find? name).map change := by
  induction things with
  | nil => rfl
  | cons entry rest before =>
    obtain ⟨key, held⟩ := entry
    simp only [mapped, find?, List.map_cons, List.lookup_cons] at before ⊢
    split
    · rfl
    · exact before

/-- The names are the same. -/
theorem has_mapped (name : String) : (things.mapped change).has name = things.has name := by
  rw [has, has, find?_mapped, Option.isSome_map]

/-- Writing a thing and changing all comes to the same as writing the changed thing. -/
theorem put_mapped (name : String) (thing : α) :
    (things.put name thing).mapped change = (things.mapped change).put name (change thing) := by
  induction things with
  | nil => rfl
  | cons entry rest before =>
    simp only [mapped, put, List.map_cons] at before ⊢
    split
    · rfl
    · rw [List.map_cons, before]

end Keyed

/-- Changing one item of a list and mapping all of them comes to the same in either order. -/
theorem map_modify {α β : Type} (items : List α) (place : Nat) {change : α → α} {other : β → β}
    {view : α → β} (same : ∀ item, view (change item) = other (view item)) :
    (items.modify place change).map view = (items.map view).modify place other := by
  apply List.ext_getElem?
  intro index
  simp only [List.getElem?_map, List.getElem?_modify]
  cases items[index]? with
  | none => rfl
  | some item =>
    split
    · exact congrArg some (same item)
    · rfl

namespace Jobs

variable {π ℓ : Type}

/-- Notes written behind one another. -/
abbrev written (earlier more : Fields) : Fields :=
  more.foldl (fun all field => all.set field.1 field.2) earlier

/-- What is taken away from the notes of jobs and from the progress of handlers. -/
structure Mask (π : Type) where
  /-- What is left of notes. -/
  notes : Fields → Fields
  /-- What is left of a progress. -/
  progress : π → π
  /-- Where there are no notes none are left. -/
  notes_nil : notes [] = []
  /-- What is left of notes written one after another are the notes that are left of them. -/
  notes_written : ∀ earlier more,
    notes (written earlier more) = written (notes earlier) (notes more)
  /-- What is left of notes stays. -/
  notes_notes : ∀ fields, notes (notes fields) = notes fields
  /-- What is left of a progress stays. -/
  progress_progress : ∀ come, progress (progress come) = progress come

variable (mask : Mask π)

/-! ## Jobs and lanes -/

/-- A masked job. -/
def Job.masked (job : Job) : Job := job.revised mask.notes

/-- A masked job has noted what is left of its notes. -/
theorem Job.masked_noteAll (job : Job) (more : Fields) :
    (job.noteAll more).masked mask = (job.masked mask).noteAll (mask.notes more) := by
  rw [Job.noteAll_eq, Job.noteAll_eq]
  exact congrArg (fun notes => { job with notes }) (mask.notes_written job.notes more)

/-- Masking a job again changes nothing. -/
theorem Job.masked_masked (job : Job) : (job.masked mask).masked mask = job.masked mask :=
  congrArg (fun notes => { job with notes }) (mask.notes_notes job.notes)

namespace Lane

variable (lane : Lane)

/-- A masked lane. -/
def masked : Lane := { lane with jobs := lane.jobs.map (·.masked mask) }

/-- The job of a number in a masked lane. -/
theorem job?_masked (seq : Nat) :
    (lane.masked mask).job? seq = (lane.job? seq).map (·.masked mask) := by
  rw [job?, masked, List.find?_map]
  rfl

/-- A job is changed in a masked lane. -/
theorem update_masked (seq : Nat) (change other : Job → Job)
    (same : ∀ job, (change job).masked mask = other (job.masked mask)) :
    (lane.update seq change).masked mask = (lane.masked mask).update seq other := by
  simp only [update, masked, List.map_map]
  congr 1
  apply List.map_congr_left
  intro job _
  simp only [Function.comp_apply, apply_ite (Job.masked mask), same]
  rfl

/-- The jobs that do not stay leave a masked lane. -/
theorem prune_masked (cutoff : Option Micros) :
    (lane.prune cutoff).masked mask = (lane.masked mask).prune cutoff := by
  simp only [prune, masked, List.filter_map]
  rfl

/-- The newest of several masked jobs. -/
theorem newest_masked (jobs : List Job) :
    newest (jobs.map (·.masked mask)) = (newest jobs).map (·.masked mask) := by
  have step : ∀ known : Option Job, ∀ job : Job,
      newer (known.map (·.masked mask)) (job.masked mask) =
        (newer known job).map (·.masked mask) := by
    intro known job
    cases known with
    | none => rfl
    | some other =>
      simp only [newer, Option.map_some, apply_ite (Option.map (Job.masked mask))]
      rfl
  rw [newest, List.foldl_map]
  exact @List.foldl_hom _ _ _ (Option.map (Job.masked mask))
    newer (fun known job => newer known (job.masked mask)) jobs none step

/-- The job that stands for a key in a masked lane. -/
theorem find?_masked (id : String) :
    (lane.masked mask).find? id = (lane.find? id).map (·.masked mask) := by
  rw [find?, find?, List.map_findSome?]
  congr 1
  funext status
  rw [Function.comp_apply, ← newest_masked, masked, List.filter_map]
  rfl

end Lane

/-! ## The board -/

/-- A masked activity. -/
def Activity.masked : Activity π → Activity π
  | .handling seq progress => .handling seq (mask.progress progress)
  | .notifying job event told => .notifying (job.masked mask) event told
  | activity => activity

/-- A masked worker. -/
def Worker.masked (worker : Worker π) : Worker π :=
  { worker with activity := worker.activity.masked mask }

namespace Board

variable (board : Board π ℓ)

/-- A masked board. -/
def masked : Board π ℓ :=
  { board with
    lanes := board.lanes.mapped (·.masked mask)
    workers := board.workers.map (·.masked mask) }

/-- The worker of a masked board. -/
theorem worker_masked (worker : Nat) :
    (board.masked mask).workers[worker]? = (board.workers[worker]?).map (·.masked mask) :=
  List.getElem?_map

/-- The lane of a masked board. -/
theorem lane_masked (jobType : String) :
    (board.masked mask).lane jobType = (board.lane jobType).masked mask := by
  rw [lane, lane, masked, Keyed.find?_mapped]
  cases board.lanes.find? jobType <;> rfl

/-- The job of a number on a masked board. -/
theorem job?_masked (jobType : String) (seq : Nat) :
    (board.masked mask).job? jobType seq = (board.job? jobType seq).map (·.masked mask) := by
  rw [job?, lane_masked, Lane.job?_masked]
  rfl

/-- A lane is replaced on a masked board. -/
theorem withLane_masked (jobType : String) (lane : Lane) :
    (board.withLane jobType lane).masked mask =
      (board.masked mask).withLane jobType (lane.masked mask) := by
  simp only [withLane, masked, Keyed.put_mapped]

/-- A worker of a masked board does something else. -/
theorem withActivity_masked (worker : Nat) (activity : Activity π) :
    (board.withActivity worker activity).masked mask =
      (board.masked mask).withActivity worker (activity.masked mask) := by
  have workers : (board.workers.modify worker ({ · with activity })).map (Worker.masked mask) =
      (board.workers.map (Worker.masked mask)).modify worker
        ({ · with activity := activity.masked mask }) := map_modify _ _ fun _ => rfl
  exact congrArg (fun workers => { board.masked mask with workers }) workers

/-- Masking a board again changes nothing. -/
theorem masked_masked : (board.masked mask).masked mask = board.masked mask := by
  have lanes : ∀ lane : Lane, (lane.masked mask).masked mask = lane.masked mask := by
    intro lane
    simp only [Lane.masked, List.map_map]
    congr 1
    exact List.map_congr_left fun job _ => job.masked_masked mask
  have workers : ∀ worker : Worker π,
      (worker.masked mask).masked mask = worker.masked mask := by
    rintro ⟨kind, activity⟩
    cases activity with
    | handling seq progress =>
      simp only [Worker.masked, Activity.masked, mask.progress_progress]
    | notifying job event told => simp only [Worker.masked, Activity.masked, Job.masked_masked]
    | _ => rfl
  simp only [masked, Keyed.mapped, List.map_map]
  congr 1
  · exact List.map_congr_left fun entry _ => by simp only [Function.comp_apply, lanes]
  · exact List.map_congr_left fun worker _ => workers worker

/-! ## What happens at a board -/

/-- The job that stands for a fingerprint on a masked board. -/
theorem find?_masked (jobType fingerprint : String) :
    (board.masked mask).find? jobType fingerprint =
      (board.find? jobType fingerprint).map (·.masked mask) := by
  rw [find?, lane_masked, Lane.find?_masked]
  rfl

/-- The job that can still be used for a fingerprint on a masked board. -/
theorem findUsable?_masked (jobType fingerprint : String) :
    (board.masked mask).findUsable? jobType fingerprint =
      (board.findUsable? jobType fingerprint).map (·.masked mask) := by
  rw [findUsable?, find?_masked, Option.filter_map]
  rfl

/-- Old jobs leave a masked board. -/
theorem forget_masked (now : Micros) (jobType : String) :
    (board.forget now jobType).masked mask = (board.masked mask).forget now jobType := by
  cases kept : board.retention with
  | none => simp only [forget, masked, kept]
  | some span =>
    have known : (board.masked mask).lanes.has jobType = board.lanes.has jobType :=
      Keyed.has_mapped _ _ _
    simp only [forget, kept, show (board.masked mask).retention = some span from kept, prune,
      known, lane_masked, apply_ite (Board.masked mask), withLane_masked, Lane.prune_masked]

/-- A job is created on a masked board, and nothing has been noted on it. -/
theorem add_masked (now : Micros) (jobType fingerprint : String) (payload : Fields) :
    (board.masked mask).add now jobType fingerprint payload =
      ((board.add now jobType fingerprint payload).1,
        (board.add now jobType fingerprint payload).2.masked mask) := by
  simp only [add, lane_masked]
  refine Prod.ext rfl ?_
  change { ((board.masked mask).withLane jobType _) with created := board.created + 1 } =
    { ((board.withLane jobType _).masked mask) with created := board.created + 1 }
  rw [withLane_masked]
  simp only [Lane.masked, List.map_append, List.map_cons, List.map_nil, Job.masked, Job.revised,
    mask.notes_nil]
  rfl

/-- A worker of a masked board takes a job, if its handler starts in the same way. -/
theorem take_masked (now : Micros) (worker : Nat) {start : Job → π}
    (starts : ∀ job, mask.progress (start job) = start (job.masked mask)) :
    (board.take now worker start).masked mask = (board.masked mask).take now worker start := by
  rw [take, take, worker_masked]
  rcases board.workers[worker]? with _ | ⟨jobType, activity⟩
  · rfl
  cases activity with
  | idle =>
    simp only [Option.map_some, Worker.masked, Activity.masked, lane_masked, Lane.job?_masked]
    rcases waiting : (board.lane jobType).waiting with _ | ⟨seq, rest⟩
    · simp only [Lane.masked, waiting]
    · simp only [show ((board.lane jobType).masked mask).waiting = seq :: rest from waiting]
      rcases found : (board.lane jobType).job? seq with _ | job
      · rfl
      · simp only [Option.map_some]
        rw [withActivity_masked, withLane_masked,
          Lane.update_masked mask _ seq _ ({ · with processedOn := some now }) fun _ => rfl]
        simp only [Activity.masked, starts]
        rfl
  | _ => rfl

/-- A handler goes on at a masked board. -/
theorem goOn_masked (worker : Nat) (progress : π) (notes : Fields) :
    (board.goOn worker progress notes).masked mask =
      (board.masked mask).goOn worker (mask.progress progress) (mask.notes notes) := by
  rw [goOn, goOn, worker_masked]
  rcases board.workers[worker]? with _ | ⟨jobType, activity⟩
  · rfl
  cases activity with
  | handling seq known =>
    simp only [Option.map_some, Worker.masked, Activity.masked, update, withActivity_masked,
      withLane_masked, lane_masked]
    rw [Lane.update_masked mask _ seq _ (·.noteAll (mask.notes notes))
      fun job => job.masked_noteAll mask notes]
  | _ => rfl

/-- A worker of a masked board leaves its job. -/
theorem leave_masked (worker : Nat) (jobType : String) (next : Activity π) :
    (board.leave worker jobType next).masked mask =
      (board.masked mask).leave worker jobType (next.masked mask) := by
  simp only [leave, withActivity_masked, withLane_masked, lane_masked]
  rfl

/-- A worker of a masked board tells the next listener. -/
theorem tellNext_masked (worker : Nat) (jobType : String) (job : Job) (event : Event)
    (told : Nat) :
    (board.tellNext worker jobType job event told).masked mask =
      (board.masked mask).tellNext worker jobType (job.masked mask) event told := by
  have audience : (board.masked mask).audience event = board.audience event := rfl
  simp only [tellNext, audience]
  split
  · exact withActivity_masked mask board worker _
  · exact leave_masked mask board worker jobType .idle

/-- A worker of a masked board goes for good. -/
theorem kill_masked (worker : Nat) :
    (board.kill worker).masked mask = (board.masked mask).kill worker := by
  rw [kill, kill, worker_masked]
  rcases board.workers[worker]? with _ | ⟨jobType, activity⟩
  · rfl
  cases activity with
  | idle => exact withActivity_masked mask board worker .gone
  | handling seq progress => exact leave_masked mask board worker jobType .gone
  | notifying job event told => exact leave_masked mask board worker jobType .gone
  | gone => rfl

/-- A job ends on a masked board as it ends on the board. -/
theorem ended_masked (job : Job) (now : Micros) (outcome : Except Failure Value) :
    (ended job now outcome).masked mask = ended (job.masked mask) now outcome := by
  cases outcome <;> rfl

/-- A handler ends at a masked board. -/
theorem finish_masked (now : Micros) (worker : Nat) (outcome : Except Failure Value) :
    (board.finish now worker outcome).masked mask =
      (board.masked mask).finish now worker outcome := by
  rw [finish, finish, worker_masked]
  rcases board.workers[worker]? with _ | ⟨jobType, activity⟩
  · rfl
  cases activity with
  | handling seq progress =>
    simp only [Option.map_some, Worker.masked, Activity.masked]
    split
    · exact kill_masked mask board worker
    · rw [job?_masked]
      cases board.job? jobType seq with
      | none => rfl
      | some job =>
        simp only [Option.map_some, update, tellNext_masked, withLane_masked, lane_masked]
        rw [Lane.update_masked mask _ seq _ (fun _ => ended (job.masked mask) now outcome)
          fun _ => ended_masked mask job now outcome, ended_masked]
  | _ => rfl

/-- The listener that a worker of a masked board tells, and what it tells. -/
theorem telling?_masked (worker : Nat) :
    (board.masked mask).telling? worker =
      (board.telling? worker).map fun (listener, job) => (listener, job.masked mask) := by
  rw [telling?, telling?, worker_masked]
  rcases board.workers[worker]? with _ | ⟨jobType, activity⟩
  · rfl
  cases activity with
  | notifying job event told =>
    simp only [Option.map_some, Worker.masked, Activity.masked, Option.map_map]
    rfl
  | _ => rfl

/-- A listener has been told at a masked board. -/
theorem notified_masked (worker : Nat) (outcome : Except Failure Unit) :
    (board.notified worker outcome).masked mask =
      (board.masked mask).notified worker outcome := by
  rw [notified, notified, worker_masked]
  rcases board.workers[worker]? with _ | ⟨jobType, activity⟩
  · rfl
  cases activity with
  | notifying job event told =>
    simp only [Option.map_some, Worker.masked, Activity.masked]
    split
    · exact kill_masked mask board worker
    · exact tellNext_masked mask board worker jobType job event (told + 1)
  | _ => rfl

/-- Old jobs of all types leave a masked board. -/
theorem clean_masked (now : Micros) (olderThan : Option Micros) :
    (board.clean now olderThan).2.masked mask = ((board.masked mask).clean now olderThan).2 := by
  simp only [clean, masked, Keyed.mapped, List.map_map]
  congr 1
  exact List.map_congr_left fun entry _ => by
    simp only [Function.comp_apply, Lane.prune_masked]

/-- Everybody leaves a masked board. -/
theorem close_masked : board.close.masked mask = (board.masked mask).close := by
  have count : (board.masked mask).workers.length = board.workers.length := List.length_map _
  have left : ∀ workers : List Nat, ∀ known : Board π ℓ,
      (workers.foldl kill known).masked mask = workers.foldl kill (known.masked mask) :=
    fun workers known => (List.foldl_hom (Board.masked mask) fun known worker =>
      (kill_masked mask known worker).symm).symm
  rw [close, close, count, ← left]
  rfl

end Board

end Jobs

end QuestionDesk
