import QuestionDesk.Proofs.Jobs.Effects

/-!
# The staff of a type

The staff of a type are the workers that take its jobs. What a lane counts as unfinished is what
waits there and what its staff is busy with; the staff changes in number only when workers are
engaged or everybody is sent away, and workers are lost for good only when they are cut off. What is
done about other types changes neither the lane nor the staff of a type.
-/
namespace QuestionDesk.Jobs

variable {π ℓ : Type}

/-- Whether a worker is gone for good. -/
def Activity.isGone : Activity π → Bool
  | .gone => true
  | _ => false

/-- A worker is of the same type once the notes of a job were revised. -/
theorem Worker.jobType_revised (worker : Worker π) (jobType : String) (seq : Nat)
    (change : Fields → Fields) : (worker.revised jobType seq change).jobType = worker.jobType := by
  unfold Worker.revised
  split
  · split <;> rfl
  · rfl

/-- A worker is busy with the same job, or gone, once the notes of a job were revised. -/
theorem Worker.activity_revised (worker : Worker π) (jobType : String) (seq : Nat)
    (change : Fields → Fields) :
    (worker.revised jobType seq change).activity.seq? = worker.activity.seq? ∧
      (worker.revised jobType seq change).activity.isGone = worker.activity.isGone := by
  unfold Worker.revised
  split
  · split <;> exact ⟨rfl, rfl⟩
  · exact ⟨rfl, rfl⟩

namespace Board

/-- The workers for jobs of a type. -/
def staff (board : Board π ℓ) (jobType : String) : List (Worker π) :=
  board.workers.filter (·.jobType = jobType)

/-- The numbers of the jobs of a type that workers are busy with. -/
def inHand (board : Board π ℓ) (jobType : String) : List Nat :=
  (board.staff jobType).filterMap (·.activity.seq?)

/-- How many workers for jobs of a type are not gone. -/
def live (board : Board π ℓ) (jobType : String) : Nat :=
  (board.staff jobType).countP (!·.activity.isGone)

/-- A worker that does something for jobs of a type belongs to the staff of the type. -/
theorem Does.mem_staff {board : Board π ℓ} {worker : Nat} {jobType : String}
    {activity : Activity π} (does : board.Does worker jobType activity) :
    ⟨jobType, activity⟩ ∈ board.staff jobType :=
  List.mem_filter.mpr ⟨List.mem_of_getElem? does, by simp⟩

/-- The jobs of a type that are in hand are those that a worker is busy with. -/
theorem mem_inHand {board : Board π ℓ} {jobType : String} {seq : Nat} :
    seq ∈ board.inHand jobType ↔ ∃ worker, board.Busy worker jobType seq := by
  constructor
  · intro member
    obtain ⟨⟨kind, activity⟩, one, same⟩ := List.mem_filterMap.mp member
    obtain ⟨inside, own⟩ := List.mem_filter.mp one
    obtain ⟨worker, found⟩ := List.mem_iff_getElem?.mp inside
    obtain rfl : kind = jobType := by simpa using own
    exact ⟨worker, activity, found, same⟩
  · rintro ⟨worker, activity, does, same⟩
    exact List.mem_filterMap.mpr ⟨_, does.mem_staff, same⟩

/-- On a sound board no job is in hand twice. -/
theorem Sound.nodup_inHand {board : Board π ℓ} (sound : board.Sound) (jobType : String) :
    (board.inHand jobType).Nodup := by
  unfold inHand staff
  rw [List.filterMap_filter, List.Nodup, List.pairwise_filterMap, List.pairwise_iff_getElem]
  intro left right _ _ order first own second other same
  subst same
  simp only [decide_eq_true_eq, Option.ite_none_right_eq_some] at own other
  have busy : ∀ {index : Nat} (inside : index < board.workers.length),
      board.workers[index].jobType = jobType ∧ board.workers[index].activity.seq? = some first →
        board.Busy index jobType first := by
    rintro index inside ⟨rfl, seq⟩
    exact ⟨_, List.getElem?_eq_getElem inside, seq⟩
  exact absurd (sound.alone _ _ _ _ (busy _ own) (busy _ other)) (Nat.ne_of_lt order)

/-- No more jobs of a type are in hand than workers for them are not gone. -/
theorem length_inHand_le (board : Board π ℓ) (jobType : String) :
    (board.inHand jobType).length ≤ board.live jobType := by
  rw [inHand, live, List.length_filterMap_eq_countP]
  refine List.countP_mono_left fun worker _ busy => ?_
  obtain ⟨kind, activity⟩ := worker
  cases activity with
  | gone => cases busy
  | _ => rfl

/-! ## Workers one by one -/

section One

variable {board after : Board π ℓ} {own : Nat} {kind : String} {old next : Activity π}

/-- Where one worker turns to something else, those before it and after it go on. -/
theorem workers_split (does : board.Does own kind old)
    (workers : ∀ index : Nat, after.workers[index]? =
      if index = own then some ⟨kind, next⟩ else board.workers[index]?) :
    ∃ front back, board.workers = front ++ ⟨kind, old⟩ :: back ∧
      after.workers = front ++ ⟨kind, next⟩ :: back := by
  obtain ⟨inside, here⟩ := List.getElem?_eq_some_iff.mp does
  have changed : after.workers = board.workers.set own ⟨kind, next⟩ := by
    refine List.ext_getElem? fun index => ?_
    rw [workers, List.getElem?_set]
    by_cases same : index = own
    · rw [if_pos same, if_pos same.symm, if_pos inside]
    · rw [if_neg same, if_neg (Ne.symm same)]
  refine ⟨board.workers.take own, board.workers.drop (own + 1), ?_, ?_⟩
  · rw [← here, List.getElem_cons_drop, List.take_append_drop]
  · rw [changed, List.set_eq_take_append_cons_drop, if_pos inside]

/-- A worker of another type has no part in the staff of a type. -/
theorem staff_of_other (does : board.Does own kind old)
    (workers : ∀ index : Nat, after.workers[index]? =
      if index = own then some ⟨kind, next⟩ else board.workers[index]?) {jobType : String}
    (other : kind ≠ jobType) : after.staff jobType = board.staff jobType := by
  obtain ⟨front, back, before, turned⟩ := workers_split does workers
  simp [staff, before, turned, other]

/-- What is counted of the staff of a type changes by what the one worker does. -/
theorem countP_staff (does : board.Does own kind old)
    (workers : ∀ index : Nat, after.workers[index]? =
      if index = own then some ⟨kind, next⟩ else board.workers[index]?) (jobType : String)
    (counts : Activity π → Bool) :
    (after.staff jobType).countP (counts ·.activity) + (kind = jobType && counts old).toNat =
      (board.staff jobType).countP (counts ·.activity) + (kind = jobType && counts next).toNat := by
  by_cases own : kind = jobType
  · obtain ⟨front, back, before, turned⟩ := workers_split does workers
    simp only [staff, before, turned, own, List.filter_append, List.countP_append, decide_true,
      List.filter_cons_of_pos, List.countP_cons, Bool.true_and]
    cases counts old <;> cases counts next <;> simp <;> omega
  · rw [staff_of_other does workers own]
    simp [own]

/-- A worker that turns to something else changes how many jobs of its type are in hand. -/
theorem length_inHand (does : board.Does own kind old)
    (workers : ∀ index : Nat, after.workers[index]? =
      if index = own then some ⟨kind, next⟩ else board.workers[index]?) (jobType : String) :
    (after.inHand jobType).length + (kind = jobType && old.seq?.isSome).toNat =
      (board.inHand jobType).length + (kind = jobType && next.seq?.isSome).toNat := by
  simp only [inHand, List.length_filterMap_eq_countP]
  exact countP_staff does workers jobType (·.seq?.isSome)

end One

/-- Workers that come are idle. -/
theorem staff_of_more {board after : Board π ℓ} {kind : String} {count : Nat}
    (workers : after.workers = board.workers ++ List.replicate count { jobType := kind })
    (jobType : String) : after.staff jobType = board.staff jobType ++
      List.replicate (if kind = jobType then count else 0) { jobType := kind } := by
  rw [staff, workers, List.filter_append, List.filter_replicate, ← staff]
  by_cases own : kind = jobType <;> simp [own]

/-- Revising the notes of a job changes nothing that counts about a worker. -/
theorem staff_revise (board : Board π ℓ) (kind : String) (seq : Nat) (change : Fields → Fields)
    (jobType : String) :
    (board.revise kind seq change).staff jobType =
      (board.staff jobType).map (·.revised kind seq change) := by
  unfold staff
  change (board.workers.map _).filter _ = _
  rw [List.filter_map]
  congr 1
  refine List.filter_congr fun worker _ => ?_
  rw [Function.comp_apply, worker.jobType_revised]

end Board

/-! ## What a step does to the staff -/

/-- The worker that does something in a step, or to which something is done. -/
def Step.actor? : Step π ℓ → Option Nat
  | .take worker _ | .goOn worker _ _ | .finish worker _ | .notified worker _ | .kill worker =>
    some worker
  | _ => none

namespace Floor

/-- The type whose worker is lost in a step because what it handles, or the listener that it tells,
raises a cancellation. -/
def cancels? (floor : Floor π ℓ) : Step π ℓ → Option String
  | .finish worker (.error .cancelled) =>
    match floor.board.workers[worker]? with
    | some ⟨jobType, .handling _ _⟩ => some jobType
    | _ => none
  | .notified worker (.error .cancelled) =>
    match floor.board.workers[worker]? with
    | some ⟨jobType, .notifying _ _ _⟩ => some jobType
    | _ => none
  | _ => none

/-- How many workers for jobs of a type are lost in a step. -/
def losses (floor : Floor π ℓ) (jobType : String) : Step π ℓ → Nat
  | .kill worker =>
    match floor.board.workers[worker]? with
    | some one => (one.jobType = jobType && !one.activity.isGone).toNat
    | none => 0
  | .close => floor.board.live jobType
  | step => if floor.cancels? step = some jobType then 1 else 0

/-- How many workers for jobs of a type come in a step. -/
def arrivals (floor : Floor π ℓ) (jobType : String) : Step π ℓ → Nat
  | .register kind concurrency =>
    match floor.board.register kind concurrency with
    | .ok _ => if kind = jobType then concurrency.toNat else 0
    | .error _ => 0
  | .reinforce kind count => if kind = jobType then count else 0
  | _ => 0

/-- A worker is lost to a cancellation when its handler raises one, or a listener that it tells. -/
theorem cancels?_eq_some {floor : Floor π ℓ} {step : Step π ℓ} {jobType : String} :
    floor.cancels? step = some jobType ↔ ∃ worker,
      (step = .finish worker (.error .cancelled) ∧
        ∃ seq progress, floor.board.Does worker jobType (.handling seq progress)) ∨
      (step = .notified worker (.error .cancelled) ∧
        ∃ job event told, floor.board.Does worker jobType (.notifying job event told)) := by
  constructor
  · intro lost
    unfold cancels? at lost
    split at lost
    · next worker =>
      split at lost
      · next does =>
        cases lost
        exact ⟨worker, Or.inl ⟨rfl, _, _, does⟩⟩
      · cases lost
    · next worker =>
      split at lost
      · next does =>
        cases lost
        exact ⟨worker, Or.inr ⟨rfl, _, _, _, does⟩⟩
      · cases lost
    · cases lost
  · rintro ⟨worker, ⟨rfl, seq, progress, does⟩ | ⟨rfl, job, event, told, does⟩⟩
    · simp only [cancels?, does]
    · simp only [cancels?, does]

/-- In a step one worker turns from what it does to something else, and only its type has to do with
that. -/
structure Turned (floor : Floor π ℓ) (step : Step π ℓ) (own : Nat) (kind : String)
    (old next : Activity π) : Prop where
  /-- What the worker does before. -/
  does : floor.board.Does own kind old
  /-- The worker turns to something else, and the others go on. -/
  workers : ∀ index : Nat, (floor.step step).board.workers[index]? =
    if index = own then some ⟨kind, next⟩ else floor.board.workers[index]?
  /-- The lanes of other types stay as they are. -/
  others : ∀ other, other ≠ kind → (floor.step step).board.lane other = floor.board.lane other
  /-- What no longer waits is in hand, and what is no longer in hand is not unfinished. -/
  evens : (old.seq?.isSome → 0 < (floor.board.lane kind).unfinished) →
    ((floor.step step).board.lane kind).unfinished + (floor.board.lane kind).waiting.length +
        old.seq?.isSome.toNat =
      (floor.board.lane kind).unfinished + ((floor.step step).board.lane kind).waiting.length +
        next.seq?.isSome.toNat
  /-- A worker that goes for good is lost, and no other one is. -/
  lost : (!old.isGone).toNat = (!next.isGone).toNat + floor.losses kind step
  /-- No worker for jobs of another type is lost. -/
  kept : ∀ other, other ≠ kind → floor.losses other step = 0

section Acts

variable {floor : Floor π ℓ} {own : Nat}

/-- A worker that is sent away is lost, unless it was gone. -/
theorem turned_gone {step : Step π ℓ} {kind : String} {old : Activity π}
    (does : floor.board.Does own kind old) (present : old.isGone = false)
    (same : (floor.step step).board = floor.board.kill own)
    (losses : ∀ jobType, floor.losses jobType step = if kind = jobType then 1 else 0) :
    floor.Turned step own kind old .gone := by
  have workers : ∀ index : Nat, (floor.step step).board.workers[index]? =
      if index = own then some ⟨kind, .gone⟩ else floor.board.workers[index]? := by
    intro index
    rw [same, Board.workers_kill]
    split
    · next here => rw [here, does, Option.map_some]
    · rfl
  have lanes : ∀ other, (floor.step step).board.lane other =
      if other = kind ∧ old.seq?.isSome then
        { floor.board.lane kind with unfinished := (floor.board.lane kind).unfinished - 1 }
      else floor.board.lane other := by
    intro other
    have left : ∀ next, (floor.board.leave own kind next).lane other =
        if other = kind then
          { floor.board.lane kind with unfinished := (floor.board.lane kind).unfinished - 1 }
        else floor.board.lane other := fun next => Board.lane_withLane _ _ _ _
    rw [same, Board.kill, does]
    cases old with
    | idle => simp [Activity.seq?]; rfl
    | handling seq progress => simp [Activity.seq?, left]
    | notifying job event told => simp [Activity.seq?, left]
    | gone => cases present
  refine ⟨does, workers, fun other apart => ?_, fun open_ => ?_, ?_, fun other apart => ?_⟩
  · rw [lanes, if_neg fun both => apart both.1]
  · rw [lanes]
    cases busy : old.seq?.isSome with
    | true =>
      have := open_ busy
      simp only [and_self, if_true, Bool.toNat_true, Activity.seq?, Option.isSome_none,
        Bool.toNat_false]
      omega
    | false => simp [Activity.seq?]
  · rw [losses, if_pos rfl, present]
    rfl
  · rw [losses, if_neg (Ne.symm apart)]

/-- A worker that turns to the next listener, or is done, stays. -/
theorem turned_tell {step : Step π ℓ} {between : Board π ℓ} {kind : String} {old : Activity π}
    {job : Job} {event : Event} {told : Nat} (does : floor.board.Does own kind old)
    (busy : old.seq?.isSome = true)
    (workers : between.workers = floor.board.workers)
    (others : ∀ other, other ≠ kind → between.lane other = floor.board.lane other)
    (line : (between.lane kind).waiting = (floor.board.lane kind).waiting)
    (unfinished : (between.lane kind).unfinished = (floor.board.lane kind).unfinished)
    (same : (floor.step step).board = between.tellNext own kind job event told)
    (losses : ∀ jobType, floor.losses jobType step = 0) :
    ∃ next, floor.Turned step own kind old next := by
  have still : between.Does own kind old := by
    rw [Board.Does, workers]
    exact does
  have present : old.isGone = false := by
    cases old with
    | gone => cases busy
    | _ => rfl
  have turns : ∀ index : Nat, (floor.step step).board.workers[index]? = if index = own then
      some ⟨kind, between.tellingNext job event told⟩ else floor.board.workers[index]? := by
    intro index
    rw [same, Board.workers_tellNext _ still, workers]
  refine ⟨_, does, turns, fun other apart => ?_, fun open_ => ?_, ?_, fun other _ => losses other⟩
  · rw [same, Board.tellNext]
    split
    · exact others other apart
    · exact (Board.lane_withLane _ _ _ _).trans ((if_neg apart).trans (others other apart))
  · have := open_ busy
    rw [same, Board.tellNext, Board.tellingNext, busy]
    split
    · change (between.lane kind).unfinished + _ + _ = _ + (between.lane kind).waiting.length + _
      rw [line, unfinished]
      rfl
    · rw [Board.leave, Board.withActivity]
      change ((between.withLane kind _).lane kind).unfinished + _ + _ =
        _ + ((between.withLane kind _).lane kind).waiting.length + _
      rw [Board.lane_withLane, if_pos rfl]
      simp only [line, unfinished, Bool.toNat_true, Activity.seq?, Option.isSome_none,
        Bool.toNat_false]
      omega
  · rw [losses, present, Board.tellingNext]
    split <;> rfl

/-- A worker that does something about its job, and goes on with it, stays. -/
theorem turned_on {step : Step π ℓ} {kind : String} {old next : Activity π} {lane : Lane}
    (does : floor.board.Does own kind old) (present : old.isGone = false)
    (stays : next.isGone = false)
    (same : (floor.step step).board = (floor.board.withLane kind lane).withActivity own next)
    (unfinished : lane.unfinished = (floor.board.lane kind).unfinished)
    (line : (floor.board.lane kind).waiting.length + old.seq?.isSome.toNat =
      lane.waiting.length + next.seq?.isSome.toNat)
    (losses : ∀ jobType, floor.losses jobType step = 0) :
    floor.Turned step own kind old next := by
  have lanes : ∀ other, (floor.step step).board.lane other =
      if other = kind then lane else floor.board.lane other := by
    intro other
    rw [same]
    exact Board.lane_withLane _ _ _ _
  refine ⟨does, fun index => ?_, fun other apart => ?_, fun _ => ?_, ?_, fun other _ => losses other⟩
  · rw [same, Board.workers_advanced _ does]
  · rw [lanes, if_neg apart]
  · rw [lanes, if_pos rfl, unfinished]
    omega
  · rw [losses, present, stays]
    rfl

/-- A step leaves the board as it is and costs no worker, or turns one worker to something else. -/
def Acted (floor : Floor π ℓ) (step : Step π ℓ) (own : Nat) : Prop :=
  ((floor.step step).board = floor.board ∧ ∀ jobType, floor.losses jobType step = 0) ∨
    ∃ kind old next, floor.Turned step own kind old next

/-- A handler that ends costs no worker, unless it handles a job and is cancelled. -/
theorem losses_finish {outcome : Except Failure Value}
    (spared : outcome = .error .cancelled →
      ∀ kind seq progress, ¬floor.board.Does own kind (.handling seq progress))
    (jobType : String) : floor.losses jobType (.finish own outcome) = 0 := by
  refine if_neg fun lost => ?_
  obtain ⟨_, ⟨same, _, _, does⟩ | ⟨same, -⟩⟩ := cancels?_eq_some.mp lost
  · cases same
    exact spared rfl _ _ _ does
  · cases same

/-- A listener that was told costs no worker, unless a worker tells it and is cancelled. -/
theorem losses_notified {outcome : Except Failure Unit}
    (spared : outcome = .error .cancelled →
      ∀ kind job event told, ¬floor.board.Does own kind (.notifying job event told))
    (jobType : String) : floor.losses jobType (.notified own outcome) = 0 := by
  refine if_neg fun lost => ?_
  obtain ⟨_, ⟨same, -⟩ | ⟨same, _, _, _, does⟩⟩ := cancels?_eq_some.mp lost
  · cases same
  · cases same
    exact spared rfl _ _ _ _ does

/-- A worker that takes a job turns to it. -/
theorem acted_take (start : Job → π) : floor.Acted (.take own start) own := by
  rcases floor.board.take_cases floor.now own start with
    same | ⟨kind, seq, rest, job, idle, line, found, taken⟩
  · exact Or.inl ⟨same, fun _ => rfl⟩
  · refine Or.inr ⟨kind, _, _, turned_on idle rfl rfl taken rfl ?_ fun _ => rfl⟩
    rw [line]
    rfl

/-- A worker whose handler goes on stays with its job. -/
theorem acted_goOn (progress : π) (notes : Fields) :
    floor.Acted (.goOn own progress notes) own := by
  by_cases handles : ∃ kind seq progress, floor.board.Does own kind (.handling seq progress)
  · obtain ⟨kind, seq, before, does⟩ := handles
    exact Or.inr ⟨kind, _, _, turned_on does rfl rfl (floor.board.goOn_eq does progress notes)
      rfl rfl fun _ => rfl⟩
  · exact Or.inl ⟨floor.board.goOn_of_not_handling
      (fun kind seq before does => handles ⟨kind, seq, before, does⟩) _ _, fun _ => rfl⟩

/-- A worker whose handler ends turns to the listeners, and one whose handler is cancelled goes. -/
theorem acted_finish (sound : floor.board.Sound) (outcome : Except Failure Value) :
    floor.Acted (.finish own outcome) own := by
  by_cases handles : ∃ kind seq progress, floor.board.Does own kind (.handling seq progress)
  · obtain ⟨kind, seq, progress, does⟩ := handles
    by_cases alive : outcome = .error .cancelled
    · subst alive
      refine Or.inr ⟨kind, _, _, turned_gone does rfl
        (floor.board.finish_cancelled does floor.now) ?_⟩
      intro jobType
      simp only [losses, cancels?, does, Option.some.injEq]
    -- The end of the job leaves the line of the type as it is; only the worker turns.
    · obtain ⟨job, found, -⟩ := sound.handled _ _ _ _ does
      have updated := (floor.board.lane_withLane kind kind ((floor.board.lane kind).update seq
        fun _ => Board.ended job floor.now outcome)).trans (if_pos rfl)
      obtain ⟨next, turned⟩ := @turned_tell _ _ floor own (.finish own outcome)
        (floor.board.update kind seq fun _ => Board.ended job floor.now outcome) kind _
        (Board.ended job floor.now outcome) (Board.eventOf outcome) 0 does rfl rfl
        (fun other apart => (Board.lane_withLane _ _ _ _).trans (if_neg apart))
        ((congrArg Lane.waiting updated).trans rfl) ((congrArg Lane.unfinished updated).trans rfl)
        (floor.board.finish_eq does found _ alive) (losses_finish fun cut => absurd cut alive)
      exact Or.inr ⟨kind, _, next, turned⟩
  · have free : ∀ kind seq progress, ¬floor.board.Does own kind (.handling seq progress) :=
      fun kind seq progress does => handles ⟨kind, seq, progress, does⟩
    exact Or.inl ⟨floor.board.finish_of_not_handling free _ _, losses_finish fun _ => free⟩

/-- A worker that has told a listener turns to the next one, and one that is cancelled goes. -/
theorem acted_notified (outcome : Except Failure Unit) :
    floor.Acted (.notified own outcome) own := by
  by_cases tells : ∃ kind job event told, floor.board.Does own kind (.notifying job event told)
  · obtain ⟨kind, job, event, told, does⟩ := tells
    by_cases alive : outcome = .error .cancelled
    · subst alive
      refine Or.inr ⟨kind, _, _, turned_gone does rfl ?_ ?_⟩
      · rw [Floor.step, Board.notified, does]
      · intro jobType
        simp only [losses, cancels?, does, Option.some.injEq]
    · have tellNext : (floor.step (.notified own outcome)).board =
          floor.board.tellNext own kind job event (told + 1) := by
        rw [Floor.step, Board.notified, does]
        simp only
      obtain ⟨next, turned⟩ := @turned_tell _ _ floor own (.notified own outcome) floor.board kind
        _ job event (told + 1) does rfl rfl (fun _ _ => rfl) rfl rfl tellNext
        (losses_notified fun cut => absurd cut alive)
      exact Or.inr ⟨kind, _, next, turned⟩
  · have free : ∀ kind job event told, ¬floor.board.Does own kind (.notifying job event told) :=
      fun kind job event told does => tells ⟨kind, job, event, told, does⟩
    refine Or.inl ⟨?_, losses_notified fun _ => free⟩
    rw [Floor.step, Board.notified]
    split
    · next does => exact absurd does (free _ _ _ _)
    · rfl

/-- A worker that is sent away goes, unless it is not there or gone already. -/
theorem acted_kill : floor.Acted (.kill own) own := by
  cases found : floor.board.workers[own]? with
  | none =>
    refine Or.inl ⟨?_, fun jobType => by simp only [losses, found]⟩
    rw [Floor.step, Board.kill, found]
  | some one =>
    obtain ⟨kind, activity⟩ := one
    cases gone : activity.isGone with
    | true =>
      refine Or.inl ⟨?_, fun jobType => by simp [losses, found, gone]⟩
      rw [Floor.step, Board.kill, found]
      cases activity with
      | gone => rfl
      | _ => cases gone
    | false =>
      refine Or.inr ⟨kind, activity, _, turned_gone found gone rfl fun jobType => ?_⟩
      by_cases own : kind = jobType <;> simp [losses, found, gone, own]

/-- What is done by one worker, or to it, changes nothing, or only what that worker does and the lane
of its type. -/
theorem acted (sound : floor.board.Sound) {step : Step π ℓ} (actor : step.actor? = some own) :
    floor.Acted step own := by
  cases step with
  | take worker start =>
    cases actor
    exact acted_take start
  | goOn worker progress notes =>
    cases actor
    exact acted_goOn progress notes
  | finish worker outcome =>
    cases actor
    exact acted_finish sound outcome
  | notified worker outcome =>
    cases actor
    exact acted_notified outcome
  | kill worker =>
    cases actor
    exact acted_kill
  | _ => cases actor

end Acts

end Floor

/-! ## Accounts -/

namespace Board

/-- What every lane counts as unfinished is what waits there and what is in hand. -/
def Balanced (board : Board π ℓ) : Prop :=
  ∀ jobType, (board.lane jobType).unfinished =
    (board.lane jobType).waiting.length + (board.inHand jobType).length

/-- A board on which the same waits, is unfinished and is in hand is balanced. -/
theorem Balanced.of_same {board after : Board π ℓ} (balanced : board.Balanced)
    (waiting : ∀ jobType, (after.lane jobType).waiting = (board.lane jobType).waiting)
    (unfinished : ∀ jobType, (after.lane jobType).unfinished = (board.lane jobType).unfinished)
    (inHand : ∀ jobType, after.inHand jobType = board.inHand jobType) : after.Balanced := by
  intro jobType
  rw [waiting, unfinished, inHand]
  exact balanced jobType

/-- Jobs that have ended are forgotten without anything else about their lanes. -/
theorem lane_forget (board : Board π ℓ) (now : Micros) (kind jobType : String) :
    ((board.forget now kind).lane jobType).waiting = (board.lane jobType).waiting ∧
      ((board.forget now kind).lane jobType).unfinished = (board.lane jobType).unfinished := by
  unfold forget
  split
  · rw [lane_prune]
    split <;> exact ⟨rfl, rfl⟩
  · exact ⟨rfl, rfl⟩

/-- A job that is created is unfinished and waits. -/
theorem Balanced.create {board : Board π ℓ} (balanced : board.Balanced) (now : Micros)
    (kind fingerprint : String) (payload : Fields) (skipsSearch : Bool) :
    (board.create now kind fingerprint payload skipsSearch).2.Balanced := by
  have workers := board.workers_create now kind fingerprint payload skipsSearch
  have inHand : ∀ jobType, (board.create now kind fingerprint payload skipsSearch).2.inHand jobType =
      board.inHand jobType := fun jobType => by rw [Board.inHand, staff, workers]; rfl
  rcases board.create_cases now kind fingerprint payload skipsSearch with
    ⟨_, -, -, found⟩ | ⟨-, added⟩
  · refine balanced.of_same (fun jobType => ?_) (fun jobType => ?_) inHand
    · rw [found]
      exact (board.lane_forget now kind jobType).1
    · rw [found]
      exact (board.lane_forget now kind jobType).2
  · intro jobType
    obtain ⟨waiting, unfinished⟩ := board.lane_forget now kind jobType
    rw [inHand, added, lane_add]
    have before := balanced jobType
    split
    · next own =>
      subst own
      rw [List.length_append, waiting, unfinished]
      simp only [List.length_singleton]
      omega
    · rw [waiting, unfinished]
      exact before

/-- A worker that turns to something else keeps a board balanced. -/
theorem Balanced.turned {floor : Floor π ℓ} {step : Step π ℓ} {own : Nat} {kind : String}
    {old next : Activity π} (balanced : floor.board.Balanced)
    (turned : floor.Turned step own kind old next) : (floor.step step).board.Balanced := by
  intro jobType
  have before := balanced jobType
  by_cases mine : jobType = kind
  · subst mine
    have hands := length_inHand turned.does turned.workers jobType
    have open_ : old.seq?.isSome → 0 < (floor.board.lane jobType).unfinished := by
      intro busy
      simp only [decide_true, Bool.true_and, busy, Bool.toNat_true] at hands
      obtain ⟨seq, same⟩ := Option.isSome_iff_exists.mp busy
      have inside : seq ∈ floor.board.inHand jobType := mem_inHand.mpr ⟨own, old, turned.does, same⟩
      have := List.length_pos_of_mem inside
      omega
    have evens := turned.evens open_
    simp only [decide_true, Bool.true_and] at hands
    omega
  · rw [turned.others _ mine, inHand, staff_of_other turned.does turned.workers (Ne.symm mine)]
    exact before

/-- A worker that is sent away keeps a board balanced. -/
theorem Balanced.kill {board : Board π ℓ} (sound : board.Sound) (balanced : board.Balanced)
    (worker : Nat) : (board.kill worker).Balanced := by
  rcases @Floor.acted _ _ ⟨0, board⟩ worker sound (.kill worker) rfl with
    ⟨same, -⟩ | ⟨kind, old, next, turned⟩
  · have stays : board.kill worker = board := same
    rwa [stays]
  · exact balanced.turned turned

/-- What workers do once several were sent away. -/
theorem workers_killed (board : Board π ℓ) (gone : List Nat) (worker : Nat) :
    (gone.foldl kill board).workers[worker]? =
      if worker ∈ gone then (board.workers[worker]?).map ({ · with activity := .gone })
      else board.workers[worker]? := by
  induction gone generalizing board with
  | nil => simp
  | cons first rest ih =>
    rw [List.foldl_cons, ih, workers_kill]
    by_cases own : worker = first
    · simp only [own, List.mem_cons_self, if_true, Option.map_map]
      split <;> rfl
    · simp only [own, List.mem_cons, false_or, if_false]

/-- Once all workers were sent away no job is in hand. -/
theorem Balanced.close {board : Board π ℓ} (sound : board.Sound) (balanced : board.Balanced) :
    board.close.Balanced := by
  have killed : ∀ (gone : List Nat) (board : Board π ℓ), board.Sound → board.Balanced →
      (gone.foldl Board.kill board).Balanced := by
    intro gone
    induction gone with
    | nil => exact fun _ _ balanced => balanced
    | cons first rest ih =>
      exact fun board sound balanced => ih _ (sound.kill first) (balanced.kill sound first)
  intro jobType
  have before := killed (List.range board.workers.length) board sound balanced jobType
  -- Every worker of the board was among those sent away, so none is left that is busy.
  have none : ((List.range board.workers.length).foldl Board.kill board).inHand jobType = [] := by
    refine List.eq_nil_iff_forall_not_mem.mpr fun seq inside => ?_
    obtain ⟨worker, activity, does, same⟩ := mem_inHand.mp inside
    rw [Does, workers_killed] at does
    split at does
    · obtain ⟨one, -, gone⟩ := Option.map_eq_some_iff.mp does
      cases gone
      cases same
    · next beyond =>
      have absent := Nat.le_of_not_lt fun within => beyond (List.mem_range.mpr within)
      rw [List.getElem?_eq_none absent] at does
      cases does
  rw [none] at before
  exact before

end Board

namespace Floor

/-- Every step keeps a board balanced. -/
theorem balanced_step {floor : Floor π ℓ} (sound : floor.board.Sound)
    (balanced : floor.board.Balanced) (step : Step π ℓ) : (floor.step step).board.Balanced := by
  have more : ∀ {after : Board π ℓ} {kind : String} {count : Nat},
      (∀ jobType, after.lane jobType = floor.board.lane jobType) →
        after.workers = floor.board.workers ++ List.replicate count { jobType := kind } →
          after.Balanced := by
    intro after kind count lanes workers
    refine balanced.of_same (fun jobType => congrArg Lane.waiting (lanes jobType))
      (fun jobType => congrArg Lane.unfinished (lanes jobType)) fun jobType => ?_
    rw [Board.inHand, Board.staff_of_more workers, List.filterMap_append, List.filterMap_replicate]
    exact List.append_nil _
  cases actor : step.actor? with
  | some own =>
    rcases acted sound actor with ⟨same, -⟩ | ⟨kind, old, next, turned⟩
    · exact same ▸ balanced
    · exact balanced.turned turned
  | none =>
    cases step with
    | create kind fingerprint payload skipsSearch => exact balanced.create _ _ _ _ _
    | know kind =>
      have same : (floor.board.ready kind).workers = floor.board.workers := by
        unfold Board.ready
        split <;> rfl
      exact @more _ kind 0 (floor.board.lane_ready kind) (same.trans (List.append_nil _).symm)
    | register kind concurrency =>
      simp only [Floor.step]
      split
      · next engaged =>
        obtain ⟨-, -, -, lanes, workers⟩ := Board.register_eq engaged
        exact more lanes workers
      · exact balanced
    | reinforce kind count => exact more (floor.board.lane_ready kind) rfl
    | subscribe event listener => exact balanced
    | revise kind seq change =>
      refine balanced.of_same (fun jobType => ?_) (fun jobType => ?_) fun jobType => ?_
      · rw [Floor.step, Board.lane_revise]
        split
        · next own => exact own ▸ rfl
        · rfl
      · rw [Floor.step, Board.lane_revise]
        split
        · next own => exact own ▸ rfl
        · rfl
      · rw [Floor.step, Board.inHand, Board.staff_revise, List.filterMap_map]
        exact congrArg (List.filterMap · _) (funext fun worker =>
          (worker.activity_revised kind seq change).1)
    | clean olderThan =>
      refine balanced.of_same (fun jobType => ?_) (fun jobType => ?_) fun _ => rfl
      · rw [Floor.step, Board.lane_clean]
        rfl
      · rw [Floor.step, Board.lane_clean]
        rfl
    | close => exact balanced.close sound
    | pass span => exact balanced
    | _ => cases actor

/-! ## Numbers -/

/-- What a step does to the staff of a type, in numbers. -/
structure Staffs (floor : Floor π ℓ) (step : Step π ℓ) (jobType : String) : Prop where
  /-- Those that are not gone: some are lost, some come. -/
  live : (floor.step step).board.live jobType + floor.losses jobType step =
    floor.board.live jobType + floor.arrivals jobType step
  /-- Those that were engaged: some come, and none is dismissed before all are sent away. -/
  engaged : step ≠ .close → ((floor.step step).board.staff jobType).length =
    (floor.board.staff jobType).length + floor.arrivals jobType step

/-- A step in which nobody is lost leaves the staff, but for those that come. -/
theorem staffs_of_more {floor : Floor π ℓ} {step : Step π ℓ} {kind jobType : String} {count : Nat}
    (workers : (floor.step step).board.workers =
      floor.board.workers ++ List.replicate count { jobType := kind })
    (losses : floor.losses jobType step = 0)
    (arrivals : floor.arrivals jobType step = if kind = jobType then count else 0) :
    floor.Staffs step jobType := by
  have staff := Board.staff_of_more workers jobType
  refine ⟨?_, fun _ => ?_⟩
  · rw [losses, arrivals, Board.live, staff, List.countP_append, List.countP_replicate, ← Board.live]
    simp [Activity.isGone]
  · rw [arrivals, staff, List.length_append, List.length_replicate]

/-- A step without which the staff is as before leaves its numbers. -/
theorem staffs_of_same {floor : Floor π ℓ} {step : Step π ℓ} {jobType : String}
    (workers : (floor.step step).board.workers = floor.board.workers)
    (losses : floor.losses jobType step = 0) (arrivals : floor.arrivals jobType step = 0) :
    floor.Staffs step jobType :=
  @staffs_of_more _ _ _ _ jobType _ 0 (workers.trans (List.append_nil _).symm) losses
    (arrivals.trans (by simp))

/-- Every step changes the staff of a type in number by those that are lost and those that come. -/
theorem staffs {floor : Floor π ℓ} (sound : floor.board.Sound) (step : Step π ℓ)
    (jobType : String) : floor.Staffs step jobType := by
  cases actor : step.actor? with
  | some own =>
    have nobody : floor.arrivals jobType step = 0 := by
      cases step with
      | register | reinforce => cases actor
      | _ => rfl
    rcases acted sound actor with ⟨same, losses⟩ | ⟨kind, old, next, turned⟩
    · exact staffs_of_same (congrArg Board.workers same) (losses jobType) nobody
    · have live := Board.countP_staff turned.does turned.workers jobType (!·.isGone)
      have all := Board.countP_staff turned.does turned.workers jobType fun _ => true
      simp only [List.countP_true] at all
      refine ⟨?_, fun _ => by rw [nobody]; omega⟩
      rw [nobody, Board.live, Board.live]
      by_cases mine : kind = jobType
      · subst mine
        have lost := turned.lost
        simp only [decide_true, Bool.true_and] at live
        omega
      · have kept := turned.kept jobType (Ne.symm mine)
        simp only [mine, decide_false, Bool.false_and] at live
        omega
  | none =>
    cases step with
    | create kind fingerprint payload skipsSearch =>
      exact staffs_of_same (floor.board.workers_create _ _ _ _ _) rfl rfl
    | know kind =>
      refine staffs_of_same ?_ rfl rfl
      simp only [Floor.step, Board.ready]
      split <;> rfl
    | register kind concurrency =>
      cases engaged : floor.board.register kind concurrency with
      | error failure =>
        refine staffs_of_same ?_ rfl ?_
        · simp only [Floor.step, engaged]
        · simp only [arrivals, engaged]
      | ok more =>
        refine @staffs_of_more _ _ _ _ kind _ concurrency.toNat ?_ rfl ?_
        · simp only [Floor.step, engaged]
          exact (Board.register_eq engaged).2.2.2.2
        · simp only [arrivals, engaged]
    | reinforce kind count => exact @staffs_of_more _ _ _ _ kind _ count rfl rfl rfl
    | revise kind seq change =>
      have staff := floor.board.staff_revise kind seq change jobType
      refine ⟨?_, fun _ => ?_⟩
      · change ((floor.board.revise kind seq change).staff jobType).countP _ = _
        rw [staff, List.countP_map]
        exact congrArg (List.countP · _) (funext fun worker => by
          rw [Function.comp_apply, (worker.activity_revised kind seq change).2])
      · exact (congrArg List.length staff).trans (List.length_map _)
    | close =>
      refine ⟨?_, fun open_ => absurd rfl open_⟩
      exact Nat.zero_add _
    | subscribe event listener | clean olderThan | pass span => exact staffs_of_same rfl rfl rfl
    | _ => cases actor

/-! ## Other types -/

/-- A step is not about a type: it is about jobs or workers of another type, about listeners or the
clock. -/
def Elsewhere (floor : Floor π ℓ) (jobType : String) : Step π ℓ → Prop
  | .create kind _ _ _ | .know kind | .register kind _ | .reinforce kind _ | .revise kind _ _ =>
    kind ≠ jobType
  | .take worker _ | .goOn worker _ _ | .finish worker _ | .notified worker _ | .kill worker =>
    ∀ activity, ¬floor.board.Does worker jobType activity
  | .subscribe _ _ | .pass _ => True
  | .clean _ | .close => False

/-- Workers that come for another type have no part in the staff of a type. -/
theorem staff_of_more_other {board after : Board π ℓ} {kind jobType : String} {count : Nat}
    (workers : after.workers = board.workers ++ List.replicate count { jobType := kind })
    (other : kind ≠ jobType) : after.staff jobType = board.staff jobType := by
  rw [Board.staff_of_more workers, if_neg other]
  exact List.append_nil _

/-- What is not about a type changes neither its lane nor its staff. -/
theorem same_elsewhere {floor : Floor π ℓ} (sound : floor.board.Sound) {step : Step π ℓ}
    {jobType : String} (elsewhere : floor.Elsewhere jobType step) :
    (floor.step step).board.lane jobType = floor.board.lane jobType ∧
      (floor.step step).board.staff jobType = floor.board.staff jobType := by
  cases actor : step.actor? with
  | some own =>
    rcases acted sound actor with ⟨same, -⟩ | ⟨kind, old, next, turned⟩
    · rw [same]
      exact ⟨rfl, rfl⟩
    · have other : kind ≠ jobType := by
        rintro rfl
        cases step with
        | take | goOn | finish | notified | kill =>
          cases actor
          exact elsewhere _ turned.does
        | _ => cases actor
      exact ⟨turned.others _ (Ne.symm other),
        Board.staff_of_other turned.does turned.workers other⟩
  | none =>
    cases step with
    | create kind fingerprint payload skipsSearch =>
      have other : jobType ≠ kind := Ne.symm elsewhere
      have kept : (floor.board.forget floor.now kind).lane jobType = floor.board.lane jobType := by
        unfold Board.forget
        split
        · rw [Board.lane_prune, if_neg other]
        · rfl
      have workers := floor.board.workers_create floor.now kind fingerprint payload skipsSearch
      refine ⟨?_, by rw [Board.staff, Floor.step, workers]; rfl⟩
      rw [Floor.step]
      rcases floor.board.create_cases floor.now kind fingerprint payload skipsSearch with
        ⟨_, -, -, found⟩ | ⟨-, added⟩
      · rw [found]
        exact kept
      · rw [added, Board.lane_add, if_neg other]
        exact kept
    | know kind =>
      refine ⟨floor.board.lane_ready kind jobType, ?_⟩
      simp only [Floor.step, Board.ready]
      split <;> rfl
    | register kind concurrency =>
      simp only [Floor.step]
      split
      · next engaged =>
        obtain ⟨-, -, -, lanes, workers⟩ := Board.register_eq engaged
        exact ⟨lanes jobType, staff_of_more_other workers elsewhere⟩
      · exact ⟨rfl, rfl⟩
    | reinforce kind count =>
      exact ⟨floor.board.lane_ready kind jobType, staff_of_more_other rfl elsewhere⟩
    | revise kind seq change =>
      refine ⟨?_, ?_⟩
      · rw [Floor.step, Board.lane_revise, if_neg (Ne.symm elsewhere)]
      · refine (floor.board.staff_revise kind seq change jobType).trans
          (List.map_congr_left fun worker member => ?_) |>.trans (List.map_id _)
        obtain ⟨-, mine⟩ := List.mem_filter.mp member
        obtain rfl : worker.jobType = jobType := by simpa using mine
        unfold Worker.revised
        split
        · exact if_neg fun both => elsewhere both.1.symm
        · rfl
    | subscribe event listener | pass span => exact ⟨rfl, rfl⟩
    | clean | close => exact elsewhere.elim
    | _ => cases actor

end Floor

/-- The board of a chronicle is balanced at every moment. -/
theorem Chronicle.balanced (chronicle : Chronicle π ℓ) (count : Nat) :
    (chronicle.board count).Balanced := by
  induction count with
  | zero => exact fun _ => rfl
  | succ count ih => exact Floor.balanced_step (chronicle.sound count) ih (chronicle.steps count)

end QuestionDesk.Jobs
