import QuestionDesk.Proofs.Desk.Courses

/-!
# Seclusion

Subscribers never influence the work. Whoever subscribes, goes away, or holds a sink that refuses
what it is told changes nothing but the relay, and nothing of the relay flows back: two desks that
differ in their relays alone go on differing in them alone, and call the outside in the same way.
-/
namespace QuestionDesk

open Pipeline (Call Next Run Runner)

/-- Something that happens to a desk or to the sinks of its subscribers. -/
inductive Incident where
  /-- The desk acts. -/
  | act (action : Action)
  /-- Those who hold the sinks change them: there are others, and some that took what they were told
  refuse it from now on. -/
  | alter (sinks : Keyed Push.Sink)

/-- Whether an action is part of the work. The others are those of subscribers and of their
sinks. -/
def Action.isWork : Action → Bool
  | .subscribe _ _ | .unsubscribe _ _ | .fire | .read => false
  | _ => true

/-- Whether an incident is part of the work. -/
def Incident.isWork : Incident → Bool
  | .act action => action.isWork
  | .alter _ => false

/-- A call of a runner, with the request that it sends to a remote server, if it sends one. -/
structure Sent where
  /-- Who calls. -/
  runner : Runner
  /-- The call. -/
  call : Call
  /-- What is sent. -/
  request : Option Remote.Request

namespace Desk

/-- The desk with another relay. -/
def withRelay (desk : Desk) (relay : Push.Relay) : Desk := { desk with relay }

/-- The desk after an incident. -/
def undergo (desk : Desk) : Incident → Desk
  | .act action => desk.act action
  | .alter sinks => desk.withRelay { desk.relay with sinks }

/-- The desk after several incidents. -/
def undergoAll (desk : Desk) (incidents : List Incident) : Desk := incidents.foldl undergo desk

/-- The call to the outside that an incident makes for a run, if it makes one. -/
def sent? (desk : Desk) : Incident → Option Sent
  | .act (.work runner _) => do
    let call ← (desk.run? runner).bind Run.call?
    return ⟨runner, call, desk.request? call⟩
  | _ => none

/-- The calls to the outside that runs make in several incidents, one after another. -/
def sentAll (desk : Desk) : List Incident → List Sent
  | [] => []
  | incident :: rest => (desk.sent? incident).toList ++ (desk.undergo incident).sentAll rest

/-! ## One incident -/

section Relays

variable (desk : Desk) (relay : Push.Relay)

/-- A visit neither sees the relay nor changes it. -/
theorem visitStep_withRelay (visit : Visit) :
    (desk.withRelay relay).visitStep visit =
      ((desk.visitStep visit).1, (desk.visitStep visit).2.withRelay relay) := by
  simp only [visitStep, withRelay]
  cases visit.phase with
  | lookingUp =>
    dsimp only
    cases desk.store.findPrompt desk.now (promptFingerprint visit.prompt) with
    | error failure => rfl
    | ok known => dsimp only; split <;> rfl
  | remembering ticket =>
    dsimp only
    split <;> rfl
  | _ =>
    dsimp only
    try (split <;> rfl)

/-- A visit goes on without the relay. -/
theorem visit_withRelay (number : Nat) :
    (desk.withRelay relay).visit number = (desk.visit number).withRelay relay := by
  have visits : (desk.withRelay relay).visits = desk.visits := rfl
  simp only [Desk.visit, visits, visitStep_withRelay]
  split <;> rfl

/-- A call neither sees the relay nor changes it. -/
theorem perform_withRelay (call : Call) (response : Remote.Response) :
    (desk.withRelay relay).perform call response =
      ((desk.perform call response).1, (desk.perform call response).2.withRelay relay) := by
  cases call with
  | rememberPrompt fingerprint entry =>
    simp only [perform, withRelay]
    split <;> rfl
  | rememberQuery hash questionId result chart jobId =>
    have same : (desk.withRelay relay).rememberQuery hash questionId result chart jobId =
        desk.rememberQuery hash questionId result chart jobId := rfl
    simp only [perform, same]
    split <;> rfl
  | _ => rfl

/-- The relay has no part in what runs there are. -/
theorem run?_withRelay (runner : Runner) :
    (desk.withRelay relay).run? runner = desk.run? runner := rfl

/-- A runner does what its run does next without the relay. -/
theorem follow_withRelay (runner : Runner) (run : Run) (next : Next) :
    (desk.withRelay relay).follow runner run next =
      (desk.follow runner run next).withRelay relay := by
  cases next with
  | goOn following notes =>
    cases runner <;> simp only [follow, goOn, withHand, withRelay] <;> split <;> rfl
  | ended outcome notes =>
    cases runner <;> simp only [follow, conclude, leaveLine_eq, withHand, withRelay] <;> rfl

/-- A run goes on without the relay. -/
theorem work_withRelay (runner : Runner) (response : Remote.Response) :
    (desk.withRelay relay).work runner response = (desk.work runner response).withRelay relay := by
  cases running : desk.run? runner with
  | none => simp only [work, run?_withRelay, running]
  | some run =>
    cases calls : run.call? with
    | some call =>
      rw [work_of_call running calls,
        @work_of_call (desk.withRelay relay) runner response run call running calls,
        perform_withRelay]
      exact follow_withRelay _ _ _ _ _
    | none =>
      cases phase : run.phase with
      | opening =>
        simp only [work, run?_withRelay, running, phase]
        exact follow_withRelay _ _ _ _ _
      | queueing prepared =>
        have turns : (desk.withRelay relay).turns = desk.turns := rfl
        simp only [work, run?_withRelay, running, phase, turns]
        split
        · exact follow_withRelay _ _ _ _ _
        · rfl
      | repointing prepared known => simp only [work, run?_withRelay, running, phase, calls]
      | _ => simp [Run.call?, phase] at calls

/-- What a listener stores about a job has nothing to do with the relay. -/
theorem store?_withRelay (listener : Listener) (job : Jobs.Job) :
    (desk.withRelay relay).store? listener job =
      ((desk.store? listener job).1, (desk.store? listener job).2.withRelay relay) := by
  cases listener with
  | completion => simp only [store?]; split <;> rfl
  | failure => rfl

/-- A run is cut off without the relay. -/
theorem leaveLine_withRelay (runner : Runner) (run : Run) :
    (desk.withRelay relay).leaveLine runner run =
      (desk.leaveLine runner run).withRelay relay := by
  rw [leaveLine_eq, leaveLine_eq]
  rfl

/-- The promoter runs without the relay. -/
theorem promote_withRelay : (desk.withRelay relay).promote = desk.promote.withRelay relay := by
  have due : (desk.withRelay relay).promoter.isDue (desk.withRelay relay).now =
      desk.promoter.isDue desk.now := rfl
  simp only [Desk.promote, due]
  split <;> rfl

end Relays

/-! ## Two desks -/

/-- Whether two desks differ in nothing but their relays. -/
def SameWork (here there : Desk) : Prop := there = here.withRelay there.relay

/-- A desk does the same work as itself. -/
theorem SameWork.refl (desk : Desk) : desk.SameWork desk := rfl

/-- A desk does the same work as itself with another relay. -/
theorem sameWork_of_eq {here there : Desk} {relay : Push.Relay}
    (same : there = here.withRelay relay) : here.SameWork there := by
  subst same
  rfl

section Pairs

variable {here there : Desk} (same : here.SameWork there)
include same

/-- Doing the same work as one that does the same work. -/
theorem SameWork.trans {third : Desk} (next : there.SameWork third) : here.SameWork third := by
  rw [SameWork] at same next ⊢
  rw [next, same]
  rfl

/-- What a subscriber is told changes nothing of the work. -/
theorem SameWork.announce (job : Jobs.Job) :
    (here.announce job).SameWork (there.announce job) := by
  obtain ⟨relay, told⟩ := here.announce_eq job
  obtain ⟨other, heard⟩ := there.announce_eq job
  rw [told, heard, same]
  rfl

/-- A listener hears of a job in the same way. -/
theorem SameWork.hear (listener : Listener) (job : Jobs.Job) :
    (there.hear listener job).1 = (here.hear listener job).1 ∧
      (here.hear listener job).2.SameWork (there.hear listener job).2 := by
  have stores := store?_withRelay here there.relay listener job
  rw [← same] at stores
  simp only [Desk.hear]
  split
  · rw [stores]
    exact ⟨rfl, SameWork.announce (sameWork_of_eq rfl) job⟩
  · exact ⟨rfl, same⟩

/-- A worker tells its listener in the same way. -/
theorem SameWork.tell (worker : Nat) : (here.tell worker).SameWork (there.tell worker) := by
  have board : there.board = here.board := by rw [same]; rfl
  simp only [Desk.tell, board]
  split
  · next listener job telling =>
    obtain ⟨outcome, heard⟩ := same.hear listener job
    rw [outcome, heard]
    rfl
  · exact same

/-- Somebody is cut off in the same way. -/
theorem SameWork.cut (runner : Runner) : (here.cut runner).SameWork (there.cut runner) := by
  have board : there.board = here.board := by rw [same]; rfl
  have runs : there.run? runner = here.run? runner := by rw [same]; rfl
  simp only [Desk.cut, runs]
  cases here.run? runner with
  | some run =>
    have left := leaveLine_withRelay here there.relay runner run
    rw [← same] at left
    cases runner <;> simp only [left] <;> rfl
  | none =>
    cases runner with
    | hand number => exact same
    | worker index =>
      simp only [dismiss, board]
      split
      · next listener job telling =>
        split
        · have told := same.announce job
          rw [told]
          rfl
        · rw [same]; rfl
      · rw [same]; rfl

/-- An incident that is part of the work changes both desks in the same way. -/
theorem SameWork.undergo {incident : Incident} (works : incident.isWork = true) :
    (here.undergo incident).SameWork (there.undergo incident) := by
  cases incident with
  | alter sinks => cases works
  | act action =>
    cases action with
    | subscribe questionId sink | unsubscribe jobKey sink | fire | read => cases works
    | visit number =>
      rw [same]
      exact sameWork_of_eq (visit_withRelay here there.relay number)
    | work runner response =>
      rw [same]
      exact sameWork_of_eq (work_withRelay here there.relay runner response)
    | tell worker => exact same.tell worker
    | cut runner => exact same.cut runner
    | promote =>
      rw [same]
      exact sameWork_of_eq (promote_withRelay here there.relay)
    | _ => rw [same]; rfl

/-- The calls of an incident are the same. -/
theorem SameWork.sent? (incident : Incident) : there.sent? incident = here.sent? incident := by
  rw [same]
  cases incident with
  | alter sinks => rfl
  | act action => cases action <;> rfl

end Pairs

/-- An incident that is not part of the work changes nothing but the relay. -/
theorem sameWork_of_not_isWork (desk : Desk) {incident : Incident}
    (apart : incident.isWork = false) : desk.SameWork (desk.undergo incident) := by
  cases incident with
  | alter sinks => exact sameWork_of_eq rfl
  | act action =>
    cases action with
    | subscribe questionId sink =>
      obtain ⟨relay, went⟩ := desk.subscribe_eq questionId sink
      simp only [Desk.undergo, act, went]
      exact sameWork_of_eq rfl
    | unsubscribe jobKey sink | fire | read => exact sameWork_of_eq rfl
    | _ => cases apart

/-- An incident that is not part of the work calls nothing. -/
theorem sent?_of_not_isWork (desk : Desk) {incident : Incident}
    (apart : incident.isWork = false) : desk.sent? incident = none := by
  cases incident with
  | alter sinks => rfl
  | act action =>
    cases action with
    | work runner response => cases apart
    | _ => rfl

/-! ## Many incidents -/

/-- Only what is part of the work has a part in the work: the others may as well not happen. -/
theorem SameWork.undergoAll {here there : Desk} (same : here.SameWork there)
    (incidents : List Incident) :
    (here.undergoAll (incidents.filter Incident.isWork)).SameWork (there.undergoAll incidents) ∧
      there.sentAll incidents = here.sentAll (incidents.filter Incident.isWork) := by
  induction incidents generalizing here there with
  | nil => exact ⟨same, rfl⟩
  | cons incident rest before =>
    cases works : incident.isWork with
    | true =>
      obtain ⟨later, sent⟩ := before (same.undergo works)
      rw [List.filter_cons_of_pos works]
      exact ⟨later, by rw [sentAll, sentAll, same.sent?, sent]⟩
    | false =>
      obtain ⟨later, sent⟩ := before (same.trans (there.sameWork_of_not_isWork works))
      rw [List.filter_cons_of_neg (by simp [works])]
      exact ⟨later, by rw [sentAll, sent?_of_not_isWork there works, sent]; rfl⟩

/-- Subscribers never influence the work. Two sequences of incidents that have their work in common
leave the same jobs in the same lanes with the same workers, the same database, the same store and
everything else as it is, apart from the relay, and the runs have made the same calls in the same
order with the same requests. It does not matter who subscribes or goes away in between, which
timers fire, or when a sink begins to refuse what it is told. -/
theorem work_of_subscribers (desk : Desk) {quiet followed : List Incident}
    (same : followed.filter Incident.isWork = quiet.filter Incident.isWork) :
    (desk.undergoAll followed).board = (desk.undergoAll quiet).board ∧
      (desk.undergoAll followed).database = (desk.undergoAll quiet).database ∧
      (desk.undergoAll followed).store = (desk.undergoAll quiet).store ∧
      (desk.undergoAll quiet).SameWork (desk.undergoAll followed) ∧
      desk.sentAll followed = desk.sentAll quiet := by
  obtain ⟨alone, sent⟩ := (SameWork.refl desk).undergoAll quiet
  obtain ⟨beside, told⟩ := (SameWork.refl desk).undergoAll followed
  rw [same] at beside told
  have both : (desk.undergoAll quiet).SameWork (desk.undergoAll followed) := by
    rw [SameWork] at alone beside ⊢
    rw [alone, beside]
    rfl
  refine ⟨?_, ?_, ?_, both, told.trans sent.symm⟩ <;>
  · rw [both]
    rfl

/-- Somebody asks a question, and it is answered. -/
def answered : List Action :=
  .come "Which types?" none :: List.replicate 4 (.visit 0) ++ .take 0 ::
    ["", typesPlan, "", "", "", typesRows, "{}", ""].map
      (fun text => .work (.worker 0) (.answer 200 text)) ++ [.tell 0]

/-- A question is answered while somebody subscribes, whose sink refuses the answer, while somebody
else subscribes in vain, and while a third one gives up a subscription that there is not. -/
def attended : List Incident :=
  (answered.take 5).map .act ++
    [.alter [("client", .recorder [] 0 false false)], .act (.subscribe "q1" "client"),
      .act (.subscribe "q2" "client")] ++
    ((answered.drop 5).take 9).map .act ++
    [.alter [("client", .recorder [] 0 true true)], .act (.unsubscribe "nothing" "other")] ++
    (answered.drop 14).map .act ++ [.act .fire, .act .read]

/-- A sink that refuses the answer is closed, and the work goes on as it does without it. -/
theorem work_of_attended : ∃ desk : Desk, start smallService = .ok desk ∧
    attended.filter Incident.isWork = (answered.map .act).filter Incident.isWork ∧
    (desk.undergoAll attended).board = (desk.undergoAll (answered.map .act)).board ∧
    desk.sentAll attended = desk.sentAll (answered.map .act) ∧
    (desk.sentAll attended).length = 6 ∧
    (desk.undergoAll attended).relay.sinks = [("client", .recorder [] 1 true true)] ∧
    (desk.undergoAll (answered.map .act)).relay.sinks = [] := by
  obtain ⟨desk, started, passes⟩ := @exists_start smallService (fun desk =>
    (desk.sentAll attended).length = 6 &&
    (desk.undergoAll attended).relay.sinks = [("client", .recorder [] 1 true true)] &&
    (desk.undergoAll (answered.map .act)).relay.sinks = []) (by decide +kernel)
  simp only [Bool.and_eq_true, decide_eq_true_eq] at passes
  obtain ⟨⟨six, told⟩, untold⟩ := passes
  have same : attended.filter Incident.isWork = (answered.map .act).filter Incident.isWork := rfl
  obtain ⟨board, _, _, _, sent⟩ := work_of_subscribers desk same
  exact ⟨desk, started, same, board, sent, six, told, untold⟩

end Desk

end QuestionDesk
