import QuestionDesk.Proofs.Desk.Pointing
import QuestionDesk.Proofs.Desk.Settling

/-!
# Scheduled questions

Once a visit has returned and the listener of its job has been told, the database holds how the job
has ended, if no call has failed on the way. The visit and the job go on at the same time, so two
things can come too early: the failure listener for what the visit stores about the job, and the run
of a duplicate for what the visit remembers of its prompt.
-/
namespace QuestionDesk.Desk

open Jobs (Board Event Job)
open Pipeline (Run Runner)

/-- A visit is about to store what is known about the job of a question. -/
def IsRecording (desk : Desk) (questionId : String) : Prop :=
  ∃ (number : Nat) (visit : Visit) (ticket : Ticket), desk.visits[number]? = some visit ∧
    visit.phase = .recording ticket ∧ ticket.questionId = questionId

/-- A visit is about to remember that its prompt became a question. -/
def IsRemembering (desk : Desk) (questionId : String) : Prop :=
  ∃ (number : Nat) (visit : Visit) (ticket : Ticket), desk.visits[number]? = some visit ∧
    visit.phase = .remembering ticket ∧ ticket.questionId = questionId

/-! ## The visit of a question -/

section Visits

variable {desk : Desk} {occurrence : Occurrence} {questionId : String} {matter after : Matter}
  {number : Nat} {job : Job}

/-- A visit is the only one that was ever busy with a question. -/
structure Begun (number : Nat) (matter : Matter) : Prop where
  /-- No other visit is busy with it. -/
  only : ∀ other visit, matter.visit = some (other, visit) → other = number
  /-- It is busy with the question until the question has a job. -/
  there : matter.standing = .absent → ∃ visit, matter.visit = some (number, visit)

/-- A question that has a job is not one without. -/
theorem not_absent {standing : Standing} (stands : standing.job? = some job) :
    standing ≠ .absent := by
  rintro rfl
  cases stands

/-- While all goes well, no other visit becomes busy with a question. -/
theorem Begun.follow (begun : Begun number matter) (proper : matter.Proper desk.named questionId)
    (development : Development desk occurrence questionId matter after)
    (smooth : desk.isSmooth occurrence = true) : Begun number after := by
  obtain ⟨only, there⟩ := begun
  cases development with
  | rests | counted => exact ⟨only, there⟩
  | begun =>
    obtain ⟨visit, busy⟩ := there rfl
    cases busy
  | posed =>
    obtain rfl := only _ _ rfl
    refine ⟨?_, nofun⟩
    rintro other visit ⟨⟩
    rfl
  | unposed fails | unrecorded fails => exact absurd (fails.symm.trans smooth) nofun
  | recorded stands =>
    obtain rfl := only _ _ rfl
    refine ⟨?_, fun absent => absurd absent (not_absent stands)⟩
    rintro other visit ⟨⟩
    rfl
  | remembered =>
    obtain ⟨job, stands, _⟩ := (proper.attended _ _ rfl).of_remembering
    exact ⟨nofun, fun absent => absurd absent (not_absent stands)⟩
  | taken | wentOn | ended | cutOff | told | dismissed => exact ⟨only, nofun⟩

/-- A job that has ended stands where its listener is about to be told, or has been. -/
theorem Matter.Proper.standing_of_terminal (proper : matter.Proper desk.named questionId)
    (stands : matter.standing.job? = some job) (terminal : job.isTerminal = true) :
    (∃ event, matter.standing = .ends job event) ∨ matter.standing = .closed job := by
  have fits := proper.fits
  cases standing : matter.standing with
  | absent =>
    rw [standing] at stands
    cases stands
  | waits mine =>
    rw [standing] at stands fits
    cases stands
    cases fits with
    | waits pending => exact absurd (Job.isTerminal_of_pending pending) (by simp [terminal])
  | handled mine run =>
    rw [standing] at stands fits
    cases stands
    cases fits with
    | handled processing =>
      exact absurd (Job.isTerminal_of_processing processing) (by simp [terminal])
  | ends mine event =>
    rw [standing] at stands
    cases stands
    exact Or.inl ⟨event, rfl⟩
  | closed mine =>
    rw [standing] at stands
    cases stands
    exact Or.inr rfl

/-- A job that has ended stays as it is. -/
theorem Development.ended_stays
    (development : Development desk occurrence questionId matter after)
    (standing : (∃ event, matter.standing = .ends job event) ∨ matter.standing = .closed job) :
    (∃ event, after.standing = .ends job event) ∨ after.standing = .closed job := by
  cases development with
  | rests | counted | recorded | unrecorded | remembered => exact standing
  | begun | posed | unposed | taken | wentOn | ended | cutOff =>
    rcases standing with ⟨_, same⟩ | same <;> cases same
  | told | dismissed =>
    rcases standing with ⟨_, same⟩ | same <;> cases same
    exact Or.inr rfl

end Visits

/-! ## After the listener -/

section Stories

variable {desk : Desk} {occurrences : Nat → Occurrence} {questionId : String}
  {matters : Nat → Matter} {count : Nat} {job : Job}

/-- While all goes well in a course, no other visit becomes busy with a question. -/
theorem Story.begun (story : desk.Story occurrences questionId matters) {first number : Nat}
    (smooth : ∀ moment < count,
      (desk.course occurrences moment).isSmooth (occurrences moment) = true)
    (below : first ≤ count) (begun : Begun number (matters first)) :
    Begun number (matters count) := by
  obtain ⟨gap, rfl⟩ := Nat.exists_eq_add_of_le below
  induction gap with
  | zero => exact begun
  | succ gap ih =>
    exact (ih (fun moment before => smooth moment (by omega)) (by omega)).follow
      (story.proper (first + gap)) (story.develops (first + gap)) (smooth (first + gap) (by omega))

/-- A visit that was about to store a question and has been given a ticket leaves no visit busy with
the question, while all goes well. -/
theorem Story.returned (story : desk.Story occurrences questionId matters) {begun number : Nat}
    {prompt : String} {source : Option String} {visit : Visit}
    (smooth : ∀ moment < count,
      (desk.course occurrences moment).isSmooth (occurrences moment) = true)
    (below : begun ≤ count)
    (creating : (desk.course occurrences begun).visits[number]? =
      some ⟨prompt, source, .creating questionId⟩)
    (visited : (desk.course occurrences count).visits[number]? = some visit)
    (free : visit.phase.own? = none) : (matters count).visit = none := by
  have busy := ((story.keeps begun).visits number _).mpr ⟨creating, rfl⟩
  have begins : Begun number (matters begun) := by
    refine ⟨fun other visit same => ?_, fun _ => ⟨_, busy⟩⟩
    cases busy.symm.trans same
    rfl
  have only := (story.begun smooth below begins).only
  cases now : (matters count).visit with
  | none => rfl
  | some entry =>
    obtain ⟨other, still⟩ := entry
    obtain rfl := only other still now
    obtain ⟨found, own⟩ := ((story.keeps count).visits other still).mp now
    cases visited.symm.trans found
    rw [free] at own
    cases own

/-- A job that has ended and whose listener nobody is about to tell is over. -/
theorem Story.closed (story : desk.Story occurrences questionId matters)
    (staffed : (desk.course occurrences count).Staffed) {past seq : Nat} (below : past ≤ count)
    (found : (desk.course occurrences past).board.job? questionJobType seq = some job)
    (own : job.fingerprint = questionId) (terminal : job.isTerminal = true)
    (told : ∀ worker listener,
      (desk.course occurrences count).board.telling? worker ≠ some (listener, job)) :
    (matters count).standing = .closed job := by
  have standing := story.later (fun development _ now => development.ended_stays now) below
    ((story.proper past).standing_of_terminal (story.of_found found own) terminal)
  rcases standing with ⟨event, standing⟩ | closed
  · have placed := (story.keeps count).placed
    rw [standing] at placed
    obtain ⟨worker, does⟩ := placed
    exact absurd (staffed.telling?_eq does) (told worker _)
  · exact closed

end Stories

/-- Once a visit that was about to store a question has been given a ticket, the job of the question
has ended, and nobody is about to tell its listener, this is so while no call to the store or to the
database fails and nobody is cut off. If the job has an answer of its own, the database holds the
answer, and the job is known as completed. If it has failed, it is known as failed for its reason,
unless its listener was told while the visit was still about to store what is known about the job:
then it is known as pending. If it is a duplicate, nothing about the question is stored, and no
prompt points at it, unless its run pointed the prompt at another question while the visit was still
about to remember what the prompt became. -/
theorem scheduled_question_settled {settings : Settings} {desk : Desk}
    (started : start settings = .ok desk) {occurrences : Nat → Occurrence}
    (service : ∀ moment, (occurrences moment).isService = true) {count begun past : Nat}
    (smooth : ∀ moment < count,
      (desk.course occurrences moment).isSmooth (occurrences moment) = true)
    {number seq : Nat} {prompt questionId : String} {source : Option String} {visit : Visit}
    {ticket : Ticket} {job : Job} (asked : begun ≤ count)
    (creating : (desk.course occurrences begun).visits[number]? =
      some ⟨prompt, source, .creating questionId⟩)
    (visited : (desk.course occurrences count).visits[number]? = some visit)
    (returned : visit.phase = .counting ticket ∨ visit.phase = .ended (.ok ticket))
    (ended : past ≤ count)
    (found : (desk.course occurrences past).board.job? questionJobType seq = some job)
    (own : job.fingerprint = questionId) (terminal : job.isTerminal = true)
    (told : ∀ worker listener,
      (desk.course occurrences count).board.telling? worker ≠ some (listener, job)) :
    (job.status = .completed ∧ isDuplicate job = false ∧ ∃ execution chart,
      job.returnValue = Run.answerValue execution.fields chart ∧
        (desk.course occurrences count).HoldsAnswer questionId execution chart) ∨
    (job.status = .failed ∧
      ((desk.course occurrences count).HoldsFailure questionId job.failedReason ∨
        (desk.course occurrences count).HoldsOpen questionId ∧
          ∃ early < count, ∃ worker, occurrences early = .act (.tell worker) ∧
            (desk.course occurrences early).board.telling? worker = some (.failure, job) ∧
            (desk.course occurrences early).IsRecording questionId)) ∨
    (job.status = .completed ∧ isDuplicate job = true ∧
      (desk.course occurrences count).ledger questionId = {} ∧
      ((∀ now fingerprint entry,
        (desk.course occurrences count).store.findPrompt now fingerprint = .ok (some entry) →
          entry.questionId ≠ questionId) ∨
        ∃ early < count, ∃ worker response run prepared entry,
          occurrences early = .act (.work (.worker worker) response) ∧
          (desk.course occurrences early).run? (.worker worker) = some run ∧
          run.phase = .repointing prepared entry ∧ run.questionId = .text questionId ∧
          (desk.course occurrences early).IsRemembering questionId)) := by
  obtain ⟨matters, story⟩ := exists_story started service questionId
  have keeps := story.keeps count
  have proper := story.proper count
  have closed :=
    story.closed (accounted_course started service count).toStaffed ended found own terminal
    told
  have free : (matters count).visit = none := by
    refine story.returned smooth asked creating visited ?_
    rcases returned with phase | phase <;> rw [phase] <;> rfl
  have idle : ¬Recording (matters count) := by
    rintro ⟨_, _, _, _, busy⟩
    rw [free] at busy
    cases busy
  rcases ((story.sure smooth).closed job closed).holds keeps proper idle with answered |
    ⟨status, kept | ⟨opens, missed⟩⟩ | ⟨status, marked, gone⟩
  · exact Or.inl answered
  · exact Or.inr (Or.inl ⟨status, Or.inl kept⟩)
  · obtain ⟨early, below, worker, acts, telling, other, prompt, source, ticket, busy⟩ := missed
    obtain ⟨there, mine⟩ := ((story.keeps early).visits _ _).mp busy
    exact Or.inr (Or.inl ⟨status, Or.inr ⟨opens, early, below, worker, acts, telling, other, _,
      ticket, there, rfl, Option.some.inj mine⟩⟩)
  · refine Or.inr (Or.inr ⟨status, marked, gone, ?_⟩)
    rcases (story.pointed started count).gone ⟨job, Or.inl closed, marked⟩ with
      ⟨early, below, worker, response, mine, run, prepared, entry, acts, running, phase, standing,
        other, prompt, source, ticket, busy⟩ | ⟨nowhere, _⟩
    · obtain ⟨there, same⟩ := ((story.keeps early).visits _ _).mp busy
      refine Or.inr ⟨early, below, worker, response, run, prepared, entry, acts, running, phase, ?_,
        other, _, ticket, there, rfl, Option.some.inj same⟩
      have fits := (story.proper early).fits
      rw [standing] at fits
      cases fits with
      | handled _ _ _ carries =>
        exact (carries.named (by rw [phase]; nofun)).trans (congrArg Value.text
          ((story.proper early).known mine (by rw [standing]; rfl)).question)
    · refine Or.inl fun now fingerprint entry looked named => ?_
      obtain ⟨item, there, read⟩ := Cache.Store.prompt?_of_found looked
      exact nowhere fingerprint ⟨item, entry, there, read, named⟩

/-! ## One abstention -/

/-- The document of a plan from which the planner abstains. -/
def abstention : String := "\x7b\"plan\": \x7b\x7d, \"abstain\": true\x7d"

/-- Somebody asks, the planner abstains, and the listener is told; of the visit, the last two steps
are taken after a number of steps of the worker. -/
def abstained (early : Bool) : List Occurrence :=
  let steps : List Occurrence := [.act (.visit 0), .act (.visit 0)]
  [.act (.come "Which types?" none), .act (.visit 0), .act (.visit 0)] ++
    (if early then [] else steps) ++
    [.act (.take 0)] ++ served 0 ["", abstention] ++ [.act (.tell 0)] ++
    (if early then steps else [])

/-- A job that fails after the visit has returned is known as failed. -/
theorem scheduled_question_settled_late : ∃ (desk : Desk) (job : Job) (visit : Visit)
    (ticket : Ticket), start smallService = .ok desk ∧
    (∀ moment, (script (abstained false) moment).isService = true) ∧
    (∀ moment < 9, (desk.course (script (abstained false)) moment).isSmooth
      (script (abstained false) moment) = true) ∧
    (desk.course (script (abstained false)) 2).visits[0]? =
      some ⟨"Which types?", none, .creating "q1"⟩ ∧
    (desk.course (script (abstained false)) 9).visits[0]? = some visit ∧
    visit.phase = .ended (.ok ticket) ∧
    (desk.course (script (abstained false)) 9).board.job? questionJobType 1 = some job ∧
    job.fingerprint = "q1" ∧ job.isTerminal = true ∧
    (∀ worker listener, (desk.course (script (abstained false)) 9).board.telling? worker ≠
      some (listener, job)) ∧
    (job.status = .completed ∨ job.status = .failed) := by
  obtain ⟨desk, started, passes⟩ := @exists_start smallService (fun desk =>
    let last := desk.course (script (abstained false)) 9
    runsWith isSmooth desk (script (abstained false)) 9 &&
    (desk.course (script (abstained false)) 2).creating? 0 = some ("Which types?", none, "q1") &&
    (last.ticket? 0).isSome && last.isIdle &&
    (last.board.job? questionJobType 1).any fun job => job.fingerprint = "q1" && job.isTerminal)
    (by decide +kernel)
  simp only [Bool.and_eq_true, decide_eq_true_eq, Option.isSome_iff_exists] at passes
  obtain ⟨⟨⟨⟨smooth, creates⟩, ticket, given⟩, idle⟩, passes⟩ := passes
  obtain ⟨job, found, own⟩ := (Option.any_eq_true _ _).mp passes
  simp only [Bool.and_eq_true, decide_eq_true_eq] at own
  obtain ⟨visit, visited, returned⟩ := visit_of_ticket? given
  have told : ∀ worker listener, (desk.course (script (abstained false)) 9).board.telling? worker ≠
      some (listener, job) := by
    intro worker listener telling
    rw [telling?_of_idle idle] at telling
    cases telling
  refine ⟨desk, job, visit, ticket, started, @isService_script (abstained false) rfl,
    passes_of_runs smooth, visit_of_creating? creates, visited, returned, found, own.1, own.2,
    told, ?_⟩
  rcases scheduled_question_settled started (@isService_script (abstained false) rfl)
      (passes_of_runs smooth) (by decide) (visit_of_creating? creates) visited (Or.inr returned)
      (Nat.le_refl 9) found own.1 own.2 told with ⟨status, _⟩ | ⟨status, _⟩ | ⟨status, _⟩
  · exact Or.inl status
  · exact Or.inr status
  · exact Or.inl status

/-- A job that fails before the visit has stored what is known about it is known as pending after
its listener was told, and will be. -/
theorem scheduled_question_settled_early : ∃ (desk : Desk) (job : Job) (ticket : Ticket),
    start smallService = .ok desk ∧
    (∀ moment < 9, (desk.course (script (abstained true)) moment).isSmooth
      (script (abstained true) moment) = true) ∧
    script (abstained true) 6 = .act (.tell 0) ∧
    (desk.course (script (abstained true)) 6).board.telling? 0 = some (.failure, job) ∧
    job.fingerprint = "q1" ∧ job.status = .failed ∧
    (desk.course (script (abstained true)) 9).ticket? 0 = some ticket ∧
    ticket.questionId = "q1" ∧
    ((desk.course (script (abstained true)) 9).ledger "q1").records.map (·.status) =
      ["pending"] := by
  obtain ⟨desk, started, passes⟩ := @exists_start smallService (fun desk =>
    let last := desk.course (script (abstained true)) 9
    runsWith isSmooth desk (script (abstained true)) 9 &&
    (last.ticket? 0).any (fun ticket => ticket.questionId = "q1") &&
    (last.ledger "q1").records.map (·.status) = ["pending"] &&
    ((desk.course (script (abstained true)) 6).board.telling? 0).any fun told =>
      told.1 = .failure && told.2.fingerprint = "q1" && told.2.status = .failed) (by decide +kernel)
  simp only [Bool.and_eq_true, decide_eq_true_eq] at passes
  obtain ⟨⟨⟨smooth, given⟩, pending⟩, told⟩ := passes
  obtain ⟨ticket, given, own⟩ := (Option.any_eq_true _ _).mp given
  obtain ⟨⟨listener, job⟩, telling, same⟩ := (Option.any_eq_true _ _).mp told
  simp only [Bool.and_eq_true, decide_eq_true_eq] at same
  obtain ⟨⟨rfl, mine⟩, failed⟩ := same
  exact ⟨desk, job, ticket, started, passes_of_runs smooth, rfl, telling, mine, failed, given,
    of_decide_eq_true own, pending⟩

end QuestionDesk.Desk
