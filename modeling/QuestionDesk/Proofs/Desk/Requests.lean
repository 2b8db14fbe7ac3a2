import QuestionDesk.Proofs.Desk.Failures
import QuestionDesk.Proofs.Desk.Tallies

/-!
# Requests that are counted

A request that is answered with a ticket is stored once, if its question is there when it is about
to be stored, and stays stored as long as its question does. A question that is there goes only when
the run of its own job finds that its query was answered for another question. So the requests that
are stored are those that were answered with a ticket, one for each, without those whose question
was removed as a duplicate.
-/
namespace QuestionDesk.Desk

open Jobs (Job)
open Pipeline (Run Runner)

/-! ## Visits of a course -/

section Course

variable {settings : Settings} {desk : Desk} (started : start settings = .ok desk)
  {occurrences : Nat → Occurrence}

include started

/-- At first nobody has come. -/
theorem visits_start : desk.visits = [] := by
  obtain ⟨_, _, rfl⟩ := start_eq started
  rfl

/-- In a course, a visit is about to have its request stored only if its place is to be stored. -/
theorem placed_course (count : Nat) : ∀ visit ∈ (desk.course occurrences count).visits,
    ∀ ticket, visit.phase = .counting ticket → visit.source.isSome = true := by
  induction count with
  | zero =>
    intro visit member
    rw [course, visits_start started] at member
    cases member
  | succ count before =>
    intro visit member ticket counting
    obtain ⟨index, found⟩ := List.mem_iff_getElem?.mp member
    rcases (visiting_occur _ _).before found with same | ⟨looking, _⟩ | ⟨earlier, there, rfl⟩
    · exact before visit (List.mem_of_getElem? same) ticket counting
    · cases looking.symm.trans counting
    · exact @placed_of_step _ earlier _ counting

/-- In a course, every visit has come at some moment. -/
theorem came_course (count : Nat) : ∀ visit ∈ (desk.course occurrences count).visits,
    ∃ moment < count, occurrences moment = .act (.come visit.prompt visit.source) := by
  induction count with
  | zero =>
    intro visit member
    rw [course, visits_start started] at member
    cases member
  | succ count before =>
    intro visit member
    obtain ⟨index, found⟩ := List.mem_iff_getElem?.mp member
    have earlier : ∀ visit ∈ (desk.course occurrences count).visits,
        ∃ moment < count + 1, occurrences moment = .act (.come visit.prompt visit.source) := by
      intro visit member
      obtain ⟨moment, below, came⟩ := before visit member
      exact ⟨moment, Nat.lt_succ_of_lt below, came⟩
    rcases (visiting_occur _ _).before found with same | ⟨_, came⟩ | ⟨visit, there, rfl⟩
    · exact earlier visit (List.mem_of_getElem? same)
    · exact ⟨count, Nat.lt_succ_self count, came⟩
    · exact earlier visit (List.mem_of_getElem? there)

end Course

/-- In a course, a visit that has ended stays as it is. -/
theorem ended_course {desk : Desk} {occurrences : Nat → Occurrence} {count later number : Nat}
    (after : count ≤ later) {visit : Visit} {outcome : Except Failure Ticket}
    (found : (desk.course occurrences count).visits[number]? = some visit)
    (ended : visit.phase = .ended outcome) :
    (desk.course occurrences later).visits[number]? = some visit := by
  obtain ⟨gap, rfl⟩ := Nat.exists_eq_add_of_le after
  clear after
  induction gap with
  | zero => exact found
  | succ gap before => exact (visiting_occur _ _).ended before ended

/-! ## Questions with a job -/

section Developments

variable {desk : Desk} {occurrence : Occurrence} {questionId : String} {matter after : Matter}

/-- A question that has a job keeps it. -/
theorem Development.present (development : Development desk occurrence questionId matter after)
    (before : matter.standing ≠ .absent) : after.standing ≠ .absent := by
  cases development with
  | rests | counted | recorded | unrecorded | remembered => exact before
  | begun | posed | unposed => exact absurd rfl before
  | taken | wentOn | ended | cutOff | told | dismissed => exact nofun

/-- A question that has a job and is there had one before and was there, or has just been stored. -/
theorem Development.appears (development : Development desk occurrence questionId matter after)
    (now : after.standing ≠ .absent) :
    matter.standing ≠ .absent ∨ after.ledger.wording = some .draft := by
  cases development with
  | rests | counted | recorded | unrecorded | remembered => exact Or.inl now
  | begun | unposed => exact absurd rfl now
  | posed => exact Or.inr rfl
  | taken | wentOn | ended | cutOff | told | dismissed => exact Or.inl nofun

end Developments

/-- At a moment of a course, the run of the job of a question is about to remove the question, since
its query was answered for another question, and goes on. -/
def RemovesDuplicate (desk : Desk) (occurrences : Nat → Occurrence) (questionId : String)
    (moment : Nat) : Prop :=
  ∃ worker response run prepared entry,
    occurrences moment = .act (.work (.worker worker) response) ∧
    (desk.course occurrences moment).run? (.worker worker) = some run ∧
      run.questionId = .text questionId ∧ run.phase = .removing prepared entry ∧
        entry.questionId ≠ questionId

/-- A job that is there is not absent. -/
theorem Standing.ne_absent {standing : Standing} {job : Job} (stands : standing.job? = some job) :
    standing ≠ .absent := by
  rintro rfl
  cases stands

/-- A question that a run is about to remove is not there when the run has gone on, where nothing
fails. -/
theorem hasQuestion_work {desk : Desk} (faultless : desk.database.faults = []) {runner : Runner}
    {run : Run} (running : desk.run? runner = some run) {prepared : Pipeline.Prepared}
    {entry : Cache.QueryEntry} (phase : run.phase = .removing prepared entry)
    (response : Remote.Response) :
    (desk.work runner response).hasQuestion run.question = false := by
  have calls : run.call? = some (.deleteQuestion run.questionId) := by simp [Run.call?, phase]
  rw [work_of_call running calls, hasQuestion, (follow_apart _ runner run _).2]
  have gone := Database.hasQuestion_deleteQuestion desk.database.tables run.question
  rw [← faultless] at gone
  exact gone

section Stories

variable {settings : Settings} {desk : Desk} {occurrences : Nat → Occurrence} {questionId : String}
  {matters : Nat → Matter} (story : desk.Story occurrences questionId matters)

include story

/-- A question is there where something is written about it. -/
theorem Story.hasQuestion_eq (count : Nat) :
    (desk.course occurrences count).hasQuestion questionId =
      (matters count).ledger.wording.isSome := by
  rw [← (story.keeps count).ledger, Bool.eq_iff_iff, Option.isSome_iff_exists]
  exact Database.hasQuestion_iff _ _

/-- A question that is about to be stored has no job yet. -/
theorem Story.absent_of_creating {count number : Nat} {prompt : String} {source : Option String}
    (found : (desk.course occurrences count).visits[number]? =
      some ⟨prompt, source, .creating questionId⟩) : (matters count).standing = .absent := by
  cases (story.proper count).attended _ _ (((story.keeps count).visits _ _).mpr ⟨found, rfl⟩) with
  | creating absent => exact absent

/-- A question that has a job is there, unless it was removed as a duplicate. -/
theorem Story.removes_of_gone {count : Nat} (present : (matters count).standing ≠ .absent)
    (gone : (desk.course occurrences count).hasQuestion questionId = false) :
    ∃ moment < count, RemovesDuplicate desk occurrences questionId moment := by
  induction count with
  | zero =>
    rw [story.first] at present
    exact absurd rfl present
  | succ count earlier =>
    rw [story.hasQuestion_eq, Option.isSome_eq_false_iff, Option.isNone_iff_eq_none] at gone
    -- A question that has only now got its job has been stored by the same step, and is there.
    rcases (story.develops count).appears present with before | stored
    · cases asked : (matters count).ledger.wording with
      | none =>
        obtain ⟨moment, below, removes⟩ := earlier before (by rw [story.hasQuestion_eq, asked]; rfl)
        exact ⟨moment, Nat.lt_succ_of_lt below, removes⟩
      | some wording =>
        obtain ⟨_, worker, response, run, prepared, entry, acts, running, phase, own, unanswered⟩ :=
          (story.develops count).removes (story.proper count) asked gone
        refine ⟨count, Nat.lt_succ_self count, worker, response, run, prepared, entry, acts,
          running, own, phase, fun same => unanswered ((story.keeps count).cited ?_)⟩
        exact Or.inr ⟨_, run, prepared, entry, running, Or.inl phase, same⟩
    · cases stored.symm.trans gone

variable (started : start settings = .ok desk)
  (service : ∀ moment, (occurrences moment).isService = true)

include started service

/-- A question that was removed as a duplicate, where nothing failed, is gone for good. -/
theorem Story.gone_of_removes {moment count : Nat} (below : moment < count)
    (faultless : (desk.course occurrences moment).database.faults = [])
    (removes : RemovesDuplicate desk occurrences questionId moment) :
    (desk.course occurrences count).hasQuestion questionId = false := by
  obtain ⟨worker, response, run, prepared, entry, acts, running, named, phase, _⟩ := removes
  obtain ⟨job, handles⟩ := (accounted_course started service moment).handles running
  have own : run.question = questionId := Run.question_eq named
  have same : run.question = job.fingerprint := handles.carries.question (by rw [phase]; nofun)
  have asked := ((kept_there (by rw [phase]; rfl)).mp handles.kept).asked
  rw [← same, own, (story.keeps moment).ledger] at asked
  have gone : (desk.course occurrences (moment + 1)).hasQuestion questionId = false := by
    rw [course, acts, ← own]
    exact hasQuestion_work faultless running phase response
  rw [story.hasQuestion_eq, Option.isSome_eq_false_iff, Option.isNone_iff_eq_none] at gone
  have removed := ((story.develops moment).removes (story.proper moment) asked gone).1
  have still := story.later (fun development proper now => now.follow proper development) below
    removed
  rw [story.hasQuestion_eq, still.gone]
  rfl

/-- A question for which a visit has a ticket has a job. -/
theorem Story.present_of_ticket {count number : Nat} {visit : Visit} {ticket : Ticket}
    (found : (desk.course occurrences count).visits[number]? = some visit)
    (has : HasTicket visit ticket) (own : ticket.questionId = questionId) :
    (matters count).standing ≠ .absent := by
  -- By induction on the moments: the visit had its ticket before, or has earned it in the last step.
  induction count generalizing visit with
  | zero =>
    rw [course, visits_start started] at found
    cases found
  | succ count before =>
    refine (story.develops count).present ?_
    rcases (visiting_occur _ _).before found with same | ⟨looking, _⟩ | ⟨earlier, there, rfl⟩
    · exact before same has
    · rcases has with has | has <;> cases looking.symm.trans has
    · cases earned_of_step has with
      | found known =>
        obtain ⟨board, fingerprint⟩ := (accounted_course started service count).of_job? known
        exact Standing.ne_absent (story.of_found board (fingerprint.trans own))
      | made remembering =>
        obtain ⟨prompt, source, phase⟩ := earlier
        obtain rfl : phase = .remembering ticket := remembering
        have mine := ((story.keeps count).visits _ _).mpr ⟨there, congrArg some own⟩
        obtain ⟨job, stands, _⟩ := ((story.proper count).attended _ _ mine).of_remembering
        exact Standing.ne_absent stands
      | held had => exact before there had

/-- The question of a request that was answered with a ticket has a job. -/
theorem Story.present_of_accepted {count : Nat} {request : String × Option String}
    (accepted : request ∈ (desk.course occurrences count).accepted) (own : request.1 = questionId) :
    (matters count).standing ≠ .absent := by
  obtain ⟨visit, member, mine⟩ := List.mem_filterMap.mp accepted
  obtain ⟨number, there⟩ := List.mem_iff_getElem?.mp member
  obtain ⟨ticket, has, same⟩ := hasTicket_of_accepted mine
  exact story.present_of_ticket started service there has (same.trans own)

end Stories

/-! ## Whole courses -/

section Courses

variable {settings : Settings} {desk : Desk} (started : start settings = .ok desk)
  {occurrences : Nat → Occurrence} (service : ∀ moment, (occurrences moment).isService = true)

include started service

/-- The question of a request that was answered with a ticket is not about to be stored. -/
theorem not_creating_of_accepted {count number : Nat} {request : String × Option String}
    (accepted : request ∈ (desk.course occurrences count).accepted) {prompt questionId : String}
    {source : Option String} (found : (desk.course occurrences count).visits[number]? =
      some ⟨prompt, source, .creating questionId⟩) : request.1 ≠ questionId := by
  intro own
  obtain ⟨matters, story⟩ := exists_story started service questionId
  exact story.present_of_accepted started service accepted own (story.absent_of_creating found)

/-- While the database does not fail, the requests of a course are counted. -/
theorem counts_course {count : Nat}
    (calm : ∀ moment < count, (desk.course occurrences moment).database.faults = []) :
    (desk.course occurrences count).Counts := by
  induction count with
  | zero =>
    obtain ⟨_, _, rfl⟩ := start_eq started
    exact .nil
  | succ count before =>
    have tally := tally_occur _ (calm count (Nat.lt_succ_self count))
      (placed_course started count) (occurrences count)
    refine tally.counts (fun request accepted number prompt source found => ?_)
      (before fun moment below => calm moment (Nat.lt_succ_of_lt below))
    exact not_creating_of_accepted started service accepted found rfl

/-- The question of a request that was answered with a ticket is gone exactly when it was removed as
a duplicate, if the database did not fail. -/
theorem gone_course {count : Nat}
    (calm : ∀ moment < count, (desk.course occurrences moment).database.faults = [])
    {request : String × Option String}
    (accepted : request ∈ (desk.course occurrences count).accepted) :
    (desk.course occurrences count).hasQuestion request.1 = false ↔
      ∃ moment < count, RemovesDuplicate desk occurrences request.1 moment := by
  obtain ⟨matters, story⟩ := exists_story started service request.1
  constructor
  · exact story.removes_of_gone (story.present_of_accepted started service accepted rfl)
  · rintro ⟨moment, below, removes⟩
    exact story.gone_of_removes started service below (calm moment below) removes

end Courses

/-- What is stored, after the first part of a course, of the clients that were told that their
questions are accepted. -/
structure Represented (desk : Desk) (occurrences : Nat → Occurrence) (count : Nat) : Prop where
  /-- A client whose place is to be stored was told so exactly when its request is an accepted one.
  -/
  told : ∀ visit ∈ (desk.course occurrences count).visits, visit.source.isSome = true →
    (visit.accepted?.isSome = true ↔
      ∃ outcome, visit.phase = .ended outcome ∧ (Web.Page.scheduled outcome).status = 202)
  /-- It stays told. -/
  stays : ∀ later, count ≤ later → ∀ (number : Nat) (visit : Visit),
    (desk.course occurrences count).visits[number]? = some visit →
      visit.accepted?.isSome = true →
        (desk.course occurrences later).visits[number]? = some visit
  /-- The requests that are stored are the accepted ones whose question is there, each once. -/
  stored : (desk.course occurrences count).requested.Perm
    ((desk.course occurrences count).accepted.filter fun request =>
      (desk.course occurrences count).hasQuestion request.1)
  /-- Each comes from the place from which a client came. -/
  placed : ∀ request ∈ (desk.course occurrences count).requested,
    ∃ moment < count, ∃ prompt, occurrences moment = .act (.come prompt request.2)
  /-- The question of an accepted request is gone exactly when its run has removed it as a
  duplicate. -/
  gone : ∀ request ∈ (desk.course occurrences count).accepted,
    ((desk.course occurrences count).hasQuestion request.1 = false ↔
      ∃ moment < count, RemovesDuplicate desk occurrences request.1 moment)

/-- However visits and runs go on side by side, while the database does not fail: the requests that
are stored are, each once, those of the clients that were told that their questions are accepted and
whose questions are there. They are attached to these questions and carry the places from which the
clients came. A client that was told so stays told. Its request is not stored exactly when the run
of the job of its question has removed the question since its query was answered for another one:
what belongs to a question goes with it. -/
theorem accepted_requests_represented {settings : Settings} {desk : Desk}
    (started : start settings = .ok desk) {occurrences : Nat → Occurrence}
    (service : ∀ moment, (occurrences moment).isService = true) (count : Nat)
    (calm : ∀ moment < count, (desk.course occurrences moment).database.faults = []) :
    Represented desk occurrences count := by
  have stored := counts_course started service calm
  refine ⟨fun visit _ place => ?_, fun later after number visit found accepted => ?_, stored,
    fun request member => ?_, fun request accepted => gone_course started service calm accepted⟩
  · rw [Visit.accepted?_isSome, and_iff_right place]
  · obtain ⟨_, outcome, ended, _⟩ := visit.accepted?_isSome.mp accepted
    exact ended_course after found ended
  · obtain ⟨visit, there, mine⟩ :=
      List.mem_filterMap.mp (List.mem_filter.mp (stored.mem_iff.mp member)).1
    obtain ⟨moment, below, came⟩ := came_course started count visit there
    refine ⟨moment, below, visit.prompt, ?_⟩
    rw [came, Visit.source_of_accepted mine]

/-! ## One question after another -/

/-- Somebody comes over the web with a question, and the visit goes on until it is answered. -/
def posts (number : Nat) (prompt : String) : List Occurrence :=
  .act (.come prompt (some Web.requestSource)) :: List.replicate 5 (.act (.visit number))

/-- A client asks over the web, and its question is answered. -/
def posted : List Occurrence :=
  posts 0 "Which types?" ++ [.act (.take 0)] ++
    served 0 ["", typesPlan, "", "", "", typesRows, "\x7b\x7d", ""] ++ [.act (.tell 0)]

/-- The request of a client whose question was answered is stored. -/
theorem accepted_requests_represented_posted : ∃ desk : Desk,
    start smallService = .ok desk ∧ (∀ moment, (script posted moment).isService = true) ∧
    (∀ moment < 16, (desk.course (script posted) moment).database.faults = []) ∧
    (desk.course (script posted) 16).requested = [("q1", some "api")] ∧
    Represented desk (script posted) 16 := by
  obtain ⟨desk, started, passes⟩ := @exists_start smallService (fun desk =>
    runsWith (fun here _ => here.database.faults = []) desk (script posted) 16 &&
      (desk.course (script posted) 16).requested = [("q1", some "api")]) (by decide +kernel)
  simp only [Bool.and_eq_true, decide_eq_true_eq] at passes
  obtain ⟨runs, stored⟩ := passes
  have calm := fun moment below => of_decide_eq_true (passes_of_runs runs moment below)
  have service := @isService_script posted rfl
  exact ⟨desk, started, service, calm, stored,
    accepted_requests_represented started service 16 calm⟩

/-- Two clients ask for the same in different words, one after the other, and the question of the
second is removed as a duplicate. -/
def postedAgain : List Occurrence :=
  posted ++ posts 1 "What types?" ++ [.act (.take 0)] ++
    served 0 ["", typesPlan, "", "", "", "", ""]

/-- The request of a client whose question was removed as a duplicate is not stored any more. -/
theorem accepted_request_lost : ∃ desk : Desk, start smallService = .ok desk ∧
    (∀ moment, (script postedAgain moment).isService = true) ∧
    (∀ moment < 30, (desk.course (script postedAgain) moment).isSmooth
      (script postedAgain moment) = true) ∧
    (desk.course (script postedAgain) 30).accepted = [("q1", some "api"), ("q2", some "api")] ∧
    (desk.course (script postedAgain) 22).requested = [("q1", some "api"), ("q2", some "api")] ∧
    (desk.course (script postedAgain) 30).requested = [("q1", some "api")] := by
  obtain ⟨desk, started, passes⟩ := @exists_start smallService (fun desk =>
    runsWith isSmooth desk (script postedAgain) 30 &&
    (desk.course (script postedAgain) 30).accepted = [("q1", some "api"), ("q2", some "api")] &&
    (desk.course (script postedAgain) 22).requested = [("q1", some "api"), ("q2", some "api")] &&
    (desk.course (script postedAgain) 30).requested = [("q1", some "api")]) (by decide +kernel)
  simp only [Bool.and_eq_true, decide_eq_true_eq] at passes
  obtain ⟨⟨⟨runs, accepted⟩, before⟩, after⟩ := passes
  exact ⟨desk, started, isService_script rfl, passes_of_runs runs, accepted, before, after⟩

end QuestionDesk.Desk
