import QuestionDesk.Proofs.Database.Requests
import QuestionDesk.Proofs.Desk.Listeners
import QuestionDesk.Proofs.Jobs.Search
import QuestionDesk.Web.Page

/-!
# What becomes of requests

A request is accepted when its client is answered with a ticket. While one thing occurs, a question
is stored, a request is stored and accepted, a question is removed with its requests, or nothing
becomes of questions and requests. A visit has a ticket for a question only after the job of the
question was found or created.
-/
namespace QuestionDesk

open Database (Tables)

/-- The question and the place of a request that was answered with a ticket, if the place is to be
stored. -/
def Visit.accepted? (visit : Visit) : Option (String × Option String) :=
  match visit.phase with
  | .ended (.ok ticket) =>
    if visit.source.isSome then some (ticket.questionId, visit.source) else none
  | _ => none

/-- A client whose place is to be stored is answered that its question is accepted exactly when it
is given a ticket. -/
theorem Visit.accepted?_isSome (visit : Visit) : visit.accepted?.isSome = true ↔
    visit.source.isSome = true ∧
      ∃ outcome, visit.phase = .ended outcome ∧ (Web.Page.scheduled outcome).status = 202 := by
  unfold accepted?
  constructor
  · intro accepted
    split at accepted
    · next ticket phase =>
      split at accepted
      · next place => exact ⟨place, .ok ticket, phase, rfl⟩
      · cases accepted
    · cases accepted
  · rintro ⟨place, outcome, phase, status⟩
    cases outcome with
    | ok ticket => simp [phase, place]
    | error failure =>
      simp only [Web.Page.scheduled, Web.Page.ofFailure, Web.Page.wrong] at status
      split at status
      · cases status
      · split at status <;> cases status

/-- The place of a request that was answered with a ticket is that of its client. -/
theorem Visit.source_of_accepted {visit : Visit} {request : String × Option String}
    (accepted : visit.accepted? = some request) : visit.source = request.2 := by
  unfold accepted? at accepted
  split at accepted
  · split at accepted <;> cases accepted
    rfl
  · cases accepted

namespace Desk

open Jobs (Job)
open Pipeline (Run Runner)

/-- The questions and the places of all requests that were answered with a ticket. -/
def accepted (desk : Desk) : List (String × Option String) := desk.visits.filterMap Visit.accepted?

/-- Whether a question is there. -/
def hasQuestion (desk : Desk) (questionId : String) : Bool :=
  desk.database.tables.hasQuestion questionId

/-- The questions and the places of all requests that are stored. -/
def requested (desk : Desk) : List (String × Option String) :=
  desk.database.tables.requests.map fun request => (request.questionId, request.source)

/-! ## Visits -/

section Visits

variable {visits : List Visit} {number : Nat} {visit : Visit}

/-- The requests that were answered, before and after a visit has come to another phase. -/
theorem accepted_turned (found : visits[number]? = some visit) (phase : VisitPhase) :
    ∃ before after : List (String × Option String),
      visits.filterMap Visit.accepted? = before ++ visit.accepted?.toList ++ after ∧
      (visits.modify number ({ · with phase })).filterMap Visit.accepted? =
        before ++ ({ visit with phase } : Visit).accepted?.toList ++ after := by
  obtain ⟨here, _⟩ := List.getElem?_eq_some_iff.mp found
  obtain ⟨before, other, after, split, length, modified⟩ := List.exists_of_modify
    (fun visit : Visit => { visit with phase }) here
  obtain rfl : other = visit := by
    subst length
    rw [split] at found
    simpa using found
  have listed : ∀ visit : Visit, [visit].filterMap Visit.accepted? = visit.accepted?.toList := by
    intro visit
    cases accepted : visit.accepted? <;> simp [accepted]
  refine ⟨before.filterMap Visit.accepted?, after.filterMap Visit.accepted?, ?_, ?_⟩
  · rw [split, ← listed, ← List.filterMap_append, ← List.filterMap_append, List.append_assoc,
      List.singleton_append]
  · rw [modified, ← listed, ← List.filterMap_append, ← List.filterMap_append, List.append_assoc,
      List.singleton_append]

/-- A visit that was not answered with a ticket, and is not now, makes no difference. -/
theorem accepted_same (found : visits[number]? = some visit) {phase : VisitPhase}
    (same : ({ visit with phase } : Visit).accepted? = visit.accepted?) :
    (visits.modify number ({ · with phase })).filterMap Visit.accepted? =
      visits.filterMap Visit.accepted? := by
  obtain ⟨before, after, was, now⟩ := accepted_turned found phase
  rw [was, now, same]

/-- A visit that is answered with a ticket now adds its request. -/
theorem accepted_more (found : visits[number]? = some visit) {phase : VisitPhase}
    {request : String × Option String} (unanswered : visit.accepted? = none)
    (answered : ({ visit with phase } : Visit).accepted? = some request) :
    ((visits.modify number ({ · with phase })).filterMap Visit.accepted?).Perm
      (request :: visits.filterMap Visit.accepted?) := by
  obtain ⟨before, after, was, now⟩ := accepted_turned found phase
  rw [was, now, unanswered, answered, Option.toList_none, Option.toList_some, List.append_nil,
    List.append_assoc, List.singleton_append]
  exact List.perm_middle

/-- A visit that has its ticket is answered with it at once only if nothing is to be stored. -/
theorem accepted?_ticketed (visit : Visit) (ticket : Ticket) :
    ({ visit with phase := ticketed visit ticket } : Visit).accepted? = none := by
  unfold ticketed Visit.accepted?
  cases visit.source <;> rfl

end Visits

/-! ## What occurs -/

/-- What becomes of the requests, the questions and the answers while something occurs. -/
inductive Tally (desk after : Desk) : Prop where
  /-- Nothing. -/
  | rests (tables : desk.database.tables.Alike after.database.tables)
    (accepted : after.accepted = desk.accepted)
  /-- A question is stored. -/
  | asked {number : Nat} {prompt questionId : String} {source : Option String}
    (found : desk.visits[number]? = some ⟨prompt, source, .creating questionId⟩)
    (requested : after.requested = desk.requested)
    (questions : ∀ id, after.hasQuestion id = (decide (id = questionId) || desk.hasQuestion id))
    (accepted : after.accepted = desk.accepted)
  /-- A request is stored, if its question is there, and answered with a ticket. -/
  | counted {questionId : String} {source : Option String}
    (requested : after.requested = desk.requested ++
      if desk.hasQuestion questionId then [(questionId, source)] else [])
    (questions : ∀ id, after.hasQuestion id = desk.hasQuestion id)
    (accepted : after.accepted.Perm ((questionId, source) :: desk.accepted))
  /-- A question is removed. -/
  | removed {questionId : String}
    (tables : after.database.tables = desk.database.tables.withoutQuestion questionId)
    (accepted : after.accepted = desk.accepted)

section Tallies

variable (desk : Desk)

/-- Where the visits stay as they are, and so do questions and requests, nothing becomes of them. -/
theorem tally_of_alike {after : Desk} (tables : desk.database.tables.Alike after.database.tables)
    (visits : after.visits = desk.visits) : desk.Tally after :=
  .rests tables (by rw [accepted, accepted, visits])

variable {number : Nat} {visit : Visit}

/-- A visit that stores neither a question nor a request makes a step that has nothing to do with
requests. -/
theorem alike_visitStep (unposed : ∀ questionId, visit.phase ≠ .creating questionId)
    (uncounted : ∀ ticket, visit.phase ≠ .counting ticket) :
    desk.database.tables.Alike (desk.visitStep visit).2.database.tables ∧
      ({ visit with phase := (desk.visitStep visit).1 } : Visit).accepted? = visit.accepted? := by
  obtain ⟨prompt, source, phase⟩ := visit
  cases phase with
  | lookingUp =>
    simp only [visitStep]
    split
    · exact ⟨.refl _, rfl⟩
    · split
      · exact ⟨.refl _, accepted?_ticketed _ _⟩
      · exact ⟨.refl _, rfl⟩
  | creating questionId => exact absurd rfl (unposed questionId)
  | recording ticket =>
    have tables := Database.alike_createRecord desk.database desk.now (some ticket.questionId)
      (some ticket.jobId) (some Database.pendingStatus) none
    simp only [visitStep]
    split <;>
    · next noted =>
      rw [noted] at tables
      exact ⟨tables, rfl⟩
  | remembering ticket =>
    simp only [visitStep]
    split
    · exact ⟨.refl _, rfl⟩
    · exact ⟨.refl _, accepted?_ticketed _ _⟩
  | counting ticket => exact absurd rfl (uncounted ticket)
  | ended outcome => exact ⟨.refl _, rfl⟩

/-- A visit that is about to store a question leaves the tables as storing it does, and gives no
ticket. -/
theorem visitStep_creating_database (prompt questionId : String) (source : Option String) :
    (desk.visitStep ⟨prompt, source, .creating questionId⟩).2.database =
        (desk.database.createQuestion desk.now { id := questionId, content := some prompt }).2 ∧
      Visit.accepted? ⟨prompt, source,
        (desk.visitStep ⟨prompt, source, .creating questionId⟩).1⟩ = none := by
  simp only [visitStep]
  split <;>
  · next made =>
    rw [made]
    exact ⟨rfl, rfl⟩

/-- What becomes of requests while a visit goes on, where nothing fails. -/
theorem tally_visit (faultless : desk.database.faults = [])
    (placed : ∀ visit ∈ desk.visits, ∀ ticket, visit.phase = .counting ticket →
      visit.source.isSome = true) (number : Nat) : desk.Tally (desk.visit number) := by
  cases found : desk.visits[number]? with
  | none =>
    rw [visit_of_none found]
    exact desk.tally_of_alike (.refl _) rfl
  | some visit =>
    have rests : (∀ questionId, visit.phase ≠ .creating questionId) →
        (∀ ticket, visit.phase ≠ .counting ticket) → desk.Tally (desk.visit number) := by
      intro unposed uncounted
      obtain ⟨tables, same⟩ := desk.alike_visitStep unposed uncounted
      rw [visit_eq found]
      exact .rests tables (accepted_same found same)
    obtain ⟨prompt, source, phase⟩ := visit
    cases phase with
    | creating questionId =>
      obtain ⟨database, unanswered⟩ := desk.visitStep_creating_database prompt questionId source
      have same := accepted_same found (unanswered : _ = Visit.accepted? ⟨prompt, source, _⟩)
      rcases Database.createQuestion_tables desk.database desk.now questionId prompt with
        ⟨_, failed⟩ | ⟨question, key, _, _, stored⟩
      · rw [failed] at database
        rw [visit_eq found]
        exact .rests (by rw [database]; exact .refl _) same
      · have went := database.trans stored
        refine .asked found ?_ (fun id => ?_) (by rw [accepted, visit_eq found]; exact same)
        · rw [requested, visit_eq found, went]
          rfl
        · rw [hasQuestion, visit_eq found, went]
          simp [hasQuestion, Tables.hasQuestion, key, eq_comm, Bool.or_comm]
    | counting ticket =>
      have place : source.isSome = true := placed _ (List.mem_of_getElem? found) ticket rfl
      have stored := Database.logRequest_calm desk.database.tables ticket.questionId desk.now source
      rw [← faultless] at stored
      have tables : (desk.visit number).database.tables =
          (desk.database.logRequest desk.now (some ticket.questionId) source).2.tables := by
        rw [visit_eq found]
        rfl
      rw [stored] at tables
      have more := @accepted_more _ _ _ found (.ended (.ok ticket)) (ticket.questionId, source) rfl
        (by simp [Visit.accepted?, place])
      refine @Tally.counted _ _ ticket.questionId source ?_ (fun id => ?_) ?_
      · rw [requested, tables, hasQuestion]
        cases desk.database.tables.hasQuestion ticket.questionId <;> simp [requested]
      · rw [hasQuestion, tables]
        split <;> rfl
      · rw [accepted, visit_eq found]
        exact more
    | _ => exact rests (by simp) (by simp)

/-- A runner that goes on with what its call has led to leaves the visits and the database alone. -/
theorem follow_apart (runner : Runner) (run : Run) (next : Pipeline.Next) :
    (desk.follow runner run next).visits = desk.visits ∧
      (desk.follow runner run next).database = desk.database := by
  obtain ⟨turns, board, hands, follows⟩ := desk.follow_eq runner run next
  rw [follows]
  exact ⟨rfl, rfl⟩

/-- A run that goes on leaves the visits alone. -/
theorem visits_work (runner : Runner) (response : Remote.Response) :
    (desk.work runner response).visits = desk.visits := by
  obtain ⟨store, database, turns, board, hands, went⟩ := desk.work_eq runner response
  rw [went]

/-- A listener that is told leaves the visits alone. -/
theorem visits_tell (worker : Nat) : (desk.tell worker).visits = desk.visits := by
  obtain ⟨board, database, relay, told, _⟩ := desk.tell_cases worker
  rw [told]

/-- Whoever is cut off leaves the visits alone. -/
theorem visits_cut (runner : Runner) : (desk.cut runner).visits = desk.visits := by
  obtain ⟨turns, relay, board, hands, gone, _⟩ := desk.cut_cases runner
  rw [gone]

/-- What becomes of the visits while something occurs. -/
inductive Visiting (desk : Desk) : Occurrence → List Visit → Prop where
  /-- Nothing. -/
  | rests {occurrence : Occurrence} : Visiting desk occurrence desk.visits
  /-- Somebody comes with a question. -/
  | comes {prompt : String} {source : Option String} :
    Visiting desk (.act (.come prompt source)) (desk.visits ++ [⟨prompt, source, .lookingUp⟩])
  /-- A visit makes its step. -/
  | steps {occurrence : Occurrence} {number : Nat} {visit : Visit}
    (found : desk.visits[number]? = some visit) : Visiting desk occurrence
      (desk.visits.modify number ({ · with phase := (desk.visitStep visit).1 }))

/-- Whatever occurs, nothing else becomes of the visits. -/
theorem visiting_occur (occurrence : Occurrence) :
    desk.Visiting occurrence (desk.occur occurrence).visits := by
  cases occurrence with
  | bring name sink => exact .rests
  | act action =>
    cases action with
    | come prompt source => exact .comes
    | visit number =>
      simp only [occur, act]
      cases found : desk.visits[number]? with
      | none =>
        rw [visit_of_none found]
        exact .rests
      | some visit =>
        rw [visit_eq found]
        exact .steps found
    | work runner response =>
      simp only [occur, act, visits_work]
      exact .rests
    | tell worker =>
      simp only [occur, act, visits_tell]
      exact .rests
    | cut runner =>
      simp only [occur, act, visits_cut]
      exact .rests
    | subscribe questionId sink =>
      obtain ⟨relay, went⟩ := desk.subscribe_eq questionId sink
      simp only [occur, act, went]
      exact .rests
    | promote =>
      obtain ⟨database, promoter, went⟩ := desk.promote_eq
      simp only [occur, act, went]
      exact .rests
    | _ => exact .rests

section Visiting

variable {desk} {occurrence : Occurrence} {visits : List Visit} {index : Nat} {visit : Visit}

/-- Afterwards a visit is as before, has just come, or has made its step. -/
theorem Visiting.before (visiting : desk.Visiting occurrence visits)
    (found : visits[index]? = some visit) : desk.visits[index]? = some visit ∨
      (visit.phase = .lookingUp ∧ occurrence = .act (.come visit.prompt visit.source)) ∨
        ∃ before, desk.visits[index]? = some before ∧
          visit = { before with phase := (desk.visitStep before).1 } := by
  cases visiting with
  | rests => exact Or.inl found
  | comes =>
    rw [List.getElem?_append] at found
    split at found
    · exact Or.inl found
    · obtain rfl := List.mem_singleton.mp (List.mem_of_getElem? found)
      exact Or.inr (Or.inl ⟨rfl, rfl⟩)
  | @steps _ number before there =>
    rw [getElem?_turned there] at found
    split at found
    · next same =>
      cases found
      exact Or.inr (Or.inr ⟨before, same ▸ there, rfl⟩)
    · exact Or.inl found

/-- A visit keeps its prompt and its place. -/
theorem Visiting.after (visiting : desk.Visiting occurrence visits)
    (found : desk.visits[index]? = some visit) :
    ∃ phase, visits[index]? = some { visit with phase } := by
  cases visiting with
  | rests => exact ⟨visit.phase, found⟩
  | comes =>
    obtain ⟨here, _⟩ := List.getElem?_eq_some_iff.mp found
    exact ⟨visit.phase, by rw [List.getElem?_append_left here]; exact found⟩
  | @steps _ number other there =>
    rw [getElem?_turned there]
    split
    · next same =>
      subst same
      cases found.symm.trans there
      exact ⟨_, rfl⟩
    · exact ⟨visit.phase, found⟩

/-- A visit that has ended stays as it is. -/
theorem Visiting.ended (visiting : desk.Visiting occurrence visits)
    {outcome : Except Failure Ticket} (found : desk.visits[index]? = some visit)
    (ended : visit.phase = .ended outcome) : visits[index]? = some visit := by
  cases visiting with
  | rests => exact found
  | comes =>
    obtain ⟨here, _⟩ := List.getElem?_eq_some_iff.mp found
    rw [List.getElem?_append_left here]
    exact found
  | @steps _ number other there =>
    rw [getElem?_turned there]
    split
    · next same =>
      subst same
      cases found.symm.trans there
      obtain ⟨prompt, source, phase⟩ := visit
      obtain rfl : phase = .ended outcome := ended
      rfl
    · exact found

end Visiting

/-- What becomes of requests while a run goes on. -/
theorem tally_work (runner : Runner) (response : Remote.Response) :
    desk.Tally (desk.work runner response) := by
  rcases desk.work_cases runner response with same | ⟨run, next, between, _, passage, went⟩
  · rw [same]
    exact desk.tally_of_alike (.refl _) rfl
  have visits := desk.visits_work runner response
  have database : (desk.work runner response).database = between.database := by
    rw [went, (between.follow_apart runner run next).2]
  have rests : desk.database.tables.Alike between.database.tables →
      desk.Tally (desk.work runner response) :=
    fun tables => desk.tally_of_alike (database ▸ tables) visits
  cases passage with
  | unremoved | removed | stranded =>
    rcases Database.deleteQuestion_cases desk.database run.question with same | without
    · exact rests (same ▸ .refl _)
    · exact .removed (by rw [database]; exact without) (by rw [accepted, visits]; rfl)
  | @unsaved prepared | @saved prepared =>
    exact rests (Database.alike_updateQuestion desk.database run.question prepared)
  | _ => exact rests (.refl _)

/-- A listener has nothing to do with requests. -/
theorem alike_store? (listener : Listener) (job : Job) :
    desk.database.tables.Alike (desk.store? listener job).2.database.tables := by
  cases listener with
  | completion =>
    simp only [store?]
    split
    · exact .refl _
    · exact Database.alike_completeJob _ _ _
  | failure => exact Database.alike_updateRecord _ _ _

/-- What becomes of requests while a listener is told. -/
theorem tally_tell (worker : Nat) : desk.Tally (desk.tell worker) := by
  refine desk.tally_of_alike ?_ (desk.visits_tell worker)
  unfold tell
  split
  · next listener job telling =>
    dsimp only
    unfold hear
    split
    · obtain ⟨relay, announced⟩ := announce_eq (desk.store? listener job).2 job
      simp only [announced]
      exact desk.alike_store? listener job
    · exact .refl _
  · exact .refl _

/-- What becomes of requests while somebody is cut off. -/
theorem tally_cut (runner : Runner) : desk.Tally (desk.cut runner) := by
  refine desk.tally_of_alike ?_ (desk.visits_cut runner)
  obtain ⟨turns, relay, board, hands, gone, _⟩ := desk.cut_cases runner
  rw [gone]
  exact .refl _

/-- What becomes of requests while something occurs, where nothing fails. -/
theorem tally_occur (faultless : desk.database.faults = [])
    (placed : ∀ visit ∈ desk.visits, ∀ ticket, visit.phase = .counting ticket →
      visit.source.isSome = true) (occurrence : Occurrence) :
    desk.Tally (desk.occur occurrence) := by
  cases occurrence with
  | bring name sink => exact desk.tally_of_alike (.refl _) rfl
  | act action =>
    cases action with
    | come prompt source => exact .rests (.refl _) (by simp [occur, act, accepted, Visit.accepted?])
    | visit number => exact desk.tally_visit faultless placed number
    | work runner response => exact desk.tally_work runner response
    | tell worker => exact desk.tally_tell worker
    | cut runner => exact desk.tally_cut runner
    | subscribe questionId sink =>
      obtain ⟨relay, went⟩ := desk.subscribe_eq questionId sink
      simp only [occur, act, went]
      exact desk.tally_of_alike (.refl _) rfl
    | promote =>
      simp only [occur, act, promote]
      split
      · exact .rests (Database.alike_promote _ _ _ _) rfl
      · exact desk.tally_of_alike (.refl _) rfl
    | _ => exact desk.tally_of_alike (.refl _) rfl

end Tallies

/-- The requests that are stored are those that were answered with a ticket and whose question is
there, each once. -/
def Counts (desk : Desk) : Prop :=
  desk.requested.Perm (desk.accepted.filter fun request => desk.hasQuestion request.1)

/-- Requests that are counted stay so, if no question is about to be stored for which a ticket was
given. -/
theorem Tally.counts {desk after : Desk} (tally : desk.Tally after)
    (posed : ∀ request ∈ desk.accepted, ∀ (number : Nat) (prompt : String)
      (source : Option String), desk.visits[number]? ≠ some ⟨prompt, source, .creating request.1⟩)
    (counts : desk.Counts) : after.Counts := by
  unfold Counts at counts ⊢
  cases tally with
  | rests tables accepted =>
    have requested : after.requested = desk.requested := by
      rw [Desk.requested, tables.requests, Desk.requested]
    have there : after.hasQuestion = desk.hasQuestion := funext tables.questions
    rw [requested, accepted, there]
    exact counts
  | @asked _ _ questionId _ found requested questions accepted =>
    have there : ∀ request ∈ desk.accepted,
        after.hasQuestion request.1 = desk.hasQuestion request.1 := by
      intro request member
      have other : request.1 ≠ questionId := by
        rintro rfl
        exact posed request member _ _ _ found
      rw [questions, decide_eq_false other, Bool.false_or]
    rw [requested, accepted, List.filter_congr there]
    exact counts
  | counted requested questions accepted =>
    -- The client is given its ticket whether its question is there or not.
    have there : after.hasQuestion = desk.hasQuestion := funext questions
    rw [requested, there]
    refine .trans ?_ (accepted.filter _).symm
    rw [List.filter_cons]
    split
    · exact (counts.append_right _).trans (List.perm_append_singleton _ _)
    · rw [List.append_nil]
      exact counts
  | @removed questionId tables accepted =>
    -- Its requests go with the question, and no others.
    have requested : after.requested = desk.requested.filter (·.1 ≠ questionId) := by
      rw [Desk.requested, tables, Desk.requested, List.filter_map]
      rfl
    have there : ∀ request ∈ desk.accepted, after.hasQuestion request.1 =
        (decide (request.1 ≠ questionId) && desk.hasQuestion request.1) := by
      intro request _
      rw [hasQuestion, tables, Database.Tables.hasQuestion_without, Bool.and_comm, bne,
        beq_eq_decide, decide_not, hasQuestion]
    rw [requested, accepted, List.filter_congr there, ← List.filter_filter]
    exact counts.filter _

/-! ## Tickets -/

/-- A visit has its ticket: it is about to have its request stored, or was answered with it. -/
def HasTicket (visit : Visit) (ticket : Ticket) : Prop :=
  visit.phase = .counting ticket ∨ visit.phase = .ended (.ok ticket)

/-- A request that was answered with a ticket has one for its question. -/
theorem hasTicket_of_accepted {visit : Visit} {request : String × Option String}
    (accepted : visit.accepted? = some request) :
    ∃ ticket, HasTicket visit ticket ∧ ticket.questionId = request.1 := by
  unfold Visit.accepted? at accepted
  split at accepted
  · next ticket phase =>
    split at accepted <;> cases accepted
    exact ⟨ticket, Or.inr phase, rfl⟩
  · cases accepted

/-- Where the ticket of a visit comes from. -/
inductive Earned (desk : Desk) (visit : Visit) (ticket : Ticket) : Prop where
  /-- Its prompt was known, and the job can be used. -/
  | found {job : Job} (known : desk.job? ticket.questionId = some job)
  /-- It has remembered what its prompt became. -/
  | made (remembering : visit.phase = .remembering ticket)
  /-- It had its ticket before. -/
  | held (has : HasTicket visit ticket)

section Tickets

variable {desk : Desk} {visit : Visit} {ticket : Ticket}

/-- A visit that has its ticket at once has this one. -/
theorem ticket_of_ticketed {other : Ticket}
    (has : ticketed visit other = .counting ticket ∨ ticketed visit other = .ended (.ok ticket)) :
    other = ticket := by
  unfold ticketed at has
  rcases has with has | has <;> split at has <;> cases has <;> rfl

/-- A visit that has its ticket after a step earned it by the step, or had it before. -/
theorem earned_of_step
    (has : HasTicket { visit with phase := (desk.visitStep visit).1 } ticket) :
    desk.Earned visit ticket := by
  obtain ⟨prompt, source, phase⟩ := visit
  unfold HasTicket at has
  cases phase with
  | lookingUp =>
    simp only [visitStep] at has
    split at has
    · rcases has with has | has <;> cases has
    · split at has
      · next given usable =>
        obtain rfl := ticket_of_ticketed has
        obtain ⟨entry, _, found⟩ := Option.bind_eq_some_iff.mp usable
        obtain ⟨job, there, rfl⟩ := Option.map_eq_some_iff.mp found
        exact .found (Jobs.Board.findUsable?_eq_some.mp there).1
      · rcases has with has | has <;> cases has
  | creating questionId | recording other =>
    simp only [visitStep] at has
    split at has <;> rcases has with has | has <;> cases has
  | remembering other =>
    simp only [visitStep] at has
    split at has
    · rcases has with has | has <;> cases has
    · obtain rfl := ticket_of_ticketed has
      exact .made rfl
  | counting other =>
    rcases has with has | has <;> cases has
    exact .held (Or.inl rfl)
  | ended outcome =>
    rcases has with has | has <;> cases has
    exact .held (Or.inr rfl)

/-- A visit is about to have its request stored only if its place is to be stored. -/
theorem placed_of_step (counting : (desk.visitStep visit).1 = .counting ticket) :
    visit.source.isSome = true := by
  have ticketed_place : ∀ {other : Ticket}, ticketed visit other = .counting ticket →
      visit.source.isSome = true := by
    intro other same
    unfold ticketed at same
    split at same
    · assumption
    · cases same
  unfold visitStep at counting
  cases phase : visit.phase with
  | lookingUp =>
    simp only [phase] at counting
    split at counting
    · cases counting
    · split at counting
      · exact ticketed_place counting
      · cases counting
  | creating questionId | recording other =>
    simp only [phase] at counting
    split at counting <;> cases counting
  | remembering other =>
    simp only [phase] at counting
    split at counting
    · cases counting
    · exact ticketed_place counting
  | counting other | ended outcome =>
    simp only [phase] at counting
    cases counting

end Tickets

end Desk

end QuestionDesk
