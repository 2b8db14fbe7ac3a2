import QuestionDesk.Proofs.Desk.Courses
import QuestionDesk.Web.Page

/-!
# Mishaps

Somebody asks a question, and nothing else happens until the visit has ended, but at each of its
calls something may be out of order. Nothing is taken back when a call fails: what the calls before
it have stored stays, and a job that was created waits for a worker, although the client was told
that the question could not be created. What is left is settled by the call that failed, and what
the store holds is the same in any case.
-/
namespace QuestionDesk

/-- A call that a visit makes before it has a ticket. -/
inductive VisitCall where
  /-- Looks up the prompt. -/
  | findPrompt
  /-- Stores the question. -/
  | createQuestion
  /-- Stores what is known about the job. -/
  | createRecord
  /-- Remembers which question the prompt became. -/
  | putPrompt
  deriving DecidableEq, Repr

/-- The call that a visit in a phase is about to make. -/
def VisitPhase.call? : VisitPhase → Option VisitCall
  | .lookingUp => some .findPrompt
  | .creating _ => some .createQuestion
  | .recording _ => some .createRecord
  | .remembering _ => some .putPrompt
  | .counting _ | .ended _ => none

namespace Desk

open Database (JobRecord Question Table Wording)
open Jobs (Board Job)
open Pipeline (Run Runner)

/-! ## Attempts to ask -/

/-- What is out of order at a call, and how long it takes until the call is made. -/
structure Trouble where
  /-- The commands of the store that fail. -/
  commands : List Cache.Command := []
  /-- The statements of the database that fail. -/
  statements : List Database.Fault := []
  /-- The time that goes by. -/
  span : Nat := 0

/-- What was stored in a table cannot be read again. -/
def Trouble.Hides (trouble : Trouble) (table : Table) : Prop :=
  ({ faults := trouble.statements } : Database).readBack table ≠ .ok ()

/-- A visit goes on after some time, while something is out of order. -/
def visitAmid (desk : Desk) (number : Nat) (trouble : Trouble) : Desk :=
  desk.actAll [.pass trouble.span, .storeFaults trouble.commands,
    .databaseFaults trouble.statements, .visit number]

/-- Somebody comes with a question, and the visit goes on, with other troubles at each step. -/
def attempt (desk : Desk) (prompt : String) (source : Option String) (troubles : List Trouble) :
    Desk :=
  troubles.foldl (·.visitAmid desk.visits.length ·) (desk.act (.come prompt source))

/-- The call that the visit of a number is about to make. -/
def visitCall? (desk : Desk) (number : Nat) : Option VisitCall :=
  desk.visits[number]?.bind (·.phase.call?)

/-- The failure with which the visit of a number has ended. -/
def failure? (desk : Desk) (number : Nat) : Option Failure :=
  match desk.visits[number]? with
  | some ⟨_, _, .ended (.error failure)⟩ => some failure
  | _ => none

/-- A job that waits behind all others for a worker, and whose run will ask the planner a prompt. -/
structure Awaits (desk : Desk) (job : Job) (prompt : String) : Prop where
  /-- It is on the board. -/
  listed : desk.board.job? questionJobType job.seq = some job
  /-- Nobody has taken it. -/
  pending : job.status = .pending
  /-- It is the last in the line. -/
  last : (desk.board.lane questionJobType).waiting.getLast? = some job.seq
  /-- Its run begins by asking the planner. -/
  plans : ∀ now, ∃ run, (Run.start now job.id job.payload).opened now = .goOn run [] ∧
    run.call? = some (.plan (.text prompt))

/-- A question is there in addition to all that was there, with a job for it. Jobs that had ended
may have been forgotten. -/
structure Posed (desk after : Desk) (prompt : String) (question : Question) (job : Job)
    (records : List JobRecord) : Prop where
  /-- The question has the next key. -/
  key : question.id = questionKey (desk.named + 1)
  /-- It is a draft. -/
  draft : question.wording = .draft
  /-- The tables hold it, and what is known about the job, in addition. -/
  tables : after.database.tables = { desk.database.tables with
    questions := desk.database.tables.questions ++ [question]
    records := desk.database.tables.records ++ records }
  /-- The board holds the job in addition. -/
  board : ∃ moment, (desk.board.forget moment questionJobType).add moment questionJobType
    question.id (payload question.id prompt) = (job, after.board)
  /-- The job waits for a worker. -/
  awaits : after.Awaits job prompt

/-- What is known about a job when it has just been created. -/
def freshRecord (question : Question) (job : Job) (moment : Micros) : JobRecord :=
  ⟨question.id, job.id, Database.pendingStatus, none, moment⟩

/-- What an attempt to ask leaves when it ends with a failure, by the call that failed and the
trouble that the call met. -/
inductive Left (desk after : Desk) (prompt : String) (trouble : Trouble) :
    VisitCall → Failure → Prop where
  /-- Nothing, as the prompt could not be looked up. -/
  | unread {message : String} (tables : after.database.tables = desk.database.tables)
    (board : after.board = desk.board) :
    Left desk after prompt trouble .findPrompt (.cache message)
  /-- Nothing, as the question could not be stored. -/
  | unasked {message : String} (tables : after.database.tables = desk.database.tables)
    (board : after.board = desk.board) :
    Left desk after prompt trouble .createQuestion (.persistence message)
  /-- The question without a job, as it was stored and could not be read again. -/
  | unposed {message : String} {question : Question} (hidden : trouble.Hides .questions)
    (key : question.id = questionKey (desk.named + 1))
    (draft : question.wording = .draft)
    (tables : after.database.tables = { desk.database.tables with
      questions := desk.database.tables.questions ++ [question] })
    (board : after.board = desk.board) :
    Left desk after prompt trouble .createQuestion (.persistence message)
  /-- The question with its job, as what is known about the job could not be stored. -/
  | unrecorded {message : String} {question : Question} {job : Job}
    (posed : desk.Posed after prompt question job []) :
    Left desk after prompt trouble .createRecord (.persistence message)
  /-- The question with its job and what is known about it, as that was stored and could not be read
  again. -/
  | unconfirmed {message : String} {question : Question} {job : Job} {moment : Micros}
    (hidden : trouble.Hides .records)
    (posed : desk.Posed after prompt question job [freshRecord question job moment]) :
    Left desk after prompt trouble .createRecord (.persistence message)
  /-- The question with its job and what is known about it, as the prompt could not be
  remembered. -/
  | unremembered {message : String} {question : Question} {job : Job} {moment : Micros}
    (posed : desk.Posed after prompt question job [freshRecord question job moment]) :
    Left desk after prompt trouble .putPrompt (.cache message)

/-- How far an attempt to ask that has not failed has come, and what it has left so far. -/
inductive Tried (desk after : Desk) (prompt : String) : VisitPhase → Prop where
  /-- Nothing has happened. -/
  | lookingUp (named : after.named = desk.named)
    (tables : after.database.tables = desk.database.tables) (board : after.board = desk.board)
    (items : after.store.items = desk.store.items) : Tried desk after prompt .lookingUp
  /-- The question has a key. -/
  | creating (tables : after.database.tables = desk.database.tables)
    (board : after.board = desk.board) (items : after.store.items = desk.store.items) :
    Tried desk after prompt (.creating (questionKey (desk.named + 1)))
  /-- The question has a job. -/
  | recording {question : Question} {job : Job} (posed : desk.Posed after prompt question job [])
    (items : after.store.items = desk.store.items) :
    Tried desk after prompt (.recording (ticketOf question.id job))
  /-- What is known about the job is stored. -/
  | remembering {question : Question} {job : Job} {moment : Micros}
    (posed : desk.Posed after prompt question job [freshRecord question job moment])
    (items : after.store.items = desk.store.items) :
    Tried desk after prompt (.remembering (ticketOf question.id job))
  /-- There is a ticket. -/
  | counting (ticket : Ticket) : Tried desk after prompt (.counting ticket)
  /-- The attempt has succeeded. -/
  | returned (ticket : Ticket) : Tried desk after prompt (.ended (.ok ticket))

/-- What comes of a call amid a trouble: the attempt goes on, or it fails at the call. -/
inductive Came (desk after : Desk) (prompt : String) (trouble : Trouble)
    (makes : Option VisitCall) : VisitPhase → Prop where
  /-- The attempt goes on. -/
  | on {phase : VisitPhase} (tried : desk.Tried after prompt phase) :
    Came desk after prompt trouble makes phase
  /-- The attempt fails. -/
  | broke {call : VisitCall} {failure : Failure} (same : makes = some call)
    (left : desk.Left after prompt trouble call failure)
    (items : after.store.items = desk.store.items) :
    Came desk after prompt trouble makes (.ended (.error failure))

section Congr

variable {desk after later : Desk} {prompt : String}
  (tables : later.database.tables = after.database.tables) (board : later.board = after.board)

/-- A job that waits does so wherever the board is the same. -/
theorem Awaits.congr {job : Job} (awaits : after.Awaits job prompt)
    (board : later.board = after.board) : later.Awaits job prompt :=
  ⟨by rw [board]; exact awaits.listed, awaits.pending, by rw [board]; exact awaits.last,
    awaits.plans⟩

include tables board

/-- A question that is there in addition is so wherever tables and board are the same. -/
theorem Posed.congr {question : Question} {job : Job} {records : List JobRecord}
    (posed : desk.Posed after prompt question job records) :
    desk.Posed later prompt question job records :=
  ⟨posed.key, posed.draft, tables.trans posed.tables, by rw [board]; exact posed.board,
    posed.awaits.congr board⟩

/-- What is left is the same wherever tables and board are the same. -/
theorem Left.congr {trouble : Trouble} {call : VisitCall} {failure : Failure}
    (left : desk.Left after prompt trouble call failure) :
    desk.Left later prompt trouble call failure := by
  cases left with
  | unread kept same => exact .unread (tables.trans kept) (board.trans same)
  | unasked kept same => exact .unasked (tables.trans kept) (board.trans same)
  | unposed hidden key draft more same =>
    exact .unposed hidden key draft (tables.trans more) (board.trans same)
  | unrecorded posed => exact .unrecorded (posed.congr tables board)
  | unconfirmed hidden posed => exact .unconfirmed hidden (posed.congr tables board)
  | unremembered posed => exact .unremembered (posed.congr tables board)

/-- How far an attempt has come is the same wherever all that it looks at is the same. -/
theorem Tried.congr {phase : VisitPhase} (tried : desk.Tried after prompt phase)
    (named : later.named = after.named) (items : later.store.items = after.store.items) :
    desk.Tried later prompt phase := by
  cases tried with
  | lookingUp count kept same stored =>
    exact .lookingUp (named.trans count) (tables.trans kept) (board.trans same) (items.trans stored)
  | creating kept same stored =>
    exact .creating (tables.trans kept) (board.trans same) (items.trans stored)
  | recording posed stored => exact .recording (posed.congr tables board) (items.trans stored)
  | remembering posed stored => exact .remembering (posed.congr tables board) (items.trans stored)
  | counting ticket => exact .counting ticket
  | returned ticket => exact .returned ticket

end Congr

/-! ## One step -/

section Steps

variable {desk after : Desk} {prompt : String}

/-- What cannot be read again is hidden by what fails. -/
theorem hides_of_unread {database : Database} {trouble : Trouble}
    (amid : database.faults = trouble.statements) {table : Table}
    (unread : database.readBack table ≠ .ok ()) : trouble.Hides table := by
  unfold Trouble.Hides
  rw [← amid]
  exact unread

/-- The run of the job of a question begins by asking the planner the prompt. -/
theorem plans_payload (questionId prompt jobId : String) (now : Micros) : ∃ run,
    (Run.start now jobId (payload questionId prompt)).opened now = .goOn run [] ∧
      run.call? = some (.plan (.text prompt)) :=
  ⟨_, rfl, rfl⟩

/-- A job that has just been created waits for a worker. -/
theorem awaits_added {board : Board Run Listener} (sound : board.Sound) {now : Micros}
    {questionId : String} {job : Job}
    (created : board.add now questionJobType questionId (payload questionId prompt) =
      (job, after.board)) : after.Awaits job prompt := by
  have listed := Board.job?_add_self sound now questionJobType questionId
    (payload questionId prompt)
  have lane := Board.lane_add board now questionJobType questionId (payload questionId prompt)
    questionJobType
  rw [if_pos rfl] at lane
  rw [created] at listed lane
  have same : (board.add now questionJobType questionId (payload questionId prompt)).1 = job := by
    rw [created]
  subst same
  exact ⟨listed, rfl, by rw [lane]; exact List.getLast?_concat .., fun now =>
    plans_payload questionId prompt _ now⟩

/-- A visit that has a ticket has not failed. -/
theorem tried_ticketed (visit : Visit) (ticket : Ticket) :
    desk.Tried after prompt (ticketed visit ticket) := by
  unfold ticketed
  split
  · exact .counting ticket
  · exact .returned ticket

variable {trouble : Trouble} (amid : after.database.faults = trouble.statements)
include amid

/-- A visit that stores its question leaves it with its job, or fails. -/
theorem came_created (sound : desk.board.Sound) {source : Option String}
    (tables : after.database.tables = desk.database.tables) (board : after.board = desk.board)
    (items : after.store.items = desk.store.items) :
    let step := after.visitStep ⟨prompt, source, .creating (questionKey (desk.named + 1))⟩
    desk.Came step.2 prompt trouble (some .createQuestion) step.1 := by
  have ended := Database.createQuestion_ended after.database after.now
    { id := questionKey (desk.named + 1), content := some prompt }
  simp only [visitStep]
  rcases stored : after.database.createQuestion after.now
    { id := questionKey (desk.named + 1), content := some prompt } with ⟨outcome, database⟩
  rw [stored] at ended
  cases ended with
  | undone failure =>
    obtain ⟨message, rfl⟩ := Database.refusal_of_createQuestion (congrArg Prod.fst stored)
    exact .broke rfl (.unasked tables board) items
  | @unread failure question _ kept unread =>
    obtain ⟨message, rfl⟩ := Database.refusal_of_createQuestion (congrArg Prod.fst stored)
    obtain ⟨drafted, _, rfl⟩ := kept
    obtain ⟨key, draft⟩ := Database.question_of_draft drafted
    exact .broke rfl
      (.unposed (hides_of_unread amid unread) key draft (by rw [← tables]) board) items
  | @through question _ kept =>
    obtain ⟨drafted, _, rfl⟩ := kept
    obtain ⟨key, draft⟩ := Database.question_of_draft drafted
    have sane : (after.board.forget after.now questionJobType).Sound :=
      board ▸ sound.forget after.now questionJobType
    dsimp only
    rw [← key]
    refine .on (.recording ⟨key, draft, ?_, ⟨after.now, by rw [← board]; rfl⟩,
      awaits_added sane rfl⟩ items)
    rw [← tables, List.append_nil]

/-- A visit that stores what is known about its job leaves that, or fails. -/
theorem came_recorded {source : Option String} {question : Question} {job : Job}
    (posed : desk.Posed after prompt question job [])
    (items : after.store.items = desk.store.items) :
    let step := after.visitStep ⟨prompt, source, .recording (ticketOf question.id job)⟩
    desk.Came step.2 prompt trouble (some .createRecord) step.1 := by
  have ended := Database.createRecord_ended after.database after.now (some question.id)
    (some job.id) (some Database.pendingStatus) none
  simp only [visitStep, ticketOf]
  rcases stored : after.database.createRecord after.now (some question.id) (some job.id)
    (some Database.pendingStatus) none with ⟨outcome, database⟩
  rw [stored] at ended
  have known : ∀ {record : JobRecord}, some question.id = some record.questionId →
      some job.id = some record.jobId → record.status = Database.pendingStatus →
      record.failedReason = none → record.createdAt = after.now →
        desk.Posed { after with database := { after.database with
          tables := { after.database.tables with
            records := after.database.tables.records ++ [record] } } } prompt question job
          [freshRecord question job after.now] := by
    rintro ⟨_, _, _, _, _⟩ ⟨⟩ ⟨⟩ ⟨⟩ ⟨⟩ ⟨⟩
    refine ⟨posed.key, posed.draft, ?_, posed.board, posed.awaits.congr rfl⟩
    dsimp only
    rw [posed.tables, List.append_nil]
    rfl
  cases ended with
  | undone failure =>
    obtain ⟨message, rfl⟩ := Database.refusal_of_createRecord (congrArg Prod.fst stored)
    exact .broke rfl (.unrecorded posed) items
  | unread failure kept unread =>
    obtain ⟨message, rfl⟩ := Database.refusal_of_createRecord (congrArg Prod.fst stored)
    obtain ⟨own, named, status, reason, moment, _, _, rfl⟩ := kept
    exact .broke rfl (.unconfirmed (hides_of_unread amid unread)
      (known own named status reason moment)) items
  | through kept =>
    obtain ⟨own, named, status, reason, moment, _, _, rfl⟩ := kept
    exact .on (.remembering (known own named status reason moment) items)

/-- A step of an attempt leaves what its next phase says, or fails at its call. -/
theorem Tried.step (sound : desk.board.Sound) {source : Option String} {phase : VisitPhase}
    (tried : desk.Tried after prompt phase) :
    desk.Came (after.visitStep ⟨prompt, source, phase⟩).2 prompt trouble phase.call?
      (after.visitStep ⟨prompt, source, phase⟩).1 := by
  cases tried with
  | creating tables board items => exact came_created amid sound tables board items
  | recording posed items => exact came_recorded amid posed items
  | counting ticket => exact .on (.returned ticket)
  | returned ticket => exact .on (.returned ticket)
  | lookingUp named tables board items =>
    simp only [visitStep]
    split
    · next failure failed =>
      obtain ⟨message, rfl⟩ := Cache.Store.failure_of_findEntry failed
      exact .broke rfl (.unread tables board) items
    · split
      · exact .on (tried_ticketed _ _)
      · rw [named]
        exact .on (.creating tables board items)
  | remembering posed items =>
    simp only [visitStep]
    split
    · next failure failed =>
      obtain ⟨message, rfl⟩ := Cache.Store.failure_of_set failed
      exact .broke rfl (.unremembered posed) items
    · exact .on (tried_ticketed _ _)

end Steps

/-! ## A whole attempt -/

/-- How far the visit that somebody made and that has not failed has come. -/
def Tries (desk after : Desk) (prompt : String) (source : Option String) : Prop :=
  ∃ phase, after.visits[desk.visits.length]? = some ⟨prompt, source, phase⟩ ∧
    desk.Tried after prompt phase

/-- The visit that somebody made has failed at a call, amid a trouble. -/
structure Broken (desk after : Desk) (prompt : String) (source : Option String) (trouble : Trouble)
    (call : VisitCall) (failure : Failure) : Prop where
  /-- It has ended with the failure. -/
  ended : after.visits[desk.visits.length]? = some ⟨prompt, source, .ended (.error failure)⟩
  /-- What is left. -/
  left : desk.Left after prompt trouble call failure
  /-- The store holds what it held. -/
  items : after.store.items = desk.store.items

section Attempts

variable {desk : Desk} {prompt : String} {source : Option String}

/-- A visit that has failed stays as it is, and so does what is left. -/
theorem Broken.visitAmid {after : Desk} {trouble : Trouble} {call : VisitCall} {failure : Failure}
    (broken : desk.Broken after prompt source trouble call failure) (next : Trouble) :
    desk.Broken (after.visitAmid desk.visits.length next) prompt source trouble call failure := by
  let amid : Desk := { after with
    now := after.now + next.span
    store := { after.store with failing := next.commands }
    database := { after.database with faults := next.statements } }
  have went : after.visitAmid desk.visits.length next = _ := @visit_eq amid _ _ broken.ended
  rw [went]
  refine ⟨(getElem?_turned broken.ended _ _).trans (if_pos rfl), broken.left.congr ?_ ?_,
    broken.items⟩ <;> rfl

/-- A visit that has failed stays as it is whatever is out of order afterwards. -/
theorem Broken.later {after : Desk} {trouble : Trouble} {call : VisitCall} {failure : Failure}
    (broken : desk.Broken after prompt source trouble call failure) (troubles : List Trouble) :
    desk.Broken (troubles.foldl (·.visitAmid desk.visits.length ·) after) prompt source trouble call
      failure := by
  induction troubles generalizing after with
  | nil => exact broken
  | cons next rest ih => exact ih (broken.visitAmid next)

/-- A visit that goes on amid a trouble has come to where its step leads, or has failed at its
call. -/
theorem Tries.visitAmid (sound : desk.board.Sound) {after : Desk}
    (tries : desk.Tries after prompt source) (trouble : Trouble) :
    desk.Tries (after.visitAmid desk.visits.length trouble) prompt source ∨
      ∃ call failure, after.visitCall? desk.visits.length = some call ∧
        desk.Broken (after.visitAmid desk.visits.length trouble) prompt source trouble call
          failure := by
  obtain ⟨phase, found, tried⟩ := tries
  let amid : Desk := { after with
    now := after.now + trouble.span
    store := { after.store with failing := trouble.commands }
    database := { after.database with faults := trouble.statements } }
  have came := @Tried.step desk amid prompt trouble rfl sound source phase
    (@Tried.congr desk after amid prompt rfl rfl _ tried rfl rfl)
  have went : after.visitAmid desk.visits.length trouble = _ := @visit_eq amid _ _ found
  rw [went]
  have there := (getElem?_turned found (amid.visitStep ⟨prompt, source, phase⟩).1
    desk.visits.length).trans (if_pos rfl)
  generalize (amid.visitStep ⟨prompt, source, phase⟩).1 = reached at came there
  cases came with
  | on tried =>
    refine Or.inl ⟨reached, there, tried.congr ?_ ?_ ?_ ?_⟩ <;> rfl
  | @broke call failure same left items =>
    have makes : after.visitCall? desk.visits.length = some call := by
      rw [visitCall?, found]
      exact same
    refine Or.inr ⟨call, failure, makes, there, left.congr ?_ ?_, items⟩ <;> rfl

end Attempts

/-- Somebody asks while what is known about jobs cannot be stored. -/
def unrecorded : List Trouble := [{}, {}, { statements := [.statement .insert .records] }]

end Desk

end QuestionDesk
