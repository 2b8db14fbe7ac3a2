import QuestionDesk.Proofs.Desk.Developments

/-!
# Visits

A visit that goes on makes one step of its own and leaves the other visits where they are. What it
does to the matter of the question that it is busy with is one development, and it does nothing
else.
-/
namespace QuestionDesk.Desk

open Database (Ledger Wording)
open Jobs (Board Job)
open Pipeline (Run Runner)

/-! ## Steps -/

section Steps

variable {desk : Desk} {number : Nat} {visit : Visit}

/-- The step of a visit leaves the list of the visits and the jobs that are run by hand alone, and
takes back no key. -/
theorem visits_visitStep (desk : Desk) (visit : Visit) :
    (desk.visitStep visit).2.visits = desk.visits ∧ (desk.visitStep visit).2.hands = desk.hands ∧
      desk.named ≤ (desk.visitStep visit).2.named := by
  have same := Nat.le_refl desk.named
  unfold visitStep
  cases visit.phase with
  | lookingUp =>
    simp only
    split
    · exact ⟨rfl, rfl, same⟩
    · split
      · exact ⟨rfl, rfl, same⟩
      · exact ⟨rfl, rfl, Nat.le_succ _⟩
  | creating questionId | recording ticket | remembering ticket =>
    simp only
    split <;> exact ⟨rfl, rfl, same⟩
  | counting ticket | ended outcome => exact ⟨rfl, rfl, same⟩

/-- A visit that goes on makes its step. -/
theorem visit_eq (found : desk.visits[number]? = some visit) :
    desk.visit number = { (desk.visitStep visit).2 with
      visits := desk.visits.modify number ({ · with phase := (desk.visitStep visit).1 }) } := by
  simp only [Desk.visit, found, (visits_visitStep desk visit).1]

/-- A visit that is not there does nothing. -/
theorem visit_of_none (absent : desk.visits[number]? = none) : desk.visit number = desk := by
  simp only [Desk.visit, absent]

/-- A visit that has its ticket is not busy with a question any more. -/
theorem own?_ticketed (visit : Visit) (ticket : Ticket) : (ticketed visit ticket).own? = none := by
  unfold ticketed
  split <;> rfl

/-- The visits after one of them has come to another phase. -/
theorem getElem?_turned {visits : List Visit} (found : visits[number]? = some visit)
    (phase : VisitPhase) (index : Nat) :
    (visits.modify number ({ · with phase := phase }))[index]? =
      if index = number then some { visit with phase } else visits[index]? := by
  by_cases here : index = number
  · subst here
    simp [found]
  · simp [here, Ne.symm here]

/-- Which visits are busy with a question after one of them has come to another phase. -/
theorem owned_modify {visits : List Visit} (found : visits[number]? = some visit)
    (phase : VisitPhase) (questionId : String) (index : Nat) (other : Visit) :
    (visits.modify number ({ · with phase := phase }))[index]? = some other ∧
        other.phase.own? = some questionId ↔
      if index = number then other = { visit with phase } ∧ phase.own? = some questionId
      else visits[index]? = some other ∧ other.phase.own? = some questionId := by
  rw [getElem?_turned found]
  split
  · constructor
    · rintro ⟨⟨⟩, own⟩
      exact ⟨rfl, own⟩
    · rintro ⟨rfl, own⟩
      exact ⟨rfl, own⟩
  · rfl

/-- A visit that is not busy with a question before and after its step makes no difference to it. -/
theorem owned_apart {visits : List Visit} (found : visits[number]? = some visit)
    {phase : VisitPhase} {questionId : String} (before : visit.phase.own? ≠ some questionId)
    (later : phase.own? ≠ some questionId) (index : Nat) (other : Visit) :
    (visits.modify number ({ · with phase := phase }))[index]? = some other ∧
        other.phase.own? = some questionId ↔
      visits[index]? = some other ∧ other.phase.own? = some questionId := by
  rw [owned_modify found]
  split
  · next here =>
    rw [here, found]
    constructor
    · rintro ⟨_, own⟩
      exact absurd own later
    · rintro ⟨same, own⟩
      cases same
      exact absurd own before
  · rfl

/-- The visit that is busy with a question after the step of the only one that was. -/
theorem Keeps.owned {questionId : String} {matter : Matter}
    (keeps : desk.Keeps questionId matter) (found : desk.visits[number]? = some visit)
    (only : visit.phase.own? = some questionId ∨ matter.visit = none) (phase : VisitPhase)
    (index : Nat) (other : Visit) :
    (if phase.own? = some questionId then some (number, { visit with phase }) else none) =
        some (index, other) ↔
      (desk.visits.modify number ({ · with phase := phase }))[index]? = some other ∧
        other.phase.own? = some questionId := by
  rw [owned_modify found]
  have alone : index ≠ number →
      ¬(desk.visits[index]? = some other ∧ other.phase.own? = some questionId) := by
    intro different owned
    have mine := (keeps.visits index other).mpr owned
    rcases only with own | free
    · have his := (keeps.visits number visit).mpr ⟨found, own⟩
      rw [mine] at his
      cases his
      exact different rfl
    · rw [free] at mine
      cases mine
  by_cases here : index = number
  · subst here
    rw [if_pos rfl]
    split
    · next own =>
      constructor
      · rintro ⟨⟩
        exact ⟨rfl, own⟩
      · rintro ⟨rfl, _⟩
        rfl
    · next free =>
      constructor
      · rintro ⟨⟩
      · rintro ⟨_, own⟩
        exact absurd own free
  · rw [if_neg here]
    constructor
    · intro same
      split at same
      · cases same
        exact absurd rfl here
      · cases same
    · exact fun owned => absurd owned (alone here)

end Steps

/-! ## What a step does to its question -/

section Questions

variable {desk after : Desk} {number : Nat} {visit : Visit} {phase : VisitPhase}
  {questionId : String} {matter : Matter}

/-- A visit cites no question. -/
theorem cited_of_visit (cited : (desk.visit number).Cited questionId) : desk.Cited questionId := by
  obtain ⟨visits, named, database, board, store, went, boards, stores⟩ := desk.visit_cases number
  rw [went] at cited
  refine cited.congr (fun hash => ?_) fun runner run running => Or.inl ?_
  · rcases stores with same | ⟨fingerprint, entry, put⟩
    · exact congrArg (·.answer? hash) same
    · exact Cache.Store.answer?_putPrompt put hash
  · have workers : ∀ index : Nat, board.workers[index]? = desk.board.workers[index]? := by
      intro index
      rcases boards with same | ⟨own, prompt, created⟩
      · rw [same]
      · rw [created, Board.workers_create]
    have same : ({ desk with visits, named, database, board, store } : Desk).run? runner =
        desk.run? runner := run?_congr runner workers rfl
    rw [← same]
    exact running

/-- A visit whose step has nothing to do with a question leaves its matter as it is. -/
theorem Keeps.apart (keeps : desk.Keeps questionId matter)
    (proper : matter.Proper desk.named questionId) (found : desk.visits[number]? = some visit)
    (step : desk.visitStep visit = (phase, after)) (before : visit.phase.own? ≠ some questionId)
    (later : phase.own? ≠ some questionId) (board : after.board = desk.board)
    (ledger : after.ledger questionId = desk.ledger questionId) :
    (desk.visit number).Keeps questionId matter := by
  have went := visit_eq found
  rw [step] at went
  refine keeps.calm proper ?_ ?_ ?_ cited_of_visit
  · rw [went]
    exact owned_apart found before later
  · rw [went]
    simp only [board]
    exact .refl _
  · rw [went]
    exact ledger

/-- A visit that is busy with a question brings its matter to where its step leads. -/
theorem Keeps.stepped (keeps : desk.Keeps questionId matter)
    (found : desk.visits[number]? = some visit) (step : desk.visitStep visit = (phase, after))
    (only : visit.phase.own? = some questionId ∨ matter.visit = none)
    (board : after.board = desk.board) :
    (desk.visit number).Keeps questionId
      ⟨if phase.own? = some questionId then some (number, { visit with phase }) else none,
        matter.standing, after.ledger questionId⟩ := by
  have went := visit_eq found
  rw [step] at went
  have same : (desk.visit number).board = desk.board := by rw [went]; exact board
  refine ⟨?_, by rw [same]; exact keeps.placed, by rw [same]; exact keeps.only,
    by rw [same]; exact keeps.numbered, by rw [went]; rfl,
    fun cites => keeps.cited (cited_of_visit cites)⟩
  rw [went]
  exact keeps.owned found only phase

/-- The matter of a question that a visit is busy with. -/
theorem Keeps.of_visit (keeps : desk.Keeps questionId matter)
    (proper : matter.Proper desk.named questionId) (found : desk.visits[number]? = some visit)
    (own : visit.phase.own? = some questionId) :
    matter.visit = some (number, visit) ∧ Attends questionId matter visit := by
  have mine := (keeps.visits number visit).mpr ⟨found, own⟩
  exact ⟨mine, proper.attended number visit mine⟩

/-- A question without a key has no matter. -/
theorem Matter.Proper.empty (proper : matter.Proper desk.named questionId)
    (key : questionId = questionKey (desk.named + 1)) : matter = {} := by
  rcases proper.key with ⟨number, below, same⟩ | empty
  · have equal := questionKey_inj (same.symm.trans key)
    omega
  · exact empty

/-- A visit that looks up its prompt is given the key of a new question, or has nothing to do with
any question. -/
theorem develops_lookingUp (keeps : desk.Keeps questionId matter)
    (proper : matter.Proper desk.named questionId) (found : desk.visits[number]? = some visit)
    (looking : visit.phase = .lookingUp) :
    desk.Develops (.act (.visit number)) questionId matter (desk.visit number) := by
  obtain ⟨prompt, source, _⟩ := visit
  obtain rfl : _ = VisitPhase.lookingUp := looking
  have rests : ∀ {outcome}, desk.visitStep ⟨prompt, source, .lookingUp⟩ = (outcome, desk) →
      outcome.own? = none →
        desk.Develops (.act (.visit number)) questionId matter (desk.visit number) := by
    intro outcome step free
    exact ⟨matter, .rests, keeps.apart proper found step nofun (by rw [free]; nofun) rfl rfl⟩
  cases known : desk.store.findPrompt desk.now (promptFingerprint prompt) with
  | error failure => exact rests (by simp only [visitStep, known]; rfl) rfl
  | ok entry =>
    cases usable : entry.bind fun known =>
        (desk.board.findUsable? questionJobType known.questionId).map
          (ticketOf known.questionId) with
    | some ticket =>
      exact rests (by simp only [visitStep, known, usable]; rfl) (own?_ticketed _ ticket)
    | none =>
      have step : desk.visitStep ⟨prompt, source, .lookingUp⟩ =
          (.creating (questionKey (desk.named + 1)), { desk with named := desk.named + 1 }) := by
        simp only [visitStep, known, usable]
      by_cases key : questionId = questionKey (desk.named + 1)
      · obtain rfl := proper.empty key
        have named : (desk.occur (.act (.visit number))).named = desk.named + 1 := by
          change (desk.visit number).named = _
          rw [visit_eq found, step]
        have after := keeps.stepped found step (Or.inr rfl) rfl
        rw [if_pos (by rw [key]; rfl), ← key] at after
        have empty : desk.ledger questionId = {} := keeps.ledger
        change (desk.visit number).Keeps questionId ⟨_, _, desk.ledger questionId⟩ at after
        rw [empty] at after
        exact ⟨_, .begun key named, after⟩
      · exact ⟨matter, .rests, keeps.apart proper found step nofun
          (fun own => key (Option.some.inj own).symm) rfl rfl⟩

/-- Whether the step of a visit fails decides whether it is smooth. -/
theorem isSmooth_visit (found : desk.visits[number]? = some visit) {failure : Failure}
    (step : desk.visitStep visit = (.ended (.error failure), after)) :
    desk.isSmooth (.act (.visit number)) = false := by
  simp only [isSmooth, found, step]

/-- What the database holds after a question was to be stored: all other questions are as before,
and the question is a draft unless it could not be stored. -/
theorem ledgers_createQuestion {asked prompt : String} {outcome : Except Failure Database.Question}
    {database : Database} (stored : desk.database.createQuestion desk.now
      { id := asked, content := some prompt } = (outcome, database)) :
    (∀ other, other ≠ asked → database.tables.ledger other = desk.ledger other) ∧
      (database.tables.ledger asked = desk.ledger asked ∧ (∃ failure, outcome = .error failure) ∨
        database.tables.ledger asked = { desk.ledger asked with wording := some .draft }) := by
  have all := Database.createQuestion_cases desk.database desk.now asked prompt
  rw [stored] at all
  rcases all with ⟨failure, failed⟩ | ⟨_, ledger⟩
  · cases failed
    exact ⟨fun _ _ => rfl, Or.inl ⟨rfl, failure, rfl⟩⟩
  · exact ⟨fun other different => (ledger other).trans (if_neg different),
      Or.inr ((ledger asked).trans (if_pos rfl))⟩

/-- There is nothing but the visit about a question that is about to be stored. -/
theorem Keeps.of_creating (keeps : desk.Keeps questionId matter)
    (proper : matter.Proper desk.named questionId) {prompt : String} {source : Option String}
    (found : desk.visits[number]? = some ⟨prompt, source, .creating questionId⟩) :
    matter = { visit := some (number, ⟨prompt, source, .creating questionId⟩) } := by
  obtain ⟨visits, attends⟩ := keeps.of_visit proper found rfl
  cases attends with
  | creating standing empty =>
    obtain ⟨_, _, _⟩ := matter
    cases visits
    cases standing
    cases empty
    rfl

/-- A visit that has stored a question creates its job. -/
theorem develops_posed (sound : desk.board.Sound) (keeps : desk.Keeps questionId matter)
    (proper : matter.Proper desk.named questionId) {asked prompt : String}
    {source : Option String} {question : Database.Question} {database : Database}
    (found : desk.visits[number]? = some ⟨prompt, source, .creating asked⟩)
    (stored : desk.database.createQuestion desk.now { id := asked, content := some prompt } =
      (.ok question, database)) :
    desk.Develops (.act (.visit number)) questionId matter (desk.visit number) := by
  obtain ⟨apart, own⟩ := ledgers_createQuestion stored
  rcases created : desk.board.create desk.now questionJobType asked (payload asked prompt) true
    with ⟨job, board⟩
  have step : desk.visitStep ⟨prompt, source, .creating asked⟩ =
      (.recording (ticketOf asked job), { desk with database, board }) := by
    simp only [visitStep, stored, created]
  have went := visit_eq found
  rw [step] at went
  -- Old jobs are forgotten before the new one is added.
  have sheds := Board.sheds_forget sound desk.now questionJobType
  have added : (desk.board.forget desk.now questionJobType).add desk.now questionJobType asked
      (payload asked prompt) = (job, board) := created
  have boards : (desk.visit number).board =
      ((desk.board.forget desk.now questionJobType).add desk.now questionJobType asked
        (payload asked prompt)).2 := by
    rw [went, added]
  have runs : ∀ runner,
      ({ desk with board := desk.board.forget desk.now questionJobType } : Desk).run? runner =
        desk.run? runner :=
    fun runner => run?_congr runner (fun index => congrArg (·[index]?) sheds.workers) rfl
  have cited : (desk.visit number).Cited questionId →
      ({ desk with board := desk.board.forget desk.now questionJobType } : Desk).Cited
        questionId := by
    intro cites
    exact (cited_of_visit cites).congr (fun _ => rfl) fun runner run running =>
      Or.inl ((runs runner).trans running)
  have forgot : ({ desk with board := desk.board.forget desk.now questionJobType } : Desk).Keeps
      questionId matter :=
    keeps.calm proper (fun _ _ => Iff.rfl) (calm_of_sheds sheds) rfl fun cites =>
      cites.congr (fun _ => rfl) fun runner run running => Or.inl ((runs runner).symm.trans running)
  by_cases mine : questionId = asked
  · subst mine
    obtain rfl := keeps.of_creating proper found
    have ledger : (desk.visit number).ledger questionId = { wording := some .draft } := by
      rcases own with ⟨_, _, failed⟩ | ledger
      · cases failed
      · have empty : desk.ledger questionId = {} := keeps.ledger
        rw [went]
        change database.tables.ledger questionId = _
        rw [ledger, empty]
    have visits : ∀ (index : Nat) (other : Visit),
        some (number, (⟨prompt, source, .recording (ticketOf questionId job)⟩ : Visit)) =
            some (index, other) ↔
          (desk.visit number).visits[index]? = some other ∧
            other.phase.own? = some questionId := by
      intro index other
      have owned :=
        keeps.owned found (Or.inl rfl) (.recording (ticketOf questionId job)) index other
      rw [show (VisitPhase.recording (ticketOf questionId job)).own? = some questionId from rfl,
        if_pos rfl] at owned
      rw [went]
      exact owned
    have after := forgot.posed sheds.sound boards rfl visits cited
    rw [ledger, added] at after
    cases added
    exact ⟨_, .posed ⟨rfl, rfl, rfl, prompt, rfl⟩ rfl rfl ⟨rfl, ⟨none, rfl⟩, rfl⟩ rfl, after⟩
  · refine ⟨matter, .rests, forgot.added sheds.sound boards (Ne.symm mine) ?_ ?_ cited⟩
    · rw [went]
      exact owned_apart found (fun same => mine (Option.some.inj same).symm)
        fun same => mine (Option.some.inj same).symm
    · rw [went]
      exact apart questionId mine

/-- A visit that is about to store a question stores it with its job, or fails. -/
theorem develops_creating (sound : desk.board.Sound) (keeps : desk.Keeps questionId matter)
    (proper : matter.Proper desk.named questionId) (found : desk.visits[number]? = some visit)
    {asked : String} (creating : visit.phase = .creating asked) :
    desk.Develops (.act (.visit number)) questionId matter (desk.visit number) := by
  obtain ⟨prompt, source, _⟩ := visit
  obtain rfl : _ = VisitPhase.creating asked := creating
  rcases stored : desk.database.createQuestion desk.now { id := asked, content := some prompt }
    with ⟨outcome, database⟩
  cases outcome with
  | ok question => exact develops_posed sound keeps proper found stored
  | error failure =>
    obtain ⟨apart, own⟩ := ledgers_createQuestion stored
    have step : desk.visitStep ⟨prompt, source, .creating asked⟩ =
        (.ended (.error failure), { desk with database }) := by
      simp only [visitStep, stored]
    by_cases mine : questionId = asked
    · subst mine
      obtain rfl := keeps.of_creating proper found
      have after := keeps.stepped found step (Or.inl rfl) rfl
      have empty : desk.ledger questionId = {} := keeps.ledger
      rw [empty] at own
      have left : ∃ wording : Option Wording, (∀ text ∈ wording, text = .draft) ∧
          database.tables.ledger questionId = { wording } := by
        rcases own with ⟨same, _⟩ | drafted
        · exact ⟨none, by rintro _ ⟨⟩, same⟩
        · exact ⟨some .draft, fun text same => (Option.some.inj same).symm, drafted⟩
      obtain ⟨wording, draft, ledger⟩ := left
      rw [show ({ desk with database } : Desk).ledger questionId = _ from ledger] at after
      exact ⟨_, .unposed (isSmooth_visit found step) draft, after⟩
    · exact ⟨matter, .rests, keeps.apart proper found step
        (fun same => mine (Option.some.inj same).symm) (by rintro ⟨⟩) rfl (apart questionId mine)⟩

/-- What the database holds after what is known about a job was to be stored: all other questions
are as before, and the question has the record unless it could not be stored. -/
theorem ledgers_createRecord {asked jobId : String} {outcome : Except Failure Database.JobRecord}
    {database : Database} (stored : desk.database.createRecord desk.now (some asked) (some jobId)
      (some Database.pendingStatus) none = (outcome, database)) :
    (∀ other, other ≠ asked → database.tables.ledger other = desk.ledger other) ∧
      (database.tables.ledger asked = desk.ledger asked ∧ (∃ failure, outcome = .error failure) ∨
        (∃ wording, (desk.ledger asked).wording = some wording) ∧
          database.tables.ledger asked = { desk.ledger asked with
            records := (desk.ledger asked).records ++
              [⟨asked, jobId, Database.pendingStatus, none, desk.now⟩] }) := by
  have all := Database.createRecord_cases desk.database desk.now asked jobId Database.pendingStatus
  rw [stored] at all
  rcases all with ⟨failure, failed⟩ | ⟨there, _, ledger⟩
  · cases failed
    exact ⟨fun _ _ => rfl, Or.inl ⟨rfl, failure, rfl⟩⟩
  · exact ⟨fun other different => (ledger other).trans (if_neg different),
      Or.inr ⟨there, (ledger asked).trans (if_pos rfl)⟩⟩

/-- What is known about the job of a question is stored, or the visit fails. -/
theorem develops_recorded {standing : Standing} {ledger : Ledger} {prompt : String}
    {source : Option String} {job : Job} {outcome : Except Failure Database.JobRecord}
    {database : Database} (keeps : desk.Keeps questionId
      ⟨some (number, ⟨prompt, source, .recording (ticketOf questionId job)⟩), standing, ledger⟩)
    (found : desk.visits[number]? =
      some ⟨prompt, source, .recording (ticketOf questionId job)⟩)
    (stands : standing.job? = some job) (unknown : ledger.records = [])
    (stored : desk.database.createRecord desk.now (some questionId) (some job.id)
      (some Database.pendingStatus) none = (outcome, database)) :
    desk.Develops (.act (.visit number)) questionId
      ⟨some (number, ⟨prompt, source, .recording (ticketOf questionId job)⟩), standing, ledger⟩
      (desk.visit number) := by
  have written := (ledgers_createRecord stored).2
  rw [show desk.ledger questionId = ledger from keeps.ledger, unknown] at written
  cases outcome with
  | error failure =>
    have step : desk.visitStep ⟨prompt, source, .recording (ticketOf questionId job)⟩ =
        (.ended (.error failure), { desk with database }) := by
      simp only [visitStep, ticketOf, stored]
    have after := keeps.stepped found step (Or.inl rfl) rfl
    have fails := isSmooth_visit found step
    rcases written with ⟨same, _⟩ | ⟨there, now⟩
    · rw [show ({ desk with database } : Desk).ledger questionId =
        { ledger with records := ledger.records } from same] at after
      exact ⟨_, .unrecorded fails (fun different => absurd rfl different), after⟩
    · rw [show ({ desk with database } : Desk).ledger questionId = _ from now] at after
      exact ⟨_, .unrecorded fails (fun _ => ⟨unknown, there, job, stands, rfl⟩), after⟩
  | ok record =>
    have step : desk.visitStep ⟨prompt, source, .recording (ticketOf questionId job)⟩ =
        (.remembering (ticketOf questionId job), { desk with database }) := by
      simp only [visitStep, ticketOf, stored]
    have after := keeps.stepped found step (Or.inl rfl) rfl
    rcases written with ⟨_, _, failed⟩ | ⟨⟨wording, there⟩, now⟩
    · cases failed
    · rw [show ({ desk with database } : Desk).ledger questionId = _ from now,
        if_pos (show (VisitPhase.remembering (ticketOf questionId job)).own? = some questionId
          from rfl)] at after
      exact ⟨_, .recorded stands there unknown, after⟩

/-- A visit that is about to store what is known about its job stores it, or fails. -/
theorem develops_recording (keeps : desk.Keeps questionId matter)
    (proper : matter.Proper desk.named questionId) (found : desk.visits[number]? = some visit)
    {ticket : Ticket} (recording : visit.phase = .recording ticket) :
    desk.Develops (.act (.visit number)) questionId matter (desk.visit number) := by
  obtain ⟨prompt, source, _⟩ := visit
  obtain rfl : _ = VisitPhase.recording ticket := recording
  obtain ⟨asked, jobId, seq⟩ := ticket
  rcases stored : desk.database.createRecord desk.now (some asked) (some jobId)
    (some Database.pendingStatus) none with ⟨outcome, database⟩
  by_cases own : questionId = asked
  · subst own
    obtain ⟨visits, attends⟩ := keeps.of_visit proper found rfl
    obtain ⟨job, stands, same, _, unknown⟩ := attends.of_recording
    obtain ⟨_, standing, ledger⟩ := matter
    cases visits
    cases same
    exact develops_recorded keeps found stands unknown stored
  · have apart := (ledgers_createRecord stored).1 questionId own
    have rests : ∀ {phase}, desk.visitStep ⟨prompt, source, .recording ⟨asked, jobId, seq⟩⟩ =
        (phase, { desk with database }) → phase.own? ≠ some questionId →
        desk.Develops (.act (.visit number)) questionId matter (desk.visit number) := by
      intro phase step later
      exact ⟨matter, .rests, keeps.apart proper found step
        (fun same => own (Option.some.inj same).symm) later rfl apart⟩
    cases outcome with
    | error failure =>
      exact @rests (.ended (.error failure)) (by simp only [visitStep, stored]) nofun
    | ok record =>
      exact @rests (.remembering ⟨asked, jobId, seq⟩) (by simp only [visitStep, stored])
        fun same => own (Option.some.inj same).symm

/-- A visit that is about to remember what its prompt became does so, or fails. -/
theorem develops_remembering (keeps : desk.Keeps questionId matter)
    (proper : matter.Proper desk.named questionId) (found : desk.visits[number]? = some visit)
    {ticket : Ticket} (remembering : visit.phase = .remembering ticket) :
    desk.Develops (.act (.visit number)) questionId matter (desk.visit number) := by
  obtain ⟨prompt, source, _⟩ := visit
  obtain rfl : _ = VisitPhase.remembering ticket := remembering
  have done : ∀ {phase store}, desk.visitStep ⟨prompt, source, .remembering ticket⟩ =
      (phase, { desk with store }) → phase.own? = none →
        desk.Develops (.act (.visit number)) questionId matter (desk.visit number) := by
    intro phase store step free
    by_cases own : questionId = ticket.questionId
    · subst own
      obtain ⟨visits, _⟩ := keeps.of_visit proper found rfl
      have after := keeps.stepped found step (Or.inl rfl) rfl
      rw [free, if_neg nofun,
        show ({ desk with store } : Desk).ledger ticket.questionId = matter.ledger
          from keeps.ledger] at after
      obtain ⟨_, standing, ledger⟩ := matter
      cases visits
      exact ⟨_, .remembered, after⟩
    · exact ⟨matter, .rests, keeps.apart proper found step
        (fun same => own (Option.some.inj same).symm) (by rw [free]; nofun) rfl rfl⟩
  cases put : desk.store.putPrompt desk.now desk.keepSeconds (promptFingerprint prompt)
    ⟨ticket.jobId, ticket.questionId⟩ with
  | error failure =>
    exact @done (.ended (.error failure)) desk.store (by simp only [visitStep, put]) rfl
  | ok store => exact done (by simp only [visitStep, put]; rfl) (own?_ticketed _ ticket)

/-- A visit that is about to store that its question was asked does so, unless that fails. -/
theorem develops_counting (keeps : desk.Keeps questionId matter)
    (proper : matter.Proper desk.named questionId) (found : desk.visits[number]? = some visit)
    {ticket : Ticket} (counting : visit.phase = .counting ticket) :
    desk.Develops (.act (.visit number)) questionId matter (desk.visit number) := by
  obtain ⟨prompt, source, _⟩ := visit
  obtain rfl : _ = VisitPhase.counting ticket := counting
  have step : desk.visitStep ⟨prompt, source, .counting ticket⟩ =
      (.ended (.ok ticket), { desk with
        database := (desk.database.logRequest desk.now (some ticket.questionId) source).2 }) := rfl
  rcases Database.ledger_logRequest desk.database desk.now ticket.questionId source questionId with
    same | ⟨⟨wording, asked⟩, requests, stored⟩
  · exact ⟨matter, .rests, keeps.apart proper found step nofun nofun rfl same⟩
  · have here : desk.database.tables.ledger questionId = matter.ledger := keeps.ledger
    rw [here] at asked stored
    have went := visit_eq found
    rw [step] at went
    have same : (desk.visit number).board = desk.board := by rw [went]
    refine ⟨⟨matter.visit, matter.standing, { matter.ledger with requests }⟩, .counted asked,
      fun index other => ?_, by rw [same]; exact keeps.placed, by rw [same]; exact keeps.only,
      by rw [same]; exact keeps.numbered, by rw [went]; exact stored,
      fun cites => keeps.cited (cited_of_visit cites)⟩
    rw [went]
    exact (keeps.visits index other).trans
      (owned_apart found (by simp [VisitPhase.own?]) (by simp [VisitPhase.own?]) index other).symm

end Questions

/-- A visit that goes on leaves everything staffed and develops the matters of all questions. -/
theorem Staffed.turned_visit {desk : Desk} (staffed : desk.Staffed) (number : Nat) :
    desk.Turned (.act (.visit number)) (desk.visit number) := by
  have sound : (desk.visit number).board.Sound :=
    sound_meet staffed.sound (.act (.visit number))
  cases found : desk.visits[number]? with
  | none =>
    rw [visit_of_none found]
    exact .of_eq staffed rfl rfl rfl rfl rfl
  | some visit =>
    refine ⟨?_, fun questionId matter keeps proper => ?_⟩
    · obtain ⟨visits, named, database, board, store, went, boards, _⟩ := desk.visit_cases number
      refine staffed.congr sound ?_ ?_ (by rw [went])
      · rw [went]
        rcases boards with same | ⟨questionId, prompt, created⟩
        · exact congrArg Board.listeners same
        · rw [created]
          exact (Board.sheds_forget staffed.sound desk.now questionJobType).listeners
      · rw [went]
        rcases boards with same | ⟨questionId, prompt, created⟩
        · exact congrArg Board.workers same
        · rw [created]
          exact Board.workers_create _ _ _ _ _ _
    · cases phase : visit.phase with
      | lookingUp => exact develops_lookingUp keeps proper found phase
      | creating asked => exact develops_creating staffed.sound keeps proper found phase
      | recording ticket => exact develops_recording keeps proper found phase
      | remembering ticket => exact develops_remembering keeps proper found phase
      | counting ticket => exact develops_counting keeps proper found phase
      | ended outcome =>
        have step : desk.visitStep visit = (.ended outcome, desk) := by
          simp only [visitStep, phase]
        exact ⟨matter, .rests, keeps.apart proper found step
          (by simp [phase, VisitPhase.own?]) (by simp [VisitPhase.own?]) rfl rfl⟩

end QuestionDesk.Desk
