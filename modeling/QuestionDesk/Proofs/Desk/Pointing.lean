import QuestionDesk.Proofs.Cache.Prompts
import QuestionDesk.Proofs.Desk.Courses

/-!
# Pointing

A prompt points at a question where the store remembers that it became the question. A question
whose job is a duplicate is pointed at by no prompt, unless its visit remembers what the prompt
became only after the run has pointed the prompt at another question.
-/
namespace QuestionDesk.Desk

open Jobs (Board Event Job)
open Pipeline (Phase Prepared Run Runner)

/-- The store remembers under a fingerprint that a prompt became a question. -/
def Points (desk : Desk) (fingerprint questionId : String) : Prop :=
  ∃ item entry, desk.store.prompt? fingerprint = some item ∧ item.promptEntry? = some entry ∧
    entry.questionId = questionId

/-! ## Who writes -/

section Writes

variable {desk : Desk} {occurrence : Occurrence} {questionId fingerprint : String}
  {matter after : Matter}

/-- A prompt points where it did as long as what is remembered of it stays. -/
theorem Points.congr {later : Desk} (points : later.Points fingerprint questionId)
    (same : later.store.prompt? fingerprint = desk.store.prompt? fingerprint) :
    desk.Points fingerprint questionId := by
  obtain ⟨item, entry, found, read⟩ := points
  exact ⟨item, entry, same ▸ found, read⟩

/-- A prompt points at the question that was written for it, or where it did before. -/
theorem Points.of_put {later : Desk} (points : later.Points fingerprint questionId) {now : Micros}
    {seconds : Int} {own : String} {entry : Cache.PromptEntry}
    (put : desk.store.putPrompt now seconds own entry = .ok later.store) :
    fingerprint = own ∧ entry.questionId = questionId ∨
      fingerprint ≠ own ∧ desk.Points fingerprint questionId := by
  obtain ⟨item, read, prompts⟩ := Cache.Store.prompt?_putPrompt put
  obtain ⟨other, known, found, readable, named⟩ := points
  rw [prompts] at found
  split at found
  · next here =>
    cases found
    cases read.symm.trans readable
    exact Or.inl ⟨here, named⟩
  · next different => exact Or.inr ⟨different, other, known, found, readable, named⟩

/-- The step of a visit writes to the store only what its prompt became. -/
theorem store_visitStep (desk : Desk) (visit : Visit) :
    (desk.visitStep visit).2.store = desk.store ∨ ∃ ticket, visit.phase = .remembering ticket ∧
      desk.store.putPrompt desk.now desk.keepSeconds (promptFingerprint visit.prompt)
        ⟨ticket.jobId, ticket.questionId⟩ = .ok (desk.visitStep visit).2.store := by
  unfold visitStep
  cases phase : visit.phase with
  | lookingUp =>
    simp only
    split
    · exact Or.inl rfl
    · split <;> exact Or.inl rfl
  | creating questionId | recording ticket =>
    simp only
    split <;> exact Or.inl rfl
  | remembering ticket =>
    simp only
    cases put : desk.store.putPrompt desk.now desk.keepSeconds (promptFingerprint visit.prompt)
        ⟨ticket.jobId, ticket.questionId⟩ with
    | error failure => exact Or.inl rfl
    | ok store => exact Or.inr ⟨ticket, rfl, put⟩
  | counting ticket | ended outcome => exact Or.inl rfl

/-- A run that ends writes to the store only its answer, or that its prompt became the question of
another. -/
theorem Passage.prompts_ended {between : Desk} {runner : Runner} {run : Run}
    {response : Remote.Response} {outcome : Except Failure Value} {notes : Fields}
    (passage : desk.Passage runner run response (.ended outcome notes) between) :
    (∀ other, between.store.prompt? other = desk.store.prompt? other) ∨
      ∃ prepared entry key, run.phase = .repointing prepared entry ∧ Run.keyFor run.prompt = .ok key ∧
        desk.store.putPrompt desk.now desk.keepSeconds key (Run.pointer entry) =
          .ok between.store := by
  cases passage with
  | repointed phase keyed done => exact Or.inr ⟨_, _, _, phase, keyed, done⟩
  | stored phase named done => exact Or.inl (Cache.Store.prompt?_putQuery done)
  | _ => exact Or.inl fun _ => rfl

/-- A run that goes on writes of prompts only what its own became, when it is a duplicate. -/
theorem prompts_work (desk : Desk) (runner : Runner) (response : Remote.Response) :
    (∀ other, (desk.work runner response).store.prompt? other = desk.store.prompt? other) ∨
      ∃ run prepared entry key, desk.run? runner = some run ∧
        run.phase = .repointing prepared entry ∧ Run.keyFor run.prompt = .ok key ∧
          desk.store.putPrompt desk.now desk.keepSeconds key (Run.pointer entry) =
            .ok (desk.work runner response).store := by
  rcases desk.work_cases runner response with same | ⟨run, step, between, running, passage, went⟩
  · exact Or.inl fun other => by rw [same]
  · rw [went]
    cases step with
    | goOn next notes =>
      refine Or.inl fun other => ?_
      rw [follow_goOn]
      change (between.goOn runner next notes).store.prompt? other = _
      rw [store_goOn, passage.store_eq]
    | ended outcome notes =>
      have store : (between.follow runner run (.ended outcome notes)).store = between.store :=
        store_conclude ..
      rw [store]
      rcases passage.prompts_ended with same | ⟨prepared, entry, key, phase, keyed, put⟩
      · exact Or.inl same
      · exact Or.inr ⟨run, prepared, entry, key, running, phase, keyed, put⟩

/-- Something that leaves the store alone leaves where prompts point. -/
theorem store_occur (desk : Desk) (occurrence : Occurrence) :
    (desk.occur occurrence).store.items = desk.store.items ∨
      (∃ number, occurrence = .act (.visit number)) ∨
        ∃ runner response, occurrence = .act (.work runner response) := by
  cases occurrence with
  | bring name sink => exact Or.inl rfl
  | act action =>
    cases action with
    | visit number => exact Or.inr (Or.inl ⟨number, rfl⟩)
    | work runner response => exact Or.inr (Or.inr ⟨runner, response, rfl⟩)
    | tell worker =>
      obtain ⟨board, database, relay, told, _⟩ := desk.tell_cases worker
      exact Or.inl (by simp only [occur, act, told])
    | cut runner =>
      obtain ⟨turns, relay, board, hands, gone, _⟩ := desk.cut_cases runner
      exact Or.inl (by simp only [occur, act, gone])
    | subscribe questionId sink =>
      obtain ⟨relay, went⟩ := desk.subscribe_eq questionId sink
      exact Or.inl (by simp only [occur, act, went])
    | promote =>
      obtain ⟨database, promoter, went⟩ := desk.promote_eq
      exact Or.inl (by simp only [occur, act, went])
    | _ => exact Or.inl rfl

/-- Somebody is about to write of a prompt what it became. -/
inductive Writes (desk : Desk) (fingerprint : String) (entry : Cache.PromptEntry) : Prop where
  /-- A visit remembers which question the prompt became. -/
  | remembered {number : Nat} {prompt : String} {source : Option String} {ticket : Ticket}
    (visit : desk.visits[number]? = some ⟨prompt, source, .remembering ticket⟩)
    (own : fingerprint = promptFingerprint prompt)
    (names : entry = ⟨ticket.jobId, ticket.questionId⟩)
  /-- The run of a duplicate points the prompt at the question that has the answer. -/
  | repointed {runner : Runner} {run : Run} {prepared : Prepared} {known : Cache.QueryEntry}
    (running : desk.run? runner = some run) (phase : run.phase = .repointing prepared known)
    (own : Run.keyFor run.prompt = .ok fingerprint) (names : entry = Run.pointer known)

/-- What is remembered of prompts stays as it is, except that one prompt may be written. -/
theorem prompts_occur (desk : Desk) (occurrence : Occurrence) :
    (∀ other, (desk.occur occurrence).store.prompt? other = desk.store.prompt? other) ∨
      ∃ fingerprint entry, desk.Writes fingerprint entry ∧
        desk.store.putPrompt desk.now desk.keepSeconds fingerprint entry =
          .ok (desk.occur occurrence).store := by
  rcases desk.store_occur occurrence with same | ⟨number, rfl⟩ | ⟨runner, response, rfl⟩
  · exact Or.inl fun other => congrArg (·.find? (Cache.promptKey other)) same
  · rw [occur, act]
    cases found : desk.visits[number]? with
    | none => exact Or.inl fun other => by rw [visit_of_none found]
    | some visit =>
      rw [visit_eq found]
      rcases desk.store_visitStep visit with same | ⟨ticket, phase, put⟩
      · exact Or.inl fun other => congrArg (·.prompt? other) same
      · obtain ⟨prompt, source, _⟩ := visit
        cases phase
        exact Or.inr ⟨_, _, .remembered found rfl rfl, put⟩
  · refine (desk.prompts_work runner response).imp_right ?_
    rintro ⟨run, prepared, entry, key, running, phase, keyed, put⟩
    exact ⟨_, _, .repointed running phase keyed rfl, put⟩

/-- A prompt that points at a question did so before, or the visit of the question has just
remembered it, or the question has an answer. -/
theorem Keeps.points_occur (keeps : desk.Keeps questionId matter)
    (points : (desk.occur occurrence).Points fingerprint questionId) :
    desk.Points fingerprint questionId ∨
      (∃ number prompt source ticket,
        matter.visit = some (number, ⟨prompt, source, .remembering ticket⟩) ∧
          fingerprint = promptFingerprint prompt) ∨ matter.standing.IsAnswered := by
  rcases desk.prompts_occur occurrence with same | ⟨written, entry, writes, put⟩
  · exact Or.inl (points.congr (same fingerprint))
  · rcases points.of_put put with ⟨rfl, own⟩ | ⟨_, before⟩
    · cases writes with
      | @remembered number prompt source ticket visit here names =>
        rw [names] at own
        exact Or.inr (Or.inl ⟨number, prompt, source, ticket,
          (keeps.visits number _).mpr ⟨visit, congrArg some own⟩, here⟩)
      | repointed running phase _ names =>
        rw [names] at own
        exact Or.inr (Or.inr (keeps.cited (Or.inr ⟨_, _, _, _, running, Or.inr phase, own⟩)))
    · exact Or.inl before

end Writes

/-! ## Questions of duplicates -/

section Duplicates

variable {desk : Desk} {occurrence : Occurrence} {questionId : String} {matter after : Matter}
  {job : Job}

/-- The job of a question stays its job, and has the same payload. -/
theorem Development.payload (development : Development desk occurrence questionId matter after)
    (stands : matter.standing.job? = some job) :
    ∃ later, after.standing.job? = some later ∧ later.payload = job.payload := by
  cases development with
  | rests | counted | recorded | unrecorded | remembered | told | dismissed =>
    exact ⟨_, stands, rfl⟩
  | begun | posed | unposed => cases stands
  | taken =>
    cases stands
    exact ⟨_, rfl, rfl⟩
  | wentOn | cutOff =>
    cases stands
    exact ⟨_, rfl, (same_noteAll _ _).2.2.2.2⟩
  | ended =>
    cases stands
    exact ⟨_, rfl, (same_ended _ _ _ _).2.2.2.2⟩

/-- A question that has an answer keeps having it. -/
theorem Development.answered (development : Development desk occurrence questionId matter after)
    (answered : matter.standing.IsAnswered) : after.standing.IsAnswered := by
  cases development with
  | rests | counted | recorded | unrecorded | remembered | told | dismissed => exact answered
  | begun | posed | unposed | taken | wentOn | cutOff | ended => exact answered.elim

/-- The job of a question has ended as a duplicate. -/
def EndsDuplicate (matter : Matter) : Prop :=
  ∃ job, (matter.standing = .closed job ∨ ∃ event, matter.standing = .ends job event) ∧
    isDuplicate job = true

/-- A visit is about to remember what its prompt became. -/
def Remembering (matter : Matter) : Prop :=
  ∃ number prompt source ticket,
    matter.visit = some (number, ⟨prompt, source, .remembering ticket⟩)

/-- The run of a question points the prompt at another question before the visit has remembered that
the prompt became its own. -/
def PointsEarly (desk : Desk) (occurrence : Occurrence) (matter : Matter) : Prop :=
  ∃ worker response job run prepared entry,
    occurrence = .act (.work (.worker worker) response) ∧
      desk.run? (.worker worker) = some run ∧ run.phase = .repointing prepared entry ∧
        matter.standing = .handled job run ∧ Remembering matter

/-- A job that has ended as a duplicate has no answer of its own. -/
theorem EndsDuplicate.not_answered (duplicate : EndsDuplicate matter) :
    ¬matter.standing.IsAnswered := by
  obtain ⟨job, standing | ⟨event, standing⟩, marked⟩ := duplicate <;> rw [standing] <;>
    exact fun answered => absurd (answered.2.symm.trans marked) nofun

/-- A question that is gone because its job is a duplicate. -/
theorem EndsDuplicate.gone (duplicate : EndsDuplicate matter)
    (proper : matter.Proper desk.named questionId) : matter.ledger = {} := by
  have fits := proper.fits
  obtain ⟨job, standing | ⟨event, standing⟩, marked⟩ := duplicate <;> rw [standing] at fits
  · cases fits with
    | closed _ gone => exact gone marked
  · cases fits with
    | answered _ unmarked => exact absurd (unmarked.symm.trans marked) nofun
    | duplicate _ _ gone => exact gone
    | failed ending =>
      cases ending with
      | failed _ bare => exact absurd (bare.unmarked.symm.trans marked) nofun

/-- Where prompts point that point at a question: its own prompt does until it is a duplicate, and
where the question has an answer others may. -/
structure Pointed (questionId : String) (early : Prop) (desk : Desk) (matter : Matter) : Prop where
  /-- It is pointed at by its own prompt, or has an answer. -/
  own : ∀ fingerprint, desk.Points fingerprint questionId → matter.standing.IsAnswered ∨
    ∃ job prompt, matter.standing.job? = some job ∧ job.payload = payload questionId prompt ∧
      fingerprint = promptFingerprint prompt
  /-- It is not pointed at, nor will be, once it is a duplicate. -/
  gone : EndsDuplicate matter → early ∨
    (∀ fingerprint, ¬desk.Points fingerprint questionId) ∧ ¬Remembering matter

/-- A job that ends as a duplicate had ended before, or ends just now and has pointed its prompt at
another question. -/
theorem Development.duplicates
    (development : Development desk occurrence questionId matter after)
    (proper : matter.Proper desk.named questionId) (duplicate : EndsDuplicate after) :
    (EndsDuplicate matter ∧ (Remembering after → Remembering matter)) ∨
      ∃ worker response job run prepared entry prompt,
        occurrence = .act (.work (.worker worker) response) ∧
          desk.run? (.worker worker) = some run ∧ run.phase = .repointing prepared entry ∧
            matter.standing = .handled job run ∧
              job.payload = Desk.payload job.fingerprint prompt ∧ after.visit = matter.visit ∧
                desk.store.putPrompt desk.now desk.keepSeconds (promptFingerprint prompt)
                  (Run.pointer entry) = .ok (desk.occur occurrence).store := by
  have fits := proper.fits
  obtain ⟨job, standing, marked⟩ := duplicate
  cases development with
  | rests | counted => exact Or.inl ⟨⟨job, standing, marked⟩, id⟩
  | recorded _ asked =>
    refine absurd (EndsDuplicate.gone ?_ proper) (not_empty asked)
    exact ⟨job, standing, marked⟩
  | unrecorded | remembered =>
    refine Or.inl ⟨⟨job, standing, marked⟩, ?_⟩
    rintro ⟨_, _, _, _, same⟩
    cases same
  | begun | posed | unposed | taken | wentOn => rcases standing with same | ⟨_, same⟩ <;> cases same
  | @cutOff _ _ _ run =>
    rcases standing with same | ⟨_, same⟩ <;> cases same
    cases fits with
    | handled _ bare =>
      have noted := bare.noteAll (harmless_summary (run.log.summary desk.now))
      exact absurd (noted.unmarked.symm.trans marked) nofun
  | told | dismissed =>
    rcases standing with same | ⟨_, same⟩ <;> cases same
    exact Or.inl ⟨⟨_, Or.inr ⟨_, rfl⟩, marked⟩, id⟩
  | @ended _ before _ _ worker run response outcome notes between acts running passage went =>
    rcases standing with same | ⟨_, same⟩ <;> cases same
    cases fits with
    | handled _ bare _ carries =>
      cases outcome with
      | error failure =>
        have noted := bare.noteAll (passage.failed.2.harmless carries.text)
        exact absurd (noted.unmarked.symm.trans marked) nofun
      | ok value =>
        cases passage with
        | @repointed prepared entry key store phase keyed done =>
          obtain ⟨prompt, asked, found⟩ := carries.keyed (by simp [phase]) (by simp [phase])
          cases keyed.symm.trans found
          refine Or.inr ⟨worker, response, before, run, prepared, entry, prompt, acts, running,
            phase, rfl, asked, rfl, done.trans ?_⟩
          rw [went]
          exact congrArg Except.ok (store_conclude { desk with store } _ _ _ _).symm
        | @stored query _ _ _ phase named done =>
          have noted := bare.noteAll (harmless_summary ((run.logged desk.now .cache
            ("Cached result for SQL " ++ Run.shortHash query.hash)).log.summary desk.now))
          exact absurd (noted.unmarked.symm.trans marked) nofun

/-- Whatever occurs, the question of a duplicate is not pointed at, unless the run of its job has
pointed the prompt at another question too early. -/
theorem Pointed.follow {early later : Prop} (pointed : Pointed questionId early desk matter)
    (keeps : desk.Keeps questionId matter) (proper : matter.Proper desk.named questionId)
    (development : Development desk occurrence questionId matter after) (grows : early → later)
    (now : desk.PointsEarly occurrence matter → later) :
    Pointed questionId later (desk.occur occurrence) after := by
  -- Only its own prompt points at a question that has no answer.
  have own : ∀ fingerprint, (desk.occur occurrence).Points fingerprint questionId →
      matter.standing.IsAnswered ∨ ∃ job prompt, matter.standing.job? = some job ∧
        job.payload = payload questionId prompt ∧ fingerprint = promptFingerprint prompt := by
    intro fingerprint points
    rcases keeps.points_occur points with
      before | ⟨number, prompt, source, ticket, visit, here⟩ | is
    · exact pointed.own fingerprint before
    · obtain ⟨job, stands, _, payload⟩ := (proper.attended number _ visit).of_remembering
      exact Or.inr ⟨job, prompt, stands, payload, here⟩
    · exact Or.inl is
  refine ⟨fun fingerprint points => ?_, fun duplicate => ?_⟩
  · rcases own fingerprint points with answered | ⟨job, prompt, stands, payload, here⟩
    · exact Or.inl (development.answered answered)
    · obtain ⟨further, found, same⟩ := development.payload stands
      exact Or.inr ⟨further, prompt, found, same.trans payload, here⟩
  · rcases development.duplicates proper duplicate with ⟨before, remembers⟩ |
      ⟨worker, response, job, run, prepared, entry, mine, acts, running, phase, standing, asks,
        visit, put⟩
    · rcases pointed.gone before with early | ⟨nowhere, settled⟩
      · exact Or.inl (grows early)
      · refine Or.inr ⟨fun fingerprint points => ?_, fun again => settled (remembers again)⟩
        rcases keeps.points_occur points with
          earlier | ⟨number, prompt, source, ticket, found, _⟩ | is
        · exact nowhere fingerprint earlier
        · exact settled ⟨number, prompt, source, ticket, found⟩
        · exact before.not_answered is
    · by_cases remembering : Remembering matter
      · exact Or.inl (now ⟨worker, response, job, run, prepared, entry, acts, running, phase,
          standing, remembering⟩)
      · refine Or.inr ⟨fun fingerprint points => ?_, fun again => remembering ?_⟩
        · have unanswered : ¬matter.standing.IsAnswered := by
            rw [standing]
            exact id
          rcases points.of_put put with ⟨_, named⟩ | ⟨elsewhere, _⟩
          · exact unanswered (keeps.cited
              (Or.inr ⟨_, run, prepared, entry, running, Or.inr phase, named⟩))
          · rcases own fingerprint points with answered | ⟨other, prompt, stands, asked, here⟩
            · exact unanswered answered
            · rw [standing] at stands
              cases stands
              rw [asked] at asks
              cases asks
              exact elsewhere here
        · obtain ⟨number, prompt, source, ticket, found⟩ := again
          exact ⟨number, prompt, source, ticket, visit ▸ found⟩

end Duplicates

/-- In any course, the question of a duplicate is not pointed at, unless the run of its job has
pointed the prompt at another question too early. -/
theorem Story.pointed {settings : Settings} {desk : Desk} (started : start settings = .ok desk)
    {occurrences : Nat → Occurrence} {questionId : String} {matters : Nat → Matter}
    (story : desk.Story occurrences questionId matters) (count : Nat) :
    Pointed questionId (∃ pointed < count,
      (desk.course occurrences pointed).PointsEarly (occurrences pointed) (matters pointed))
        (desk.course occurrences count) (matters count) := by
  induction count with
  | zero =>
    obtain ⟨staffed, _, rfl⟩ := start_eq started
    rw [story.first]
    refine ⟨fun fingerprint points => ?_, fun duplicate => ?_⟩
    · obtain ⟨_, _, found, _⟩ := points
      cases found
    · obtain ⟨_, standing | ⟨_, standing⟩, _⟩ := duplicate <;> cases standing
  | succ count ih =>
    refine ih.follow (story.keeps count) (story.proper count) (story.develops count) ?_ ?_
    · rintro ⟨pointed, below, early⟩
      exact ⟨pointed, Nat.lt_succ_of_lt below, early⟩
    · exact fun early => ⟨count, Nat.lt_succ_self count, early⟩

end QuestionDesk.Desk
