import QuestionDesk.Proofs.Desk.Pointing
import QuestionDesk.Proofs.Desk.Requests
import QuestionDesk.Proofs.Text.Trimming
import QuestionDesk.Web.Page

/-!
# Keys of prompts

A request is known under one key. The client's text is trimmed before anybody looks at it, the visit
remembers what its prompt became, and the run of a duplicate points the prompt that it has read from
its job at another question. All three are done under the key of what the client said.
-/
namespace QuestionDesk.Desk

open Jobs (Job)
open Pipeline (Run Runner)

/-! ## The prompt of a question -/

/-- Payloads tell prompts apart. -/
theorem payload_inj {questionId prompt other : String}
    (same : payload questionId prompt = payload questionId other) : prompt = other := by
  unfold payload at same
  injection same with _ rest
  injection rest with entry _
  injection entry with _ text
  injection text

/-- All that there is about a question is about one prompt. -/
structure Matter.Poses (questionId prompt : String) (matter : Matter) : Prop where
  /-- The visit that is busy with it has the prompt. -/
  visit : ∀ number visit, matter.visit = some (number, visit) → visit.prompt = prompt
  /-- So does its job. -/
  job : ∀ job, matter.standing.job? = some job → job.payload = payload questionId prompt

section Matters

variable {desk : Desk} {occurrence : Occurrence} {questionId prompt : String}
  {matter after : Matter} {named : Nat} {job : Job}

/-- A question that a visit is busy with is about the prompt of the visit. -/
theorem Matter.Proper.poses_of_visit (proper : matter.Proper named questionId) {number : Nat}
    {visit : Visit} (busy : matter.visit = some (number, visit)) :
    matter.Poses questionId visit.prompt := by
  refine ⟨fun other rival found => ?_, fun job stands => ?_⟩
  · cases busy.symm.trans found
    rfl
  · cases proper.attended number visit busy with
    | creating standing =>
      rw [standing] at stands
      cases stands
    | recording mine payload | remembering mine payload =>
      cases mine.symm.trans stands
      exact payload

/-- A question that has a job is about the prompt of the job. -/
theorem Matter.Proper.poses_of_job (proper : matter.Proper named questionId)
    (stands : matter.standing.job? = some job) (asks : job.payload = payload questionId prompt) :
    matter.Poses questionId prompt := by
  refine ⟨fun number visit busy => ?_, fun other mine => ?_⟩
  · exact payload_inj (((proper.poses_of_visit busy).job job stands).symm.trans asks)
  · cases stands.symm.trans mine
    exact asks

/-- A question that has a key stays about its prompt. -/
theorem Development.poses (development : Development desk occurrence questionId matter after)
    (keyed : ∃ number ≤ desk.named, questionId = questionKey number)
    (poses : matter.Poses questionId prompt) : after.Poses questionId prompt := by
  refine ⟨fun number visit busy => ?_, fun job stands => ?_⟩
  · cases development with
    | begun key =>
      obtain ⟨number, below, own⟩ := keyed
      have := questionKey_inj (own.symm.trans key)
      omega
    | posed | recorded =>
      cases busy
      have same := poses.visit _ _ rfl
      exact same
    | unposed | unrecorded | remembered => cases busy
    | rests | counted | taken | wentOn | ended | cutOff | told | dismissed =>
      exact poses.visit number visit busy
  · cases before : matter.standing.job? with
    | some earlier =>
      obtain ⟨later, found, same⟩ := development.payload before
      cases stands.symm.trans found
      exact same.trans (poses.job earlier before)
    | none =>
      cases development with
      | posed _ asks =>
        cases stands
        rw [asks, ← poses.visit _ _ rfl]
      | begun | unposed => cases stands
      | rests | counted | recorded | unrecorded | remembered => cases before.symm.trans stands
      | taken | wentOn | ended | cutOff | told | dismissed => cases before

end Matters

section Stories

variable {desk : Desk} {occurrences : Nat → Occurrence} {questionId prompt : String}
  {matters : Nat → Matter} {count later : Nat}

/-- There is a key for a question about which there was anything. -/
theorem Story.keyed (story : desk.Story occurrences questionId matters) (order : count ≤ later)
    (there : matters count ≠ {}) :
    ∃ number ≤ (desk.course occurrences later).named, questionId = questionKey number := by
  obtain ⟨number, below, own⟩ := (story.proper count).keyed there
  refine ⟨number, Nat.le_trans below ?_, own⟩
  exact Nat.le_induction (Nat.le_refl _)
    (fun moment _ ih => Nat.le_trans ih (named_occur _ (occurrences moment))) later order

/-- A question stays about its prompt. -/
theorem Story.poses (story : desk.Story occurrences questionId matters) (order : count ≤ later)
    (there : matters count ≠ {}) (poses : (matters count).Poses questionId prompt) :
    (matters later).Poses questionId prompt := by
  induction order with
  | refl => exact poses
  | @step later order ih => exact (story.develops later).poses (story.keyed order there) ih

/-- A visit that was busy with a question has the prompt of its job, whichever was first. -/
theorem Story.one_prompt (story : desk.Story occurrences questionId matters) {number : Nat}
    {visit : Visit} {job : Job} (busy : (matters count).visit = some (number, visit))
    (stands : (matters later).standing.job? = some job) :
    job.payload = payload questionId visit.prompt := by
  rcases Nat.le_total count later with order | order
  · have there : matters count ≠ {} := by
      intro empty
      rw [empty] at busy
      cases busy
    exact (story.poses order there ((story.proper count).poses_of_visit busy)).job job stands
  · have there : matters later ≠ {} := by
      intro empty
      rw [empty] at stands
      cases stands
    obtain ⟨prompt, asks⟩ := ((story.proper later).known job stands).payload
    have poses := story.poses order there ((story.proper later).poses_of_job stands asks)
    rw [asks, poses.visit number visit busy]

end Stories

/-! ## Requests -/

/-- At some moment of a course a visit is busy with a question. -/
def Brings (desk : Desk) (occurrences : Nat → Occurrence) (number : Nat) (questionId : String) :
    Prop :=
  ∃ count visit, (desk.course occurrences count).visits[number]? = some visit ∧
    visit.phase.own? = some questionId

/-- At a moment of a course the store stays as it is, or is written what a prompt became under a
key. -/
def WritesUnder (desk : Desk) (occurrences : Nat → Occurrence) (count : Nat) (key : String) :
    Prop :=
  (∀ other, (desk.course occurrences (count + 1)).store.prompt? other =
      (desk.course occurrences count).store.prompt? other) ∨
    ∃ entry, (desk.course occurrences count).store.putPrompt (desk.course occurrences count).now
      (desk.course occurrences count).keepSeconds key entry =
        .ok (desk.course occurrences (count + 1)).store

/-- A visit is known under the key of what a client said, and so is the job of its question. -/
structure KnownBy (desk : Desk) (occurrences : Nat → Occurrence) (number : Nat) (said : String) :
    Prop where
  /-- The prompt of the visit has the key. -/
  visit : ∀ count visit, (desk.course occurrences count).visits[number]? = some visit →
    promptFingerprint visit.prompt = promptFingerprint said
  /-- The visit remembers under it what its prompt became. -/
  remembers : ∀ count, occurrences count = .act (.visit number) →
    desk.WritesUnder occurrences count (promptFingerprint said)
  /-- The job of a question that the visit brought is about a prompt with the key. -/
  job : ∀ count questionId seq job, desk.Brings occurrences number questionId →
    (desk.course occurrences count).board.job? questionJobType seq = some job →
      job.fingerprint = questionId → ∃ prompt, job.payload = payload questionId prompt ∧
        promptFingerprint prompt = promptFingerprint said
  /-- The run of the job points the prompt at another question under it. -/
  repoints : ∀ count questionId worker run job response,
    desk.Brings occurrences number questionId →
      (desk.course occurrences count).board.Does worker questionJobType (.handling job.seq run) →
        (desk.course occurrences count).board.job? questionJobType job.seq = some job →
          job.fingerprint = questionId →
            occurrences count = .act (.work (.worker worker) response) →
              desk.WritesUnder occurrences count (promptFingerprint said)

/-- What was said counts only by its key. -/
theorem KnownBy.congr {desk : Desk} {occurrences : Nat → Occurrence} {number : Nat}
    {prompt said : String} (known : desk.KnownBy occurrences number prompt)
    (key : promptFingerprint prompt = promptFingerprint said) :
    desk.KnownBy occurrences number said := by
  obtain ⟨visit, remembers, job, repoints⟩ := known
  rw [key] at visit remembers job repoints
  exact ⟨visit, remembers, job, repoints⟩

section Course

variable {settings : Settings} {desk : Desk} {occurrences : Nat → Occurrence}
  {number count later : Nat} {visit : Visit}

/-- A visit keeps its prompt. -/
theorem visit_stays (found : (desk.course occurrences count).visits[number]? = some visit)
    (order : count ≤ later) :
    ∃ phase, (desk.course occurrences later).visits[number]? = some { visit with phase } := by
  induction order with
  | refl => exact ⟨visit.phase, found⟩
  | @step later order ih =>
    obtain ⟨_, there⟩ := ih
    obtain ⟨phase, now⟩ := (visiting_occur _ (occurrences later)).after there
    exact ⟨phase, now⟩

/-- Whoever comes is the visit with the next number, and that visit has no other prompt. -/
theorem prompt_of_come {moment : Nat} {prompt : String} {source : Option String}
    (comes : occurrences moment = .act (.come prompt source))
    (found : (desk.course occurrences count).visits[
      (desk.course occurrences moment).visits.length]? = some visit) : visit.prompt = prompt := by
  have came : (desk.course occurrences (moment + 1)).visits[
      (desk.course occurrences moment).visits.length]? = some ⟨prompt, source, .lookingUp⟩ := by
    rw [course, comes]
    exact List.getElem?_concat_length
  rcases Nat.lt_or_ge moment count with after | before
  · obtain ⟨phase, there⟩ := visit_stays came after
    cases found.symm.trans there
    rfl
  · obtain ⟨phase, there⟩ := visit_stays found before
    rw [List.getElem?_eq_none (Nat.le_refl _)] at there
    cases there

/-- What a visit writes is what its prompt became. -/
theorem writesUnder_visit (occurs : occurrences count = .act (.visit number)) {key : String}
    (same : ∀ visit, (desk.course occurrences count).visits[number]? = some visit →
      promptFingerprint visit.prompt = key) : desk.WritesUnder occurrences count key := by
  unfold WritesUnder
  rw [course, occurs, occur, act]
  cases found : (desk.course occurrences count).visits[number]? with
  | none => exact Or.inl fun other => by rw [visit_of_none found]
  | some visit =>
    rw [visit_eq found, ← same visit found]
    rcases (desk.course occurrences count).store_visitStep visit with same | ⟨ticket, _, put⟩
    · exact Or.inl fun other => congrArg (·.prompt? other) same
    · exact Or.inr ⟨_, put⟩

/-- What a run writes is what its prompt became. -/
theorem writesUnder_work {runner : Runner} {response : Remote.Response}
    (occurs : occurrences count = .act (.work runner response)) {key : String}
    (same : ∀ run prepared entry, (desk.course occurrences count).run? runner = some run →
      run.phase = .repointing prepared entry → Pipeline.Run.keyFor run.prompt = .ok key) :
    desk.WritesUnder occurrences count key := by
  unfold WritesUnder
  rw [course, occurs, occur, act]
  refine (prompts_work _ runner response).imp_right ?_
  rintro ⟨run, prepared, entry, written, running, phase, keyed, put⟩
  cases keyed.symm.trans (same run prepared entry running phase)
  exact ⟨_, put⟩

/-- A visit is known by its prompt, and so is the job of its question. -/
theorem knownBy_prompt (started : start settings = .ok desk)
    (service : ∀ moment, (occurrences moment).isService = true) {moment : Nat} {prompt : String}
    {source : Option String} (comes : occurrences moment = .act (.come prompt source)) :
    desk.KnownBy occurrences (desk.course occurrences moment).visits.length prompt := by
  -- The job of a question that the visit brought has the prompt of the visit.
  have asks : ∀ count questionId seq job,
      desk.Brings occurrences (desk.course occurrences moment).visits.length questionId →
        (desk.course occurrences count).board.job? questionJobType seq = some job →
          job.fingerprint = questionId → job.payload = payload questionId prompt := by
    rintro count questionId seq job ⟨earlier, visit, found, busy⟩ here own
    obtain ⟨matters, story⟩ := exists_story started service questionId
    rw [← prompt_of_come comes found]
    exact story.one_prompt (((story.keeps earlier).visits _ visit).mpr ⟨found, busy⟩)
      (story.of_found here own)
  refine ⟨fun count visit found => by rw [prompt_of_come comes found], fun count occurs => ?_,
    fun count questionId seq job brings here own =>
      ⟨prompt, asks count questionId seq job brings here own, rfl⟩,
    fun count questionId worker run job response brings does here own occurs => ?_⟩
  · exact writesUnder_visit occurs fun visit found => by rw [prompt_of_come comes found]
  · refine writesUnder_work occurs fun other prepared entry running phase => ?_
    obtain ⟨handled, handles⟩ := (accounted_course started service count).handles running
    obtain rfl : handled = job := by
      have same := (handles.does.unique does).2
      injection same with number _
      exact Option.some.inj (handles.found.symm.trans (number ▸ here))
    obtain ⟨asked, mine, keyed⟩ :=
      handles.carries.keyed (by rw [phase]; nofun) (by rw [phase]; nofun)
    rw [own, asks count questionId _ _ brings here own] at mine
    rw [payload_inj mine]
    exact keyed

/-- A prompt that a client sends is what it said without blanks around it. -/
theorem prompt_of_read {body : Web.Body} {asked : Web.Asked} {prompt : String}
    (read : body.read = .ok asked) (sent : body.prompt = .ok prompt) :
    prompt = Text.strip (asked.userPrompt.getD "") := by
  rw [Web.Body.prompt, read] at sent
  by_cases empty : Text.strip (asked.userPrompt.getD "") = ""
  · simp [empty, bind, Except.bind, throw, throwThe, MonadExceptOf.throw] at sent
  · simp only [empty, bind, Except.bind, pure, Except.pure, ↓reduceIte] at sent
    split at sent
    · exact (Except.ok.inj sent).symm
    · cases sent

end Course

/-- Every prompt is normalised once for all, and a client that asks over the web is known under the
key of what it said, from the visit on to the run of the job of its question. -/
theorem requests_have_one_key : (∀ prompt, Normalizes prompt) ∧
    ∀ (settings : Settings) (desk : Desk) (occurrences : Nat → Occurrence),
      start settings = .ok desk → (∀ moment, (occurrences moment).isService = true) →
        ∀ (moment : Nat) (body : Web.Body) (asked : Web.Asked) (prompt : String)
          (source : Option String), body.read = .ok asked → body.prompt = .ok prompt →
            occurrences moment = .act (.come prompt source) →
              desk.KnownBy occurrences (desk.course occurrences moment).visits.length
                (asked.userPrompt.getD "") := by
  refine ⟨normalizes, fun settings desk occurrences started service moment body asked prompt source
    read sent comes => ?_⟩
  refine (knownBy_prompt started service comes).congr ?_
  rw [prompt_of_read read sent, promptFingerprint_strip]

/-- The question that the store remembers a prompt to have become. -/
def became? (desk : Desk) (prompt : String) : Option String :=
  ((desk.store.prompt? (promptFingerprint prompt)).bind fun item => item.promptEntry?).map
    (·.questionId)

/-- A client asks over the web what another one has asked in other words. -/
def echo : Web.Body := .document (.object [("user_prompt", .text " WHAT types?\n")])

/-- A client asks over the web, and its question is answered. Then another one asks the same in
other words, and its run points the prompt at the question that was answered. -/
def echoed : List Occurrence :=
  posted ++ posts 1 "WHAT types?" ++ [.act (.take 0)] ++
    served 0 ["", typesPlan, "", "", "", "", ""]

/-- What the second client asked is known under one key, whether the visit or the run writes it. -/
theorem requests_have_one_key_echoed : ∃ desk : Desk, start smallService = .ok desk ∧
    desk.KnownBy (script echoed) 1 " WHAT types?\n" ∧
      [16, 22, 30].map (fun count => (desk.course (script echoed) count).became? "what types?") =
        [none, some "q2", some "q1"] := by
  obtain ⟨desk, started, passes⟩ := @exists_start smallService (fun desk =>
    (desk.course (script echoed) 16).visits.length = 1 &&
      [16, 22, 30].map (fun count => (desk.course (script echoed) count).became? "what types?") =
        [none, some "q2", some "q1"]) (by decide +kernel)
  simp only [Bool.and_eq_true, decide_eq_true_eq] at passes
  obtain ⟨second, written⟩ := passes
  have known := requests_have_one_key.2 smallService desk (script echoed) started
    (isService_script rfl) 16 echo ⟨some " WHAT types?\n"⟩ "WHAT types?" (some "api") rfl rfl rfl
  rw [second] at known
  exact ⟨desk, started, known, written⟩

end QuestionDesk.Desk
