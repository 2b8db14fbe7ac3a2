import QuestionDesk.Jobs.Board

/-!
# Lanes

The jobs of a type and the line in which they wait: how a job is found by its number, what changing
one job or dropping those that have ended does to the others, and which jobs are pending then.
-/
namespace QuestionDesk.Jobs

variable {π ℓ : Type}

/-! ## Statuses -/

/-- A job is pending exactly when no worker has taken it and it has not ended. -/
theorem Job.status_eq_pending {job : Job} :
    job.status = .pending ↔ job.processedOn = none ∧ job.finishedOn = none := by
  unfold Job.status statusOf
  cases job.finishedOn with
  | none => cases job.processedOn <;> simp
  | some ended => by_cases reasonless : job.failedReason.getD "" = "" <;> simp [reasonless]

/-- A job is being processed exactly when a worker has taken it and it has not ended. -/
theorem Job.status_eq_processing {job : Job} :
    job.status = .processing ↔ job.processedOn.isSome ∧ job.finishedOn = none := by
  unfold Job.status statusOf
  cases job.finishedOn with
  | none => cases job.processedOn <;> simp
  | some ended => by_cases reasonless : job.failedReason.getD "" = "" <;> simp [reasonless]

/-- A job that is being processed has not ended. -/
theorem Job.isTerminal_of_processing {job : Job} (processing : job.status = .processing) :
    job.isTerminal = false := by
  simp [Job.isTerminal, (Job.status_eq_processing.mp processing).2]

/-- A pending job has not ended. -/
theorem Job.isTerminal_of_pending {job : Job} (pending : job.status = .pending) :
    job.isTerminal = false := by
  simp [Job.isTerminal, (Job.status_eq_pending.mp pending).2]

/-- Notes change nothing but the notes of a job. -/
theorem Job.noteAll_eq (job : Job) (notes : Fields) :
    job.noteAll notes =
      { job with notes := notes.foldl (fun all field => all.set field.1 field.2) job.notes } := by
  induction notes generalizing job with
  | nil => rfl
  | cons field rest ih =>
    change (job.note field.1 field.2).noteAll rest = _
    rw [ih]
    rfl

/-- Notes leave the status of a job as it is. -/
theorem Job.status_noteAll (job : Job) (notes : Fields) :
    (job.noteAll notes).status = job.status := by
  rw [Job.noteAll_eq]
  rfl

/-! ## Keys -/

/-- Within a type different fingerprints give different keys. -/
theorem jobKey_inj {jobType fingerprint other : String}
    (same : jobKey jobType fingerprint = jobKey jobType other) : fingerprint = other := by
  have chars := congrArg String.toList same
  simp only [jobKey, String.toList_append, List.append_assoc] at chars
  exact String.toList_inj.mp (List.append_cancel_left (List.append_cancel_left chars))

/-! ## Lanes -/

namespace Lane

/-- A job that is found by its number is on the lane and has the number. -/
theorem mem_of_job? {lane : Lane} {seq : Nat} {job : Job} (found : lane.job? seq = some job) :
    job ∈ lane.jobs ∧ job.seq = seq :=
  ⟨List.mem_of_find?_eq_some found, by simpa using List.find?_some found⟩

/-- Where numbers grow along the lane, every job on it is found by its number. -/
theorem job?_of_mem {lane : Lane} {job : Job}
    (ordered : (lane.jobs.map Job.seq).Pairwise (· < ·)) (member : job ∈ lane.jobs) :
    lane.job? job.seq = some job := by
  unfold Lane.job?
  generalize lane.jobs = jobs at ordered member
  induction jobs with
  | nil => cases member
  | cons first rest ih =>
    rw [List.map_cons, List.pairwise_cons] at ordered
    rcases List.mem_cons.mp member with rfl | later
    · simp
    · have below := ordered.1 job.seq (List.mem_map_of_mem later)
      rw [List.find?_cons_of_neg (by simpa using Nat.ne_of_lt below)]
      exact ih ordered.2 later

/-- Jobs of one number on a lane whose numbers grow are one job. -/
theorem eq_of_seq_eq {lane : Lane} {first second : Job}
    (ordered : (lane.jobs.map Job.seq).Pairwise (· < ·)) (left : first ∈ lane.jobs)
    (right : second ∈ lane.jobs) (same : first.seq = second.seq) : first = second := by
  have found := job?_of_mem ordered left
  rw [same, job?_of_mem ordered right] at found
  exact (Option.some.inj found).symm

/-- A change that keeps numbers keeps the numbers of a lane. -/
theorem seqs_update (lane : Lane) (seq : Nat) {change : Job → Job}
    (keeps : ∀ job, job.seq = seq → (change job).seq = seq) :
    (lane.update seq change).jobs.map Job.seq = lane.jobs.map Job.seq := by
  simp only [update, List.map_map]
  apply List.map_congr_left
  intro job _
  by_cases same : job.seq = seq
  · simp [same, keeps job same]
  · simp [same]

/-- A job on a changed lane is the changed job, or another one that is as it was. -/
theorem mem_update {lane : Lane} {seq : Nat} {change : Job → Job} {job : Job} :
    job ∈ (lane.update seq change).jobs ↔
      (∃ old ∈ lane.jobs, old.seq = seq ∧ job = change old) ∨
        (job ∈ lane.jobs ∧ job.seq ≠ seq) := by
  simp only [update, List.mem_map]
  constructor
  · rintro ⟨old, member, rfl⟩
    by_cases same : old.seq = seq
    · exact Or.inl ⟨old, member, same, by simp [same]⟩
    · exact Or.inr ⟨by simpa [same] using member, by simp [same]⟩
  · rintro (⟨old, member, same, rfl⟩ | ⟨member, other⟩)
    · exact ⟨old, member, by simp [same]⟩
    · exact ⟨job, member, by simp [other]⟩

/-- The changed job is found under its number. -/
theorem job?_update_self {lane : Lane} {seq : Nat} {change : Job → Job} {job : Job}
    (keeps : ∀ job, job.seq = seq → (change job).seq = seq) (found : lane.job? seq = some job) :
    (lane.update seq change).job? seq = some (change job) := by
  unfold Lane.job? at found ⊢
  unfold update
  generalize lane.jobs = jobs at found
  induction jobs with
  | nil => cases found
  | cons first rest ih =>
    by_cases same : first.seq = seq
    · obtain rfl : first = job := by simpa [same] using found
      simp [same, keeps _ same]
    · rw [List.find?_cons_of_neg (by simpa using same)] at found
      rw [List.map_cons, if_neg same, List.find?_cons_of_neg (by simpa using same)]
      exact ih found

/-- A change of one job leaves every other job to be found as it was. -/
theorem job?_update_ne {lane : Lane} {seq other : Nat} {change : Job → Job}
    (keeps : ∀ job, job.seq = seq → (change job).seq = seq) (different : other ≠ seq) :
    (lane.update seq change).job? other = lane.job? other := by
  unfold Lane.job? update
  generalize lane.jobs = jobs
  induction jobs with
  | nil => rfl
  | cons first rest ih =>
    rw [List.map_cons]
    by_cases same : first.seq = seq
    · rw [if_pos same, List.find?_cons_of_neg (by simpa [keeps _ same] using different.symm),
        List.find?_cons_of_neg (by simp [same, different.symm])]
      exact ih
    · rw [if_neg same]
      by_cases hit : first.seq = other
      · simp [hit]
      · rw [List.find?_cons_of_neg (by simpa using hit),
          List.find?_cons_of_neg (by simpa using hit)]
        exact ih

/-- Where numbers grow along the lane, changing the job of a number is replacing it. -/
theorem update_eq_replace {lane : Lane} {seq : Nat} {change : Job → Job} {job : Job}
    (ordered : (lane.jobs.map Job.seq).Pairwise (· < ·)) (found : lane.job? seq = some job) :
    lane.update seq change = lane.update seq fun _ => change job := by
  have here := mem_of_job? found
  simp only [update]
  congr 1
  apply List.map_congr_left
  intro other member
  by_cases same : other.seq = seq
  · rw [eq_of_seq_eq ordered member here.1 (same.trans here.2.symm)]
  · simp [same]

/-- A change that keeps the status of the changed jobs keeps which jobs are pending. -/
theorem pending_update (lane : Lane) (seq : Nat) {change : Job → Job}
    (keeps : ∀ job, job.seq = seq → (change job).seq = seq)
    (status : ∀ job ∈ lane.jobs, job.seq = seq →
      ((change job).status = .pending ↔ job.status = .pending)) :
    ((lane.update seq change).jobs.filter (·.status = .pending)).map Job.seq =
      (lane.jobs.filter (·.status = .pending)).map Job.seq := by
  unfold update
  generalize lane.jobs = jobs at status
  induction jobs with
  | nil => rfl
  | cons first rest ih =>
    have later := ih fun job member => status job (List.mem_cons_of_mem _ member)
    have head := status first List.mem_cons_self
    simp only [List.map_cons] at later ⊢
    by_cases same : first.seq = seq
    · by_cases pending : first.status = .pending
      · simp [same, pending, (head same).mpr pending, keeps _ same, later]
      · have changed : (change first).status ≠ .pending := fun now => pending ((head same).mp now)
        simp [same, pending, changed, later]
    · by_cases pending : first.status = .pending
      · simp [same, pending, later]
      · simp [same, pending, later]

/-- A pending job stays when a lane is pruned. -/
theorem stays_of_pending {cutoff : Option Micros} {job : Job} (pending : job.status = .pending) :
    stays cutoff job = true := by
  simp [stays, (Job.status_eq_pending.mp pending).2]

/-- A job that is being processed stays when a lane is pruned. -/
theorem stays_of_processing {cutoff : Option Micros} {job : Job}
    (processing : job.status = .processing) : stays cutoff job = true := by
  simp [stays, (Job.status_eq_processing.mp processing).2]

/-- Pruning keeps which jobs are pending. -/
theorem pending_prune (lane : Lane) (cutoff : Option Micros) :
    (lane.prune cutoff).jobs.filter (·.status = .pending) =
      lane.jobs.filter (·.status = .pending) := by
  simp only [prune, List.filter_filter]
  apply List.filter_congr
  intro job _
  by_cases pending : job.status = .pending
  · simp [pending, stays_of_pending pending]
  · simp [pending]

/-- A job that has not ended is still found after pruning. -/
theorem job?_prune {lane : Lane} {cutoff : Option Micros} {seq : Nat} {job : Job}
    (ordered : (lane.jobs.map Job.seq).Pairwise (· < ·)) (found : lane.job? seq = some job)
    (kept : stays cutoff job = true) : (lane.prune cutoff).job? seq = some job := by
  obtain ⟨member, rfl⟩ := mem_of_job? found
  apply job?_of_mem
  · exact ordered.sublist (List.filter_sublist.map _)
  · exact List.mem_filter.mpr ⟨member, kept⟩

/-- The job of the first pending number is pending, and once it is not, the other pending numbers
are left. -/
theorem pending_replace {lane : Lane} {job : Job} {rest : List Nat}
    (ordered : (lane.jobs.map Job.seq).Pairwise (· < ·)) (member : job ∈ lane.jobs)
    (pending : (lane.jobs.filter (·.status = .pending)).map Job.seq = job.seq :: rest) :
    job.status = .pending ∧ ∀ changed : Job, changed.status ≠ .pending →
      ((lane.update job.seq fun _ => changed).jobs.filter (·.status = .pending)).map Job.seq =
        rest := by
  unfold update
  generalize lane.jobs = jobs at ordered member pending
  induction jobs with
  | nil => cases member
  | cons first others ih =>
    rw [List.map_cons, List.pairwise_cons] at ordered
    have later : ∀ other ∈ others, first.seq < other.seq :=
      fun other here => ordered.1 _ (List.mem_map_of_mem here)
    -- The numbers ascend, so the first pending number is that of the first job that waits.
    by_cases waits : first.status = .pending
    · have parts : first.seq = job.seq ∧
          (others.filter (·.status = .pending)).map Job.seq = rest := by
        simpa [waits] using pending
      have same : first = job := by
        rcases List.mem_cons.mp member with rfl | inside
        · rfl
        · exact absurd parts.1 (Nat.ne_of_lt (later job inside))
      refine ⟨same ▸ waits, fun changed status => ?_⟩
      have untouched : others.map (fun other => if other.seq = job.seq then changed else other) =
          others := by
        rw [List.map_congr_left fun other here =>
          if_neg (Nat.ne_of_gt (parts.1 ▸ later other here)), List.map_id']
      simp [parts.1, untouched, status, parts.2]
    · have tail : (others.filter (·.status = .pending)).map Job.seq = job.seq :: rest := by
        simpa [waits] using pending
      have head : job.seq ∈ (others.filter (·.status = .pending)).map Job.seq := by simp [tail]
      obtain ⟨other, here, number⟩ := List.mem_map.mp head
      have before : first.seq < job.seq := number ▸ later other (List.mem_filter.mp here).1
      have inside : job ∈ others := by
        rcases List.mem_cons.mp member with rfl | inside
        · exact absurd before (Nat.lt_irrefl _)
        · exact inside
      obtain ⟨status, left⟩ := ih ordered.2 inside tail
      refine ⟨status, fun changed ended => ?_⟩
      simpa [Nat.ne_of_lt before, waits] using left changed ended

end Lane

end QuestionDesk.Jobs
