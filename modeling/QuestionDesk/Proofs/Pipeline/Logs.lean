import QuestionDesk.Pipeline.Run

/-!
# Logs of runs that have ended

While a run goes on its log only grows, by entries that report no error. When the run ends with a
failure, one entry more tells of it. So the summary of the log names the stages that the run has
come through and then the one that failed, and repeats the entry of that one only.
-/
namespace QuestionDesk.Pipeline

namespace Log

/-- A log has grown: behind its entries there are ordinary ones of some stages. -/
structure Grows (log next : Log) (stages : List Stage) : Prop where
  /-- It is the log of the same job. -/
  sameJob : next.jobId = log.jobId
  /-- No entry is gone, and none that came reports an error. -/
  behind : ∃ more, next.entries = log.entries ++ more ∧ more.map Entry.stage = stages ∧
    ∀ entry ∈ more, entry.level ≠ errorLevel

/-- A log that stays as it is. -/
theorem Grows.refl (log : Log) : log.Grows log [] := ⟨rfl, [], by simp, rfl, nofun⟩

/-- A log grows by an entry that reports no error. -/
theorem grows_add (log : Log) (now : Micros) (stage : Stage) (message : String) {level : String}
    (mild : level ≠ errorLevel) : log.Grows (log.add now stage message level) [stage] := by
  refine ⟨rfl, [_], rfl, rfl, fun entry among => ?_⟩
  rw [List.mem_singleton.mp among]
  exact mild

/-- A log that has grown twice has grown by the entries of both. -/
theorem Grows.trans {log between next : Log} {stages more : List Stage}
    (first : log.Grows between stages) (second : between.Grows next more) :
    log.Grows next (stages ++ more) := by
  obtain ⟨earlier, entries, rfl, mild⟩ := first.behind
  obtain ⟨later, others, rfl, gentle⟩ := second.behind
  refine ⟨second.sameJob.trans first.sameJob, earlier ++ later, ?_, List.map_append, ?_⟩
  · rw [others, entries, List.append_assoc]
  · exact fun entry among => (List.mem_append.mp among).elim (mild entry) (gentle entry)

/-- A log that has grown tells of no error that it did not tell of before. -/
theorem Grows.errors {log next : Log} {stages : List Stage} (grows : log.Grows next stages) :
    next.errors = log.errors := by
  obtain ⟨more, entries, -, mild⟩ := grows.behind
  have none : more.filter (·.level = errorLevel) = [] :=
    List.filter_eq_nil_iff.mpr fun entry among => by simpa using mild entry among
  rw [Log.errors, entries, List.filter_append, none, List.append_nil, Log.errors]

/-- How the log of a run is closed when the run ends. -/
inductive Closes (log : Log) : Log → Option Stage → Except Failure Value → Prop where
  /-- The run has returned a value. -/
  | returned (value : Value) : Closes log log none (.ok value)
  /-- The run was cancelled. -/
  | cancelled (fault : Option Stage) : Closes log log fault (.error .cancelled)
  /-- A stage has failed. -/
  | failed (now : Micros) (stage : Stage) {failure : Failure} (alive : failure ≠ .cancelled) :
    Closes log (log.add now stage ("Failed: " ++ failure.message) errorLevel) (some stage)
      (.error failure)

/-- The summary of a log names its job and the stages of all entries in order, and repeats the
entries that report errors. -/
theorem exists_summary (log : Log) (now : Micros) : ∃ summary : Fields,
    log.summary now = .object summary ∧ summary.get? "job_id" = some (.text log.jobId) ∧
      summary.get? "steps" =
        some (.list ((log.entries.map Entry.stage).map fun stage => .text stage.word)) ∧
      summary.get? "errors" = some (.list (log.errors.map Entry.document)) := by
  refine ⟨_, rfl, rfl, ?_, rfl⟩
  rw [List.map_map]
  rfl

end Log

/-- The stage of whose failure is told: none when the run returned or was cancelled. -/
def toldStage (fault : Option Stage) : Except Failure Value → List Stage
  | .ok _ | .error .cancelled => []
  | .error _ => fault.toList

/-- What the summary of a run says that has ended, when its calls have come through some stages and
it has failed at one or at none. -/
structure Summarises (jobId : String) (stages : List Stage) (fault : Option Stage)
    (outcome : Except Failure Value) (summary : Fields) : Prop where
  /-- It names the job. -/
  job : summary.get? "job_id" = some (.text jobId)
  /-- It names the stages that the calls have come through, and behind them the one that failed. -/
  steps : summary.get? "steps" =
    some (.list ((stages ++ toldStage fault outcome).map fun stage => .text stage.word))
  /-- It tells of no error exactly when the run returned or was cancelled. -/
  silent : summary.get? "errors" = some (.list []) ↔
    ∀ failure, outcome = .error failure → failure = .cancelled
  /-- It tells of one error otherwise, which names the stage and the failure. -/
  told : ∀ failure, outcome = .error failure → failure ≠ .cancelled →
    ∃ (stage : Stage) (entry : Fields), fault = some stage ∧
      summary.get? "errors" = some (.list [.object entry]) ∧
      entry.get? "step" = some (.text stage.word) ∧
      entry.get? "message" = some (.text ("Failed: " ++ failure.message)) ∧
      entry.get? "level" = some (.text errorLevel)

/-- The summary of a log that was empty, has grown and was closed. -/
theorem Log.Closes.summarises {log last final : Log} {stages : List Stage} {fault : Option Stage}
    {outcome : Except Failure Value} (closes : last.Closes final fault outcome)
    (fresh : log.entries = []) (grows : log.Grows last stages) (now : Micros) :
    ∃ summary, final.summary now = .object summary ∧
      Summarises log.jobId stages fault outcome summary := by
  obtain ⟨more, entries, rfl, -⟩ := grows.behind
  have passed : last.entries = more := by rw [entries, fresh, List.nil_append]
  have clean : last.errors = [] := by rw [grows.errors, Log.errors, fresh, List.filter_nil]
  obtain ⟨summary, document, job, steps, errors⟩ := final.exists_summary now
  refine ⟨summary, document, ?_⟩
  cases closes with
  | returned value =>
    rw [passed] at steps
    rw [clean] at errors
    exact ⟨by rw [job, grows.sameJob], by rw [steps, toldStage, List.append_nil],
      ⟨nofun, fun _ => errors⟩, nofun⟩
  | cancelled fault =>
    rw [passed] at steps
    rw [clean] at errors
    refine ⟨by rw [job, grows.sameJob], by rw [steps, toldStage, List.append_nil],
      ⟨fun _ _ same => (Except.error.inj same).symm, fun _ => errors⟩, ?_⟩
    exact fun failure same alive => absurd (Except.error.inj same).symm alive
  | @failed moment stage failure alive =>
    have told : toldStage (some stage) (.error failure) = [stage] := by
      unfold toldStage
      split
      · contradiction
      · next same => exact absurd (Except.error.inj same) alive
      · rfl
    have one : (last.add moment stage ("Failed: " ++ failure.message) errorLevel).errors =
        [⟨moment, stage, "Failed: " ++ failure.message, errorLevel, moment - last.started⟩] := by
      rw [Log.errors] at clean
      simp [Log.errors, Log.add, clean]
    rw [one] at errors
    refine ⟨by rw [job]; exact congrArg _ (congrArg _ grows.sameJob), ?_, ⟨?_, ?_⟩, ?_⟩
    · rw [steps, Log.add, List.map_append, passed, told]
      rfl
    · intro none
      rw [errors] at none
      simp at none
    · exact fun well => absurd (well failure rfl) alive
    · rintro other ⟨⟩ _
      exact ⟨stage, _, rfl, errors, rfl, rfl, rfl⟩

end QuestionDesk.Pipeline
