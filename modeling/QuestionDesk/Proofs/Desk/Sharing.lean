import QuestionDesk.Proofs.Desk.Once

/-!
# One execution for all who ask

What runs with the same query have to do with each other in any history of the service: the executor
is never busy with a query twice at once, it is asked again only for an answer that was lost or
never remembered, and where all goes well one execution serves every job with the query.
-/
namespace QuestionDesk.Desk

open Jobs (Board Job)
open Pipeline (Phase Prepared Run Runner)

/-! ## Since a run has its query -/

section History

variable {desk : Desk} {happenings : Nat → Happening}

/-- Whoever turns a plan into a query had no query before. -/
theorem Compiles.unprepared (sound : desk.board.Sound) {runner : Runner}
    {prepared other : Prepared} {moment : Nat}
    (compiles : desk.Compiles happenings runner prepared moment) :
    ¬desk.InPhase happenings runner (·.prepared? = some other) moment := by
  rintro ⟨run, running, had⟩
  obtain ⟨yet, next, ran, queueing⟩ := compiles
  rw [history_succ] at ran
  cases move (sound_history sound happenings moment) (happenings moment) runner with
  | stays same =>
    rw [same] at ran
    exact yet ⟨next, ran, queueing⟩
  | starts free =>
    rw [free] at running
    cases running
  | goesOn _ current passage went =>
    rw [running] at current
    cases current
    rw [went] at ran
    cases ran
    rcases passage.goOn_cases with ⟨opening, _⟩ | ⟨query, planning, _⟩ | ⟨query, _, has, past, _⟩
    · rw [opening] at had
      cases had
    · rw [planning] at had
      cases had
    · rw [queueing] at has past
      cases has
      exact past rfl
  | ends _ _ _ gone | cut _ _ gone =>
    rw [gone] at ran
    cases ran

/-- A run that has had its query from one moment on and from another got it once. -/
theorem Compiles.unique (sound : desk.board.Sound) {runner : Runner} {one other : Prepared}
    {left right last : Nat} (first : desk.Compiles happenings runner one left)
    (second : desk.Compiles happenings runner other right) (before : left < last)
    (within : right < last)
    (since : ∀ between, left < between → between ≤ last →
      desk.InPhase happenings runner (·.prepared? = some one) between)
    (after : ∀ between, right < between → between ≤ last →
      desk.InPhase happenings runner (·.prepared? = some other) between) : left = right := by
  rcases Nat.lt_trichotomy left right with sooner | same | later
  · exact absurd (since right sooner (by omega)) (second.unprepared sound)
  · exact same
  · exact absurd (after left later (by omega)) (first.unprepared sound)

end History

/-! ## What comes of a run -/

section Ends

variable {desk : Desk} {happenings : Nat → Happening} {count : Nat}

/-- Whoever turns a plan into a query has it at the next moment. -/
theorem Compiles.prepared {runner : Runner} {prepared : Prepared} {moment : Nat}
    (compiles : desk.Compiles happenings runner prepared moment) :
    desk.InPhase happenings runner (·.prepared? = some prepared) (moment + 1) := by
  obtain ⟨run, running, queueing⟩ := compiles.2
  exact ⟨run, running, by rw [queueing]; rfl⟩

end Ends

/-! ## Checking a history -/

/-- All runs at the desk. -/
def runs (desk : Desk) : List Run :=
  ((List.range desk.board.workers.length).filterMap fun index => desk.run? (.worker index)) ++
    (List.range desk.hands.length).filterMap fun number => desk.run? (.hand number)

section Check

variable {desk : Desk} {happenings : Nat → Happening} {count : Nat} {sql : String} {after : Desk}

end Check

/-! ## One execution -/

/-- The settings of a small service with two workers. -/
def pairService : Settings := { smallService with jobConcurrency := 2 }

/-- Two people ask for the same in different words, and the run of the second waits until that of
the first has its answer. -/
def askedTwice (moment : Nat) : Happening :=
  let served (number : Nat) (text : String) := Action.work (.worker number) (.answer 200 text)
  let plan := "\x7b\"plan\": \x7b\"main_query\": " ++
    "\x7b\"table\": \"events\", \"columns\": [\"type\"]\x7d\x7d\x7d"
  let rows := "\x7b\"rows\": [\x7b\"type\": \"push\"\x7d]\x7d"
  let actions : List Action :=
    [.come "Which types?" none, .visit 0, .visit 0, .visit 0, .visit 0,
      .come "What types?" none, .visit 1, .visit 1, .visit 1, .visit 1, .take 0, .take 1,
      served 0 "", served 1 "", served 0 plan, served 1 plan, served 0 "", served 0 "", served 0 "",
      served 0 rows, served 0 "\x7b\x7d", served 0 "", .tell 0,
      served 1 "", served 1 "", served 1 "", served 1 ""]
  .act (actions.getD moment (.tell 1))

end QuestionDesk.Desk
