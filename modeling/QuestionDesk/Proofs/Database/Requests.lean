import QuestionDesk.Proofs.Database.Ledger

/-!
# Requests that are stored

A request is stored when somebody asked a question that is there, and is taken away with its
question. No other call adds or takes away a request or a question.
-/
namespace QuestionDesk.Database

namespace Tables

/-- Tables with the same requests as others, and questions under the same keys. -/
structure Alike (tables after : Tables) : Prop where
  /-- The requests are the same. -/
  requests : after.requests = tables.requests
  /-- The same questions are there. -/
  questions : ∀ id, after.hasQuestion id = tables.hasQuestion id

/-- Tables are like themselves. -/
theorem Alike.refl (tables : Tables) : tables.Alike tables := ⟨rfl, fun _ => rfl⟩

variable {tables : Tables}

/-- The same questions are there after each was changed in something other than its key. -/
theorem hasQuestion_map {change : Question → Question} (keyed : ∀ question ∈ tables.questions,
    (change question).id = question.id) (id : String) :
    ({ tables with questions := tables.questions.map change } : Tables).hasQuestion id =
      tables.hasQuestion id := by
  simp only [hasQuestion, List.any_map]
  rw [Bool.eq_iff_iff, List.any_eq_true, List.any_eq_true]
  refine exists_congr fun question => and_congr_right fun member => ?_
  rw [Function.comp_apply, keyed question member]

/-- Which questions are there without one of them. -/
theorem hasQuestion_without (removed id : String) :
    (tables.withoutQuestion removed).hasQuestion id =
      (tables.hasQuestion id && id != removed) := by
  simp only [hasQuestion, withoutQuestion, List.any_filter]
  rw [Bool.eq_iff_iff, Bool.and_eq_true, List.any_eq_true, List.any_eq_true]
  constructor
  · rintro ⟨question, member, same⟩
    simp only [ne_eq, decide_not, Bool.and_eq_true, Bool.not_eq_true', decide_eq_false_iff_not,
      decide_eq_true_eq] at same
    obtain ⟨other, rfl⟩ := same
    exact ⟨⟨question, member, by simp⟩, by simpa using other⟩
  · rintro ⟨⟨question, member, same⟩, other⟩
    obtain rfl : question.id = id := by simpa using same
    exact ⟨question, member, by simpa using other⟩

end Tables

section Calls

variable (database : Database)

/-- Storing what is known about a job has nothing to do with requests. -/
theorem alike_createRecord (now : Micros) (questionId jobId status failedReason : Option String) :
    database.tables.Alike
      (database.createRecord now questionId jobId status failedReason).2.tables := by
  rcases (createRecord_ended database now questionId jobId status failedReason).cases with
    ⟨_, failed⟩ | ⟨_, _, ⟨_, _, _, _, _, _, _, rfl⟩, after⟩
  · rw [failed]
    exact .refl _
  · rw [after]
    exact ⟨rfl, fun _ => rfl⟩

/-- Changing what is known about a job has nothing to do with requests. -/
theorem alike_updateRecord (jobId : String) (changes : List RecordChange) :
    database.tables.Alike (database.updateRecord jobId changes).2.tables := by
  rcases (updateRecord_ended database jobId changes).cases with
    ⟨_, failed⟩ | ⟨_, _, ⟨_, _, rfl⟩ | ⟨_, _, _, _, _, rfl⟩, after⟩
  · rw [failed]
    exact .refl _
  all_goals
    rw [after]
    exact ⟨rfl, fun _ => rfl⟩

/-- Marking a job as completed has nothing to do with requests. -/
theorem alike_completeJob (jobId : String) (returned : Value) :
    database.tables.Alike (database.completeJob jobId returned).2.tables := by
  rcases (completeJob_ended database jobId returned).cases with
    ⟨_, failed⟩ | ⟨answer, _, ⟨_, _, _, _, rfl⟩, after⟩
  · rw [failed]
    exact .refl _
  · rw [after, Tables.storing]
    split
    · exact ⟨rfl, fun _ => rfl⟩
    · split <;> exact ⟨rfl, fun _ => rfl⟩

/-- Storing a query with a question has nothing to do with requests. -/
theorem alike_updateQuestion (id : String) (prepared : Pipeline.Prepared) : database.tables.Alike
    (database.updateQuestion id (Desk.savedChanges prepared)).2.tables := by
  rcases (updateQuestion_ended database id (Desk.savedChanges prepared)).cases with
    ⟨_, failed⟩ | ⟨changed, _, ⟨question, _, applied, rfl⟩, after⟩
  · rw [failed]
    exact .refl _
  · rw [after]
    have keyed : ∀ change ∈ (Desk.savedChanges prepared).filter (·.changes question), ∀ key,
        change ≠ .id key := by
      intro change member key own
      rw [own] at member
      simp [Desk.savedChanges] at member
    obtain ⟨same, _⟩ := wording_of_changes keyed applied
    refine ⟨rfl, Tables.hasQuestion_map fun other _ => ?_⟩
    split
    · next own => rw [same, own]
    · rfl

/-- Making questions suggested ones has nothing to do with requests. -/
theorem alike_promote (now : Micros) (threshold windowHours : Int) :
    database.tables.Alike (database.promote now threshold windowHours).2.tables := by
  unfold promote
  split
  · next since within =>
    rcases (promoteSince_ended database since threshold).cases with ⟨_, failed⟩ | ⟨_, _, rfl, after⟩
    · rw [failed]
      exact .refl _
    · rw [after]
      refine ⟨rfl, Tables.hasQuestion_map fun question _ => ?_⟩
      split <;> rfl
  · exact .refl _

/-- Removing a question leaves the tables as they are, or without the question. -/
theorem deleteQuestion_cases (id : String) :
    (database.deleteQuestion id).2.tables = database.tables ∨
      (database.deleteQuestion id).2.tables = database.tables.withoutQuestion id := by
  rcases (deleteQuestion_ended database id).cases with ⟨_, failed⟩ | ⟨_, _, rfl, after⟩
  · rw [failed]
    exact Or.inl rfl
  · rw [after]
    split
    · exact Or.inr rfl
    · exact Or.inl rfl

end Calls

section Calm

variable (tables : Tables) (id : String)

/-- A question is removed where nothing fails. -/
theorem deleteQuestion_calm : deleteQuestion ⟨tables, []⟩ id =
    (.ok (), ⟨if tables.hasQuestion id then tables.withoutQuestion id else tables, []⟩) := by
  have sent (condition : Bool) (table : Table) :
      sendIf ⟨tables, []⟩ condition .delete table = .ok () := by
    cases condition <;> rfl
  have removal : questionRemoval ⟨tables, []⟩ id = .ok (tables.withoutQuestion id) := by
    simp only [questionRemoval, sent]
    rfl
  unfold deleteQuestion
  simp only [removal]
  cases tables.hasQuestion id <;> rfl

/-- A question that was removed where nothing fails is not there. -/
theorem hasQuestion_deleteQuestion :
    (deleteQuestion ⟨tables, []⟩ id).2.tables.hasQuestion id = false := by
  rw [deleteQuestion_calm]
  cases there : tables.hasQuestion id with
  | true => simp [Tables.hasQuestion_without]
  | false => exact there

/-- That a question was asked is stored where nothing fails, if the question is there. -/
theorem logRequest_calm (now : Micros) (source : Option String) :
    (logRequest ⟨tables, []⟩ now (some id) source).2.tables =
      if tables.hasQuestion id then
        { tables with requests := tables.requests ++ [⟨id, source, now⟩] }
      else tables := by
  simp only [logRequest, required, bind, Except.bind]
  cases tables.hasQuestion id <;> rfl

end Calm

end QuestionDesk.Database
