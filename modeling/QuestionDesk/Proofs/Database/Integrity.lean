import Mathlib.Data.List.Nodup
import QuestionDesk.Proofs.Database.Effects
import QuestionDesk.Proofs.Database.Refusals

/-!
# Integrity of the tables

Whatever calls the database gets and whatever fails, each row of the tables of records, answers and
requests refers to a question that is there, no two jobs have one key and no question has two
answers. A call that fails has changed nothing, except where it has stored something that it could
not read back.
-/
namespace QuestionDesk.Database

/-- Tables in which keys are unique and every row refers to a question that is there. -/
structure Tables.Sound (tables : Tables) : Prop where
  /-- No two questions have one key. -/
  questions : (tables.questions.map (·.id)).Nodup
  /-- No two records are about one job. -/
  jobs : (tables.records.map (·.jobId)).Nodup
  /-- No question has two answers. -/
  answers : (tables.answers.map (·.questionId)).Nodup
  /-- The question of a record is there. -/
  recorded {record : JobRecord} :
    record ∈ tables.records → tables.hasQuestion record.questionId = true
  /-- The question of an answer is there. -/
  answered {answer : Answer} :
    answer ∈ tables.answers → tables.hasQuestion answer.questionId = true
  /-- The question of a request is there. -/
  requested {request : Request} :
    request ∈ tables.requests → tables.hasQuestion request.questionId = true

/-! ## Keys -/

section Keys

variable {α : Type} {rows : List α} {key : α → String} {old : String} {row : α}

/-- Keys stay unique where the row of one key is replaced by a row of the same key or of a new
one. -/
theorem nodup_replaced (unique : (rows.map key).Nodup)
    (free : key row = old ∨ key row ∉ rows.map key) :
    ((rows.map fun other => if key other = old then row else other).map key).Nodup := by
  have keys : (rows.map fun other => if key other = old then row else other).map key =
      (rows.map key).map fun name => if name = old then key row else name := by
    rw [List.map_map, List.map_map]
    refine List.map_congr_left fun other _ => ?_
    simp only [Function.comp_apply]
    split <;> rfl
  rw [keys]
  refine unique.map_on fun one member other others same => ?_
  by_cases first : one = old <;> by_cases second : other = old <;>
    simp only [first, second, if_true, if_false] at same
  · rw [first, second]
  · rcases free with kept | new
    · exact absurd (kept ▸ same).symm second
    · exact absurd (same ▸ others) new
  · rcases free with kept | new
    · exact absurd (kept ▸ same) first
    · exact absurd (same ▸ member) new
  · exact same

/-- A row is among those in which the row of one key was replaced when it is the new one or was among
them under another key. -/
theorem mem_replaced {other : α}
    (member : other ∈ rows.map fun each => if key each = old then row else each) :
    other = row ∨ other ∈ rows ∧ key other ≠ old := by
  obtain ⟨each, before, same⟩ := List.mem_map.mp member
  split at same
  · exact Or.inl same.symm
  · next different => exact Or.inr (same ▸ ⟨before, different⟩)

/-- Keys stay unique where a row of a new key is added. -/
theorem nodup_added (unique : (rows.map key).Nodup) (new : key row ∉ rows.map key) :
    ((rows ++ [row]).map key).Nodup := by
  rw [List.map_append, List.map_singleton]
  refine unique.append (List.nodup_singleton _) ?_
  intro name member here
  exact new (List.mem_singleton.mp here ▸ member)

/-- Where keys are unique, the row that is found under a key is the only one. -/
theorem filter_of_unique {name : String} (unique : (rows.map key).Nodup)
    (found : rows.find? (key · = name) = some row) : rows.filter (key · = name) = [row] := by
  induction rows with
  | nil => cases found
  | cons first rest ih =>
    rw [List.map_cons, List.nodup_cons] at unique
    by_cases here : key first = name
    · have none : rest.filter (key · = name) = [] := by
        refine List.filter_eq_nil_iff.mpr fun other member same => unique.1 ?_
        rw [here, ← of_decide_eq_true same]
        exact List.mem_map_of_mem member
      have first_found : some first = some row := by simpa [here] using found
      rw [List.filter_cons, if_pos (decide_eq_true here), none, Option.some.inj first_found]
    · have later : rest.find? (key · = name) = some row := by simpa [here] using found
      rw [List.filter_cons, if_neg (by simpa using here)]
      exact ih unique.2 later

/-- The rows of other keys are left where the row of one key is replaced. -/
theorem filter_replaced_ne (own : key row = old) :
    (rows.map fun other => if key other = old then row else other).filter (key · ≠ old) =
      rows.filter (key · ≠ old) := by
  induction rows with
  | nil => rfl
  | cons first rest ih =>
    by_cases here : key first = old
    · simpa [here, own] using ih
    · simpa [here] using ih

end Keys

namespace Tables

variable {tables : Tables}

/-- A question is there where its key is among the keys of the questions. -/
theorem hasQuestion_iff_mem {id : String} :
    tables.hasQuestion id = true ↔ id ∈ tables.questions.map (·.id) := by
  simp [hasQuestion]

/-- Nothing is known about a job where its key is not among those of the records. -/
theorem hasRecord_eq_false {jobId : String} :
    tables.hasRecord jobId = false ↔ jobId ∉ tables.records.map (·.jobId) := by
  simp [hasRecord]

/-- What is found about a job is about the job. -/
theorem of_record? {jobId : String} {record : JobRecord}
    (found : tables.record? jobId = some record) : record ∈ tables.records ∧ record.jobId = jobId :=
  ⟨List.mem_of_find?_eq_some found, by simpa using List.find?_some found⟩

/-! ## What calls leave -/

namespace Sound

variable (sound : tables.Sound)

include sound

/-- Tables with other questions are sound when no key is taken twice and the questions that rows
refer to are still there. -/
theorem with_questions {questions : List Question} (unique : (questions.map (·.id)).Nodup)
    (kept : ∀ id ∈ tables.questions.map (·.id), tables.hasBelongings id = true →
      id ∈ questions.map (·.id)) :
    Sound { tables with questions } := by
  have still {id : String} (there : tables.hasQuestion id = true)
      (belongs : tables.hasBelongings id = true) :
      hasQuestion { tables with questions } id = true :=
    hasQuestion_iff_mem.mpr (kept id (hasQuestion_iff_mem.mp there) belongs)
  refine ⟨unique, sound.jobs, sound.answers, fun member => still (sound.recorded member) ?_,
    fun member => still (sound.answered member) ?_, fun member => still (sound.requested member) ?_⟩
  · simp only [hasBelongings, Bool.or_eq_true, List.any_eq_true]
    exact Or.inl (Or.inl ⟨_, member, decide_eq_true rfl⟩)
  · simp only [hasBelongings, Bool.or_eq_true, List.any_eq_true]
    exact Or.inl (Or.inr ⟨_, member, decide_eq_true rfl⟩)
  · simp only [hasBelongings, Bool.or_eq_true, List.any_eq_true]
    exact Or.inr ⟨_, member, decide_eq_true rfl⟩

/-- A question is added. -/
theorem add_question {question : Question} (free : tables.hasQuestion question.id = false) :
    Sound { tables with questions := tables.questions ++ [question] } := by
  refine sound.with_questions (nodup_added sound.questions fun taken => ?_) fun id there _ => ?_
  · rw [hasQuestion_iff_mem.mpr taken] at free
    cases free
  · rw [List.map_append]
    exact List.mem_append_left _ there

/-- A question is replaced, under its key or, where nothing belongs to it, under a new one. -/
theorem replace_question {key : String} {question : Question}
    (keyed : question.id = key ∨
      tables.hasQuestion question.id = false ∧ tables.hasBelongings key = false) :
    (tables.withQuestion key question).Sound := by
  refine sound.with_questions (nodup_replaced sound.questions (keyed.imp_right ?_)) ?_
  · rintro ⟨free, _⟩ taken
    rw [hasQuestion_iff_mem.mpr taken] at free
    cases free
  · intro id there belongs
    obtain ⟨other, member, rfl⟩ := List.mem_map.mp there
    by_cases same : other.id = key
    · rcases keyed with kept | ⟨_, bare⟩
      · exact List.mem_map.mpr ⟨question, List.mem_map.mpr ⟨other, member, if_pos same⟩,
          kept.trans same.symm⟩
      · rw [same, bare] at belongs
        cases belongs
    · exact List.mem_map.mpr ⟨other, List.mem_map.mpr ⟨other, member, if_neg same⟩, rfl⟩

/-- A question is removed with whatever belongs to it. -/
theorem without_question (id : String) : (tables.withoutQuestion id).Sound := by
  have still {other : String} (there : tables.hasQuestion other = true) (different : other ≠ id) :
      (tables.withoutQuestion id).hasQuestion other = true := by
    obtain ⟨question, member, rfl⟩ := List.mem_map.mp (hasQuestion_iff_mem.mp there)
    exact hasQuestion_iff_mem.mpr (List.mem_map.mpr
      ⟨question, List.mem_filter.mpr ⟨member, decide_eq_true different⟩, rfl⟩)
  refine ⟨sound.questions.sublist (List.filter_sublist.map _),
    sound.jobs.sublist (List.filter_sublist.map _),
    sound.answers.sublist (List.filter_sublist.map _), fun member => ?_, fun member => ?_,
    fun member => ?_⟩
  · obtain ⟨before, different⟩ := List.mem_filter.mp member
    exact still (sound.recorded before) (of_decide_eq_true different)
  · obtain ⟨before, different⟩ := List.mem_filter.mp member
    exact still (sound.answered before) (of_decide_eq_true different)
  · obtain ⟨before, different⟩ := List.mem_filter.mp member
    exact still (sound.requested before) (of_decide_eq_true different)

/-- What is known about a new job of a question that is there is added. -/
theorem add_record {record : JobRecord} (there : tables.hasQuestion record.questionId = true)
    (free : tables.hasRecord record.jobId = false) :
    Sound { tables with records := tables.records ++ [record] } where
  questions := sound.questions
  jobs := nodup_added sound.jobs (hasRecord_eq_false.mp free)
  answers := sound.answers
  recorded member := by
    rcases List.mem_append.mp member with before | new
    · exact sound.recorded before
    · rw [List.mem_singleton.mp new]
      exact there
  answered := sound.answered
  requested := sound.requested

/-- What is known about a job is replaced, under its key or under a new one; its question is
there. -/
theorem replace_record {jobId : String} {record : JobRecord}
    (there : tables.hasQuestion record.questionId = true)
    (keyed : record.jobId = jobId ∨ tables.hasRecord record.jobId = false) :
    (tables.withRecord jobId record).Sound where
  questions := sound.questions
  jobs := nodup_replaced sound.jobs (keyed.imp_right hasRecord_eq_false.mp)
  answers := sound.answers
  recorded member := by
    rcases mem_replaced member with rfl | ⟨before, _⟩
    · exact there
    · exact sound.recorded before
  answered := sound.answered
  requested := sound.requested

/-- The answer to a question that is there is stored. -/
theorem storing {answer : Answer} (there : tables.hasQuestion answer.questionId = true) :
    (tables.storing answer).Sound := by
  unfold Tables.storing
  split
  · next none =>
    refine ⟨sound.questions, sound.jobs, nodup_added sound.answers fun taken => ?_, sound.recorded,
      fun member => ?_, sound.requested⟩
    · obtain ⟨other, member, same⟩ := List.mem_map.mp taken
      exact List.find?_eq_none.mp none other member (decide_eq_true same)
    · rcases List.mem_append.mp member with before | new
      · exact sound.answered before
      · rw [List.mem_singleton.mp new]
        exact there
  · next known found =>
    split
    · exact sound
    · refine ⟨sound.questions, sound.jobs, nodup_replaced sound.answers (Or.inl rfl),
        sound.recorded, fun member => ?_, sound.requested⟩
      rcases mem_replaced member with rfl | ⟨before, _⟩
      · exact there
      · exact sound.answered before

/-- That a question that is there was asked is added. -/
theorem add_request {request : Request} (there : tables.hasQuestion request.questionId = true) :
    Sound { tables with requests := tables.requests ++ [request] } where
  questions := sound.questions
  jobs := sound.jobs
  answers := sound.answers
  recorded := sound.recorded
  answered := sound.answered
  requested member := by
    rcases List.mem_append.mp member with before | new
    · exact sound.requested before
    · rw [List.mem_singleton.mp new]
      exact there

end Sound

/-! ## Storing an answer -/

/-- Tables with an answer stored hold it, or one that does not differ from it and was there already,
as the only one of its question; nothing else has changed. -/
theorem Sound.holds_stored (sound : tables.Sound) (answer : Answer) :
    ∃ held, (tables.storing answer).answers.filter (·.questionId = answer.questionId) = [held] ∧
      (held = answer ∨ held ∈ tables.answers ∧ held.result.same answer.result = true) ∧
      (tables.storing answer).answers.filter (·.questionId ≠ answer.questionId) =
        tables.answers.filter (·.questionId ≠ answer.questionId) ∧
      tables.storing answer = { tables with answers := (tables.storing answer).answers } := by
  unfold Tables.storing
  cases found : tables.answer? answer.questionId with
  | none =>
    have free : tables.answers.filter (·.questionId = answer.questionId) = [] :=
      List.filter_eq_nil_iff.mpr (List.find?_eq_none.mp found)
    exact ⟨answer, by simp [free], Or.inl rfl, by simp, rfl⟩
  | some known =>
    have only := filter_of_unique sound.answers found
    by_cases same : known.result.same answer.result = true
    · simp only [same, if_true]
      exact ⟨known, only, Or.inr ⟨List.mem_of_find?_eq_some found, same⟩, trivial, trivial⟩
    · have own : ∀ other ∈ tables.answers, decide (other.questionId = answer.questionId) = true ↔
          other.questionId = answer.questionId := fun _ _ => decide_eq_true_iff
      have replaced := filter_replaced own
      simp only [decide_eq_true_iff] at replaced
      simp only [same]
      refine ⟨answer, ?_, Or.inl rfl, ?_, rfl⟩
      · refine (replaced answer.questionId).trans ?_
        rw [if_pos rfl, only]
        rfl
      · exact filter_replaced_ne rfl

end Tables

end QuestionDesk.Database
