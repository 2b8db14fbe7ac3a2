import QuestionDesk.Proofs.Database.Integrity

/-!
# Promotions

A promotion makes exactly those questions suggested ones that users asked, that were asked often
enough since a moment and that have been answered. Another one finds nothing to do, however much
later it comes, as long as nothing else has happened: what was promoted is no longer a question of a
user, and no question is asked more often in a window that starts later. Lists go on to show every
question that they showed. The window must not start before the first date there is.
-/
namespace QuestionDesk.Database

/-! ## The start of the window -/

section Window

variable {now window : Int}

/-- The moments that have a date lie between the first and the last day. -/
theorem isDated_iff (moment : Int) : Micros.isDated moment = true ↔
    -738885 ≤ moment / 86400000000 ∧ moment / 86400000000 ≤ 2913173 := by
  rw [Micros.isDated, Bool.and_eq_true, decide_eq_true_eq, decide_eq_true_eq]

/-- The microseconds of some hours. -/
theorem hours_eq (count : Int) : hours count = count * 3600000000 := by
  rw [hours, Micros.ofSeconds, Int.mul_assoc]
  rfl

/-- From a moment that has a date, the start of a window is found when it has a date. -/
theorem hoursBefore_dated (dated : Micros.isDated now = true)
    (starts : Micros.isDated (now - hours window) = true) :
    hoursBefore now window = .ok (now - hours window) := by
  have few : ¬999999999 < (window / 24).natAbs := by
    rw [isDated_iff] at dated starts
    rw [hours_eq] at starts
    omega
  simp only [hoursBefore, if_neg few, if_pos starts]

/-- The start of a window that has no date cannot be worked with. -/
theorem hoursBefore_undated (starts : Micros.isDated (now - hours window) = false) :
    ∃ message, hoursBefore now window = .error (.other "OverflowError" message) := by
  unfold hoursBefore
  simp only [starts]
  split
  · exact ⟨_, rfl⟩
  · exact ⟨_, rfl⟩

/-- A window that starts at a date does so later as well. -/
theorem isDated_later {later : Int} (back : 0 ≤ window)
    (starts : Micros.isDated (now - hours window) = true) (passed : now ≤ later)
    (dated : Micros.isDated later = true) : Micros.isDated (later - hours window) = true := by
  rw [isDated_iff] at dated starts ⊢
  rw [hours_eq] at starts ⊢
  omega

end Window

/-! ## Popular questions -/

/-- A suggested question is none of a user. -/
theorem suggestedKind_ne : suggestedKind ≠ userKind := by decide

namespace Tables

/-- A question that is to be suggested: a user asked it, it was asked often enough since a moment,
and a job of its has completed. -/
structure Popular (tables : Tables) (since : Micros) (threshold : Int) (question : Question) :
    Prop where
  /-- It is a question of a user. -/
  kind : question.kind = userKind
  /-- It was asked so often. -/
  asked : threshold ≤ (tables.requests.filter fun request =>
    request.questionId = question.id ∧ since ≤ request.createdAt).length
  /-- A job of its has completed. -/
  answered : ∃ record ∈ tables.records,
    record.questionId = question.id ∧ record.status = completedStatus

/-- What a promotion makes of a question: a suggested one when it is popular, and otherwise what it
was. -/
structure Promotes (tables : Tables) (since : Micros) (threshold : Int)
    (question after : Question) : Prop where
  /-- A popular question is suggested and otherwise as it was. -/
  popular : tables.Popular since threshold question →
    after = { question with kind := suggestedKind }
  /-- Any other question is as it was. -/
  other : ¬tables.Popular since threshold question → after = question

variable {tables : Tables} {since : Micros} {threshold : Int}

/-- The questions that are promoted are the popular ones. -/
theorem isPromoted_iff (least : 1 ≤ threshold) (question : Question) :
    tables.isPromoted since threshold question = true ↔
      tables.Popular since threshold question := by
  have counts : (tables.requests.countP fun request =>
      decide (request.questionId = question.id) && decide (since ≤ request.createdAt)) =
      (tables.requests.filter fun request =>
        request.questionId = question.id ∧ since ≤ request.createdAt).length := by
    rw [List.countP_eq_length_filter]
    simp only [Bool.decide_and]
  simp only [isPromoted, isPopular, isAnswered, counts, Bool.and_eq_true, decide_eq_true_eq,
    List.any_eq_true]
  constructor
  · rintro ⟨⟨kind, _, asked⟩, answered⟩
    exact ⟨kind, asked, answered⟩
  · rintro ⟨kind, asked, answered⟩
    exact ⟨⟨kind, by omega, asked⟩, answered⟩

/-- A question that is not popular does not become so by a window that starts later. -/
theorem Popular.of_later {later : Micros} {question : Question} (passed : since ≤ later)
    (popular : tables.Popular later threshold question) :
    tables.Popular since threshold question := by
  obtain ⟨kind, asked, answered⟩ := popular
  refine ⟨kind, Int.le_trans asked (Int.ofNat_le.mpr ?_), answered⟩
  refine (List.monotone_filter_right tables.requests fun request late => ?_).length_le
  simp only [decide_eq_true_eq] at late ⊢
  exact ⟨late.1, Int.le_trans passed late.2⟩

/-- What a promotion makes of a question. -/
def promotion (tables : Tables) (since : Micros) (threshold : Int) (question : Question) :
    Question :=
  if tables.isPromoted since threshold question then { question with kind := suggestedKind }
  else question

/-- A promotion keeps the key of a question. -/
@[simp]
theorem promotion_id (question : Question) :
    (tables.promotion since threshold question).id = question.id := by
  unfold promotion
  split <;> rfl

/-- A promotion makes of a question what it is to make of it. -/
theorem promotes (least : 1 ≤ threshold) (question : Question) :
    tables.Promotes since threshold question (tables.promotion since threshold question) := by
  have chosen := @isPromoted_iff tables since threshold least question
  exact ⟨fun popular => if_pos (chosen.mpr popular),
    fun other => if_neg fun promoted => other (chosen.mp promoted)⟩

/-- A promotion changes a question exactly if it is chosen. -/
theorem promotion_ne_iff (question : Question) :
    question ≠ tables.promotion since threshold question ↔
      tables.isPromoted since threshold question = true := by
  unfold promotion
  split
  · next promoted =>
    refine iff_of_true (fun same => ?_) promoted
    have kind : question.kind = userKind := by
      simp only [isPromoted, Bool.and_eq_true, decide_eq_true_eq] at promoted
      exact promoted.1.1
    exact suggestedKind_ne ((congrArg Question.kind same).symm.trans kind)
  · next left => exact iff_of_false (fun differs => differs rfl) left

/-- What was promoted, or was not to be, is not chosen by a promotion whose window starts later. -/
theorem isPromoted_promotion (least : 1 ≤ threshold) {later : Micros} (passed : since ≤ later)
    (question : Question) :
    tables.isPromoted later threshold (tables.promotion since threshold question) = false := by
  rw [← Bool.not_eq_true, isPromoted_iff least]
  intro popular
  by_cases before : tables.Popular since threshold question
  · have kind := popular.kind
    rw [(promotes least question).popular before] at kind
    exact suggestedKind_ne kind
  · rw [(promotes least question).other before] at popular
    exact before (popular.of_later passed)

end Tables

/-! ## Promotions that go through -/

section Promotion

variable {database : Database} {since : Micros} {threshold : Int}

/-- The database after a promotion that went through. -/
def promoted (database : Database) (since : Micros) (threshold : Int) : Database :=
  { database with tables := { database.tables with
      questions := database.tables.questions.map (database.tables.promotion since threshold) } }

/-- A promotion whose statement and whose end do not fail goes through. -/
theorem promoteSince_sent (sends : database.send .update .questions = .ok ())
    (ends : database.finish = .ok ()) : database.promoteSince since threshold =
      (.ok (database.tables.questions.countP (database.tables.isPromoted since threshold)),
        database.promoted since threshold) := by
  simp only [promoteSince, sends, ends]
  rfl

/-- The number of rows that are chosen is the number of those that are changed when a row is changed
exactly if it is chosen. -/
theorem countP_changed {α : Type} [DecidableEq α] {chosen : α → Bool} {change : α → α}
    (changes : ∀ row, row ≠ change row ↔ chosen row = true) (rows : List α) :
    rows.countP chosen =
      ((rows.zip (rows.map change)).filter fun pair => pair.1 ≠ pair.2).length := by
  induction rows with
  | nil => rfl
  | cons row rows ih =>
    have same : chosen row = decide (row ≠ change row) := by
      rw [Bool.eq_iff_iff, decide_eq_true_eq]
      exact (changes row).symm
    rw [List.countP_cons, ih, List.map_cons, List.zip_cons_cons, List.filter_cons, same]
    split <;> rfl

/-- A promotion whose window starts later changes nothing after one that went through. -/
theorem promoteSince_promoted (least : 1 ≤ threshold) {later : Micros} (passed : since ≤ later)
    (sends : database.send .update .questions = .ok ()) (ends : database.finish = .ok ()) :
    (database.promoted since threshold).promoteSince later threshold =
      (.ok 0, database.promoted since threshold) := by
  -- Nothing is chosen: so the count is zero, and every question is left as it is.
  have none : ∀ question ∈ (database.promoted since threshold).tables.questions,
      database.tables.isPromoted later threshold question = false := by
    intro question member
    obtain ⟨before, _, rfl⟩ := List.mem_map.mp member
    exact Tables.isPromoted_promotion least passed before
  have count : (database.promoted since threshold).tables.questions.countP
      (database.tables.isPromoted later threshold) = 0 :=
    List.countP_eq_zero.mpr fun question member => by simp [none question member]
  have same : (database.promoted since threshold).tables.questions.map
      (database.tables.promotion later threshold) =
        (database.promoted since threshold).tables.questions := by
    refine (List.map_congr_left fun question member => ?_).trans (List.map_id _)
    rw [Tables.promotion, none question member]
    rfl
  refine (@promoteSince_sent (database.promoted since threshold) _ _ sends ends).trans ?_
  refine Prod.ext (congrArg (fun number : Nat => Except.ok (number : Int)) count) ?_
  exact congrArg (fun questions : List Question =>
    ({ database with tables := { database.tables with questions } } : Database)) same

/-! ## Lists -/

/-- The questions that are in some list. -/
def Tables.listed (tables : Tables) : List Question :=
  newestFirst (·.createdAt) (tables.questions.filter fun question =>
      question.kind = userKind && tables.isAnswered question.id) ++
    newestFirst (·.createdAt) (tables.questions.filter (·.kind = suggestedKind))

/-- A question is in some list when it is a suggested one or one of a user that was answered. -/
theorem Tables.mem_listed {tables : Tables} {question : Question} :
    question ∈ tables.listed ↔ question ∈ tables.questions ∧
      (question.kind = userKind ∧ tables.isAnswered question.id = true ∨
        question.kind = suggestedKind) := by
  simp only [listed, newestFirst, List.mem_append, List.mem_mergeSort, List.mem_filter,
    Bool.and_eq_true, decide_eq_true_eq]
  rw [← and_or_left]

/-- No question is listed twice. -/
theorem Tables.Sound.nodup_listed {tables : Tables} (sound : tables.Sound) :
    (tables.listed.map (·.id)).Nodup := by
  have part (kept : Question → Bool) :
      ((newestFirst (·.createdAt) (tables.questions.filter kept)).map (·.id)).Nodup := by
    refine (((List.mergeSort_perm _ _).map _).nodup_iff).mpr ?_
    exact sound.questions.sublist (List.filter_sublist.map _)
  -- Each list has no key twice, and a question in both would be of both kinds.
  rw [listed, List.map_append]
  refine (part _).append (part _) ?_
  intro id first second
  obtain ⟨one, ofUser, rfl⟩ := List.mem_map.mp first
  obtain ⟨other, suggested, same⟩ := List.mem_map.mp second
  simp only [newestFirst, List.mem_mergeSort, List.mem_filter, Bool.and_eq_true,
    decide_eq_true_eq] at ofUser suggested
  have equal : other = one := List.inj_on_of_nodup_map sound.questions suggested.1 ofUser.1 same
  exact suggestedKind_ne (suggested.2.symm.trans (equal ▸ ofUser.2.1))

/-- A question that is listed is so after a promotion. -/
theorem mem_listed_promoted {question : Question} (listed : question ∈ database.tables.listed) :
    database.tables.promotion since threshold question ∈
      (database.promoted since threshold).tables.listed := by
  obtain ⟨member, shown⟩ := Tables.mem_listed.mp listed
  refine Tables.mem_listed.mpr ⟨List.mem_map_of_mem member, ?_⟩
  unfold Tables.promotion
  split
  · exact Or.inr rfl
  · exact shown

/-- What the two lists show, where they are given. -/
theorem lists_given {users suggested : List Question}
    (usersGiven : database.userQuestions = .ok users)
    (suggestedGiven : database.suggestedQuestions = .ok suggested) :
    database.send .select .questions = .ok () ∧ users ++ suggested = database.tables.listed := by
  obtain ⟨_, sends, rest⟩ := ok_of_bind (of_mapError usersGiven)
  cases rest
  obtain ⟨_, _, rest⟩ := ok_of_bind (of_mapError suggestedGiven)
  cases rest
  exact ⟨sends, rfl⟩

/-- Both lists are given where questions can be read. -/
theorem lists_of_sent (sends : database.send .select .questions = .ok ()) :
    ∃ users suggested, database.userQuestions = .ok users ∧
      database.suggestedQuestions = .ok suggested ∧
      users ++ suggested = database.tables.listed := by
  refine ⟨_, _, ?_, ?_, rfl⟩
  · simp only [userQuestions, sends]
    rfl
  · simp only [suggestedQuestions, sends]
    rfl

/-- A promotion leaves the tables sound. -/
theorem sound_promoted (sound : database.tables.Sound) :
    (database.promoted since threshold).tables.Sound := by
  have keys : (database.tables.questions.map (database.tables.promotion since threshold)).map
      (·.id) = database.tables.questions.map (·.id) := by
    rw [List.map_map]
    exact List.map_congr_left fun question _ => Tables.promotion_id question
  exact sound.with_questions (keys ▸ sound.questions) fun id member _ => keys ▸ member

end Promotion

/-! ## Promotions of popular questions -/

/-- In sound tables, with a window that starts at a date and with nothing that fails, a promotion
makes exactly the popular questions suggested ones, changes nothing else and tells how many
questions it changed. Another one at that moment or any later one changes nothing and tells so. Each
question that one of the lists showed before is shown once by one of the two afterwards. Where the
start of the window has no date, nothing happens but that the failure is told. -/
theorem popular_questions_promoted {database : Database} {now : Micros} {threshold window : Int}
    (sound : database.tables.Sound) (least : 1 ≤ threshold) (back : 0 ≤ window)
    (dated : now.isDated = true) (sends : database.send .update .questions = .ok ())
    (ends : database.finish = .ok ()) :
    ((now - hours window).isDated = true → ∃ questions : List Question,
      let after : Database := { database with tables := { database.tables with questions } }
      List.Forall₂ (database.tables.Promotes (now - hours window) threshold)
        database.tables.questions questions ∧
      database.promote now threshold window = (.ok ((database.tables.questions.zip questions).filter
        fun pair => pair.1 ≠ pair.2).length, after) ∧
      (∀ later : Micros, now ≤ later → later.isDated = true →
        after.promote later threshold window = (.ok 0, after)) ∧
      ∀ users suggested, database.userQuestions = .ok users →
        database.suggestedQuestions = .ok suggested → ∃ usersAfter suggestedAfter,
          after.userQuestions = .ok usersAfter ∧ after.suggestedQuestions = .ok suggestedAfter ∧
          ∀ question ∈ users ++ suggested,
            ((usersAfter ++ suggestedAfter).map (·.id)).count question.id = 1) ∧
    ((now - hours window).isDated = false → ∃ message, database.promote now threshold window =
      (.error (.other "OverflowError" message), database)) := by
  constructor
  · intro starts
    refine ⟨(database.promoted (now - hours window) threshold).tables.questions, ?_, ?_,
      fun later passed laterDated => ?_, fun users suggested usersGiven suggestedGiven => ?_⟩
    · exact List.forall₂_map_right_iff.mpr
        (List.forall₂_same.mpr fun question _ => Tables.promotes least question)
    · have changed := countP_changed
        (@Tables.promotion_ne_iff database.tables (now - hours window) threshold)
        database.tables.questions
      rw [promote, hoursBefore_dated dated starts]
      refine (promoteSince_sent sends ends).trans ?_
      rw [changed]
      rfl
    · have laterStarts := isDated_later back starts passed laterDated
      rw [promote, hoursBefore_dated laterDated laterStarts]
      exact promoteSince_promoted least (Int.sub_le_sub_right passed _) sends ends
    · obtain ⟨reads, shown⟩ := lists_given usersGiven suggestedGiven
      obtain ⟨usersAfter, suggestedAfter, usersNow, suggestedNow, showing⟩ :=
        @lists_of_sent (database.promoted (now - hours window) threshold) reads
      refine ⟨usersAfter, suggestedAfter, usersNow, suggestedNow, fun question member => ?_⟩
      rw [showing]
      refine List.count_eq_one_of_mem (sound_promoted sound).nodup_listed ?_
      have still := @mem_listed_promoted database (now - hours window) threshold _ (shown ▸ member)
      exact List.mem_map.mpr ⟨_, still, Tables.promotion_id question⟩
  · intro starts
    obtain ⟨message, stops⟩ := hoursBefore_undated starts
    exact ⟨message, by rw [promote, stops]⟩

/-- Two answered questions of users, of which one was asked twice in the last day, once of it just
as the day began. -/
def askedTables : Tables where
  questions := [⟨"new", "Which types?", "Types", "", "", .null, userKind, 0⟩,
    ⟨"old", "Which actors?", "Actors", "", "", .null, userKind, 0⟩]
  records := [⟨"new", "ask:1", completedStatus, none, 0⟩,
    ⟨"old", "ask:2", completedStatus, none, 0⟩, ⟨"new", "ask:3", completedStatus, none, 0⟩]
  requests := [⟨"new", none, 0⟩, ⟨"old", none, -1⟩, ⟨"old", none, 1⟩, ⟨"new", none, 5⟩]

/-- The tables are sound. -/
theorem sound_asked : askedTables.Sound where
  questions := by decide
  jobs := by decide
  answers := by decide
  recorded := by decide
  answered := by decide
  requested := by decide

/-- A day after the first request, one question is promoted, and a week later none. -/
theorem popular_questions_promoted_day :
    askedTables.Sound ∧ Micros.isDated (hours 24) = true ∧
    Micros.isDated (hours 24 - hours 24) = true ∧ ∃ questions,
      promote ⟨askedTables, []⟩ (hours 24) 2 24 = (.ok 1, ⟨{ askedTables with questions }, []⟩) ∧
      promote ⟨{ askedTables with questions }, []⟩ (hours 192) 2 24 =
        (.ok 0, ⟨{ askedTables with questions }, []⟩) := by
  have dated : Micros.isDated (hours 24) = true := by decide
  have starts : Micros.isDated (hours 24 - hours 24) = true := by decide
  refine ⟨sound_asked, dated, starts, ?_⟩
  obtain ⟨questions, _, first, again, _⟩ := (@popular_questions_promoted ⟨askedTables, []⟩ _ 2 24
    sound_asked (by decide) (by decide) dated rfl rfl).1 starts
  have one : (promote ⟨askedTables, []⟩ (hours 24) 2 24).1 = .ok 1 := by decide
  have left : (promote ⟨askedTables, []⟩ (hours 24) 2 24).2 =
      ⟨{ askedTables with questions }, []⟩ := congrArg Prod.snd first
  refine ⟨questions, Prod.ext one left, again (hours 192) ?_ ?_⟩
  · decide
  · decide

/-- With a window of a thousand million hours, the question that was asked and answered is not
promoted, since the window would start before the first date. -/
theorem promotion_without_date :
    askedTables.Sound ∧ Micros.isDated 0 = true ∧
    (∃ question ∈ askedTables.questions,
      askedTables.Popular (0 - hours 1000000000) 1 question) ∧
    promote ⟨askedTables, []⟩ 0 1 1000000000 =
      (.error (.other "OverflowError" "date value out of range"), ⟨askedTables, []⟩) := by
  refine ⟨sound_asked, by decide, ?_, by decide⟩
  refine ⟨_, List.mem_cons_self, rfl, by decide, ?_⟩
  exact ⟨_, List.mem_cons_self, rfl, rfl⟩

end QuestionDesk.Database
