import QuestionDesk.Cache.Dedup
import QuestionDesk.Proofs.Json.RoundTrip
import QuestionDesk.Proofs.Schema.Check

/-!
# Remembered answers

What the store keeps under the fingerprint of a query is the text of an entry. Nothing but
remembering an answer to that query touches it, and while it lasts it is read back as the entry that
was written.
-/
namespace QuestionDesk.Cache

open Json (Readable FieldsReadable)

/-! ## Keys -/

/-- Entries for prompts and entries for queries have different keys. -/
theorem queryKey_ne_promptKey (fingerprint other : String) :
    queryKey fingerprint ≠ promptKey other := by
  intro same
  have chars : ("question:sql:" ++ fingerprint).toList = ("question:prompt:" ++ other).toList :=
    congrArg String.toList same
  rw [String.toList_append, String.toList_append] at chars
  have front := congrArg (List.take 10) chars
  rw [List.take_append_of_le_length (by decide), List.take_append_of_le_length (by decide)] at front
  exact absurd front (by decide)

/-- Entries for different queries have different keys. -/
theorem queryKey_inj {fingerprint other : String} (same : queryKey fingerprint = queryKey other) :
    fingerprint = other := by
  have chars : ("question:sql:" ++ fingerprint).toList = ("question:sql:" ++ other).toList :=
    congrArg String.toList same
  rw [String.toList_append, String.toList_append] at chars
  exact String.toList_inj.mp (List.append_cancel_left chars)

/-! ## Entries -/

/-- What an item is read as, if its text is a document that passes a check. -/
def Item.read? {α : Type} (check : Value → Schema.Check α) (item : Item) : Option α :=
  (Json.read item.text).toOption.bind fun value => (check value).value?

/-- The entry that an item is read as, if it is one. -/
def Item.entry? (item : Item) : Option QueryEntry :=
  (Json.read item.text).toOption.bind fun value => (QueryEntry.check value).value?

/-- An entry that the text of an item can hold. -/
def QueryEntry.Faithful (entry : QueryEntry) : Prop :=
  Readable (.object entry.result) ∧ Readable (.object entry.chart)

/-- The document of an entry is accepted as the entry. -/
theorem QueryEntry.check_document (entry : QueryEntry) :
    (QueryEntry.check entry.document).value? = some entry := rfl

/-- The document of a faithful entry can be read. -/
theorem QueryEntry.Faithful.document {entry : QueryEntry} (faithful : entry.Faithful) :
    Readable entry.document := by
  have names : ["question_id", "result", "chart_config", "job_id"].Nodup := by decide
  exact ⟨names, trivial, faithful.1, faithful.2, trivial, trivial⟩

/-- What was written for a faithful entry is read as the entry. -/
theorem entry?_of_text {item : Item} {entry : QueryEntry} (faithful : entry.Faithful)
    (written : item.text = Json.write entry.document) : item.entry? = some entry := by
  simp only [Item.entry?, written, Json.read_write faithful.document, Except.toOption,
    Option.bind_some, QueryEntry.check_document]

namespace Store

/-! ## Items -/

/-- The item for a query, whether or not its time has come. -/
def answer? (store : Store) (fingerprint : String) : Option Item :=
  store.items.find? (queryKey fingerprint)

/-- Looking up a key fails where reading is out of order, and gives what the item that is there is
read as otherwise. -/
theorem findEntry_eq {α : Type} (store : Store) (now : Micros) (key : String)
    (check : Value → Schema.Check α) :
    store.findEntry now key check =
      if Command.get ∈ store.failing then .error (.cache ("Cache read failed for " ++ key))
      else .ok ((store.find? now key).bind (Item.read? check)) := by
  unfold findEntry get getText
  by_cases broken : Command.get ∈ store.failing
  · simp [broken, Except.map]
  · cases found : store.find? now key with
    | none => simp [broken, Except.map]
    | some item => simp [broken, Except.map, Item.read?]

/-- Looking up a query gives the entry that its item is read as, while the item lasts. -/
theorem findQuery_eq {store : Store} {now : Micros} {fingerprint : String}
    {found : Option QueryEntry} (looked : store.findQuery now fingerprint = .ok found) :
    found = ((store.answer? fingerprint).filter (·.isLive now)).bind Item.entry? := by
  rw [findQuery, findEntry_eq] at looked
  split at looked
  · cases looked
  · exact (Except.ok.inj looked).symm

/-- The item under a key after one was written. -/
theorem items_withItem (store : Store) (key other : String) (item : Item) :
    (store.withItem key item).items.find? other =
      if other = key then some item else store.items.find? other := by
  have parted : (store.withItem key item).items.find? other =
      ((store.items.without key).find? other).or (Keyed.find? [(key, item)] other) := by
    simp only [withItem, without, Keyed.find?, List.lookup_append]
  rw [parted]
  split
  · next same =>
    subst same
    rw [Keyed.find?_without_self]
    simp [Keyed.find?]
  · next different =>
    rw [Keyed.find?_without_ne _ different]
    have absent : Keyed.find? [(key, item)] other = none := by
      simp [Keyed.find?, List.lookup_cons, beq_false_of_ne different]
    rw [absent, Option.or_none]

/-- The moment from which on an item that is kept for a number of seconds is gone; zero seconds mean
for ever. -/
def keptUntil (now : Micros) (seconds : Int) : Option Micros :=
  if seconds = 0 then none else some (now + Micros.ofSeconds seconds)

/-- An item that is kept for a positive number of seconds is gone some time. -/
theorem keptUntil_pos (now : Micros) {seconds : Int} (positive : 0 < seconds) :
    keptUntil now seconds = some (now + Micros.ofSeconds seconds) :=
  if_neg (Int.ne_of_gt positive)

/-- Writing a value for a number of seconds fails where writing is out of order or the number is
negative, and puts an item under the key otherwise. -/
theorem set_eq (store : Store) (now : Micros) (key : String) (value : Value) (seconds : Int) :
    store.set now key value (some seconds) =
      if Command.set ∈ store.failing ∨ seconds < 0 then
        .error (.cache ("Cache write failed for " ++ key))
      else .ok (store.withItem key ⟨Json.write value, keptUntil now seconds⟩) := by
  unfold set setText keptUntil
  by_cases broken : Command.set ∈ store.failing
  · simp [broken]
  · by_cases zero : seconds = 0
    · simp [broken, zero, Option.filter]
    · have given : (some seconds).filter (· ≠ 0) = some seconds :=
        Option.filter_some_pos (decide_eq_true zero)
      have nonpositive : seconds ≤ 0 ↔ seconds < 0 := by omega
      rw [given]
      simp [broken, zero, nonpositive]

/-- The items after a value was written are those before and the text of the value. -/
theorem set_eq_ok {store after : Store} {now : Micros} {key : String} {value : Value}
    {seconds : Int} (written : store.set now key value (some seconds) = .ok after) :
    after = store.withItem key ⟨Json.write value, keptUntil now seconds⟩ := by
  rw [set_eq] at written
  split at written
  · cases written
  · exact (Except.ok.inj written).symm

/-- Remembering what a prompt became leaves the answers alone. -/
theorem answer?_putPrompt {store after : Store} {now : Micros} {seconds : Int}
    {fingerprint : String} {entry : PromptEntry}
    (put : store.putPrompt now seconds fingerprint entry = .ok after) (query : String) :
    after.answer? query = store.answer? query := by
  obtain rfl := set_eq_ok put
  rw [answer?, items_withItem, if_neg (queryKey_ne_promptKey query fingerprint)]
  rfl

/-- Remembering an answer writes it under its query and leaves the other answers alone. -/
theorem answer?_putQuery {store after : Store} {now : Micros} {seconds : Int}
    {fingerprint : String} {entry : QueryEntry}
    (put : store.putQuery now seconds fingerprint entry = .ok after) :
    ∃ item, item.text = Json.write entry.document ∧ ∀ query, after.answer? query =
      if query = fingerprint then some item else store.answer? query := by
  obtain rfl := set_eq_ok put
  refine ⟨⟨Json.write entry.document, keptUntil now seconds⟩, rfl, fun query => ?_⟩
  rw [answer?, items_withItem]
  by_cases same : query = fingerprint
  · rw [if_pos same, if_pos (by rw [same])]
  · rw [if_neg same, if_neg fun keys => same (queryKey_inj keys)]
    rfl

end Store

end QuestionDesk.Cache
