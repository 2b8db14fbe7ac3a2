import QuestionDesk.Proofs.Cache.Answers

/-!
# Remembered prompts

What the store keeps under the fingerprint of a prompt is the text of an entry that names a
question. Nothing but remembering what that prompt became touches it, and it is read back as it was
written.
-/
namespace QuestionDesk.Cache

/-! ## Entries -/

/-- Entries for different prompts have different keys. -/
theorem promptKey_inj {fingerprint other : String}
    (same : promptKey fingerprint = promptKey other) :
    fingerprint = other := by
  have chars : ("question:prompt:" ++ fingerprint).toList = ("question:prompt:" ++ other).toList :=
    congrArg String.toList same
  rw [String.toList_append, String.toList_append] at chars
  exact String.toList_inj.mp (List.append_cancel_left chars)

/-- The entry for a prompt that an item is read as, if it is one. -/
def Item.promptEntry? (item : Item) : Option PromptEntry :=
  (Json.read item.text).toOption.bind fun value => (PromptEntry.check value).value?

/-- What was written for an entry is read as the entry. -/
theorem promptEntry?_of_text {item : Item} {entry : PromptEntry}
    (written : item.text = Json.write entry.document) : item.promptEntry? = some entry := by
  have names : ["job_id", "question_id"].Nodup := by decide
  have readable : Json.Readable entry.document := ⟨names, trivial, trivial, trivial⟩
  simp only [Item.promptEntry?, written, Json.read_write readable, Except.toOption,
    Option.bind_some]
  rfl

/-- The item that is written for an entry. -/
def PromptEntry.item (entry : PromptEntry) (now : Micros) (seconds : Int) : Item :=
  ⟨Json.write entry.document, Store.keptUntil now seconds⟩

/-- The item that is written for an entry is read as the entry. -/
theorem PromptEntry.promptEntry?_item (entry : PromptEntry) (now : Micros) (seconds : Int) :
    Item.promptEntry? (entry.item now seconds) = some entry :=
  promptEntry?_of_text rfl

namespace Store

/-! ## Items -/

/-- The item for a prompt, whether or not its time has come. -/
def prompt? (store : Store) (fingerprint : String) : Option Item :=
  store.items.find? (promptKey fingerprint)

/-- A prompt that is looked up and found has an item that is read as its entry. -/
theorem prompt?_of_found {store : Store} {now : Micros} {fingerprint : String}
    {entry : PromptEntry} (looked : store.findPrompt now fingerprint = .ok (some entry)) :
    ∃ item, store.prompt? fingerprint = some item ∧ item.promptEntry? = some entry := by
  rw [findPrompt, findEntry_eq] at looked
  split at looked
  · cases looked
  · obtain ⟨item, there, read⟩ := Option.bind_eq_some_iff.mp (Except.ok.inj looked)
    exact ⟨item, (Option.filter_eq_some_iff.mp there).1, read⟩

/-- Remembering what a prompt became writes it under the prompt and leaves the other prompts
alone. -/
theorem prompt?_putPrompt {store after : Store} {now : Micros} {seconds : Int}
    {fingerprint : String} {entry : PromptEntry}
    (put : store.putPrompt now seconds fingerprint entry = .ok after) :
    ∃ item, item.promptEntry? = some entry ∧ ∀ other, after.prompt? other =
      if other = fingerprint then some item else store.prompt? other := by
  obtain rfl := set_eq_ok put
  refine ⟨entry.item now seconds, entry.promptEntry?_item now seconds, fun other => ?_⟩
  rw [prompt?, items_withItem]
  by_cases same : other = fingerprint
  · rw [if_pos same, if_pos (by rw [same]), PromptEntry.item]
  · rw [if_neg same, if_neg fun keys => same (promptKey_inj keys)]
    rfl

/-- Remembering an answer leaves the prompts alone. -/
theorem prompt?_putQuery {store after : Store} {now : Micros} {seconds : Int}
    {fingerprint : String} {entry : QueryEntry}
    (put : store.putQuery now seconds fingerprint entry = .ok after) (other : String) :
    after.prompt? other = store.prompt? other := by
  obtain rfl := set_eq_ok put
  rw [prompt?, items_withItem, if_neg (Ne.symm (queryKey_ne_promptKey fingerprint other))]
  rfl

end Store

end QuestionDesk.Cache
