import QuestionDesk.Proofs.Cache.Prompts

/-!
# The cache as two maps

The two families of entries share one space of keys, and entries are kept as texts. For whoever
remembers and looks up entries none of this shows: each family is a map from fingerprints to entries
that last for the seconds they were given, and nothing that happens to the other family touches it.
Whatever text stands under a key, looking it up gives an entry or nothing.
-/
namespace QuestionDesk.Cache

open Schema (Check)

/-! ## Spans -/

namespace Store

/-- The seconds for which an entry is kept are positive where those usual and those asked for
are. -/
theorem keepFor_pos {usual : Int} {asked : Option Int} (usually : 0 < usual)
    (here : ∀ seconds ∈ asked, 0 < seconds) : 0 < keepFor usual asked := by
  cases asked with
  | none => exact usually
  | some seconds =>
    have positive := here seconds rfl
    have given : (some seconds).filter (· ≠ 0) = some seconds :=
      Option.filter_some_pos (decide_eq_true (Int.ne_of_gt positive))
    unfold keepFor
    rw [given]
    exact positive

end Store

/-! ## Histories of a cache -/

/-- What happens to a cache. -/
inductive Deed where
  /-- What a prompt became is remembered, for a number of seconds or as long as usual. -/
  | prompt (fingerprint : String) (entry : PromptEntry) (asked : Option Int)
  /-- The answer that a query got is remembered, for a number of seconds or as long as usual. -/
  | query (fingerprint : String) (entry : QueryEntry) (asked : Option Int)
  /-- Time passes. -/
  | wait (span : Nat)
  /-- From now on these commands and no others are out of order. -/
  | outage (commands : List Command)

/-- A deed that asks for a positive number of seconds, if for any, and remembers what a text can
hold. -/
def Deed.Proper : Deed → Prop
  | .prompt _ _ asked => ∀ seconds ∈ asked, 0 < seconds
  | .query _ entry asked => entry.Faithful ∧ ∀ seconds ∈ asked, 0 < seconds
  | .wait _ => True
  | .outage _ => True

/-- A store at a moment. -/
structure Scene where
  /-- The store. -/
  store : Store := {}
  /-- The moment. -/
  now : Micros := 0

namespace Scene

/-- The scene with what a command leaves, which is nothing new where the command fails. -/
def keeping (scene : Scene) (written : Except Failure Store) : Scene :=
  { scene with store := written.toOption.getD scene.store }

/-- The scene after a deed. -/
def after (usual : Int) (scene : Scene) : Deed → Scene
  | .prompt fingerprint entry asked =>
    scene.keeping (scene.store.putPrompt scene.now (Store.keepFor usual asked) fingerprint entry)
  | .query fingerprint entry asked =>
    scene.keeping (scene.store.putQuery scene.now (Store.keepFor usual asked) fingerprint entry)
  | .wait span => { scene with now := scene.now + span }
  | .outage commands => { scene with store := { scene.store with failing := commands } }

/-- The scene after a history that began with nothing remembered. -/
def run (usual : Int) (deeds : List Deed) : Scene := deeds.foldl (after usual) {}

end Scene

/-! ## Families -/

/-- What is remembered: an entry under a fingerprint, for a number of seconds or as long as usual. -/
structure Note (α : Type) where
  /-- The fingerprint. -/
  fingerprint : String
  /-- The entry. -/
  entry : α
  /-- The seconds asked for. -/
  asked : Option Int

/-- A family of entries. -/
structure Family (α : Type) where
  /-- The key for a fingerprint. -/
  key : String → String
  /-- What a document is read as. -/
  check : Value → Check α
  /-- Fields that an entry is read in. -/
  IsReadIn : α → Fields → Prop
  /-- What a deed remembers in the family. -/
  note? : Deed → Option (Note α)

/-- What prompts became. -/
def prompts : Family PromptEntry where
  key := promptKey
  check := PromptEntry.check
  IsReadIn entry fields :=
    fields.get? "job_id" = some (.text entry.jobId) ∧
      fields.get? "question_id" = some (.text entry.questionId)
  note?
    | .prompt fingerprint entry asked => some ⟨fingerprint, entry, asked⟩
    | _ => none

/-- What queries were answered with. -/
def queries : Family QueryEntry where
  key := queryKey
  check := QueryEntry.check
  IsReadIn entry fields :=
    fields.get? "question_id" = some (.text entry.questionId) ∧
      fields.get? "result" = some (.object entry.result) ∧
      (fields.get? "chart_config" = none ∧ entry.chart = [] ∨
        fields.get? "chart_config" = some (.object entry.chart)) ∧
      fields.get? "job_id" = some (.text entry.jobId)
  note?
    | .query fingerprint entry asked => some ⟨fingerprint, entry, asked⟩
    | _ => none

/-- The entry under a fingerprint at the moment of a scene. -/
def Scene.find {α : Type} (scene : Scene) (family : Family α) (fingerprint : String) :
    Except Failure (Option α) :=
  scene.store.findEntry scene.now (family.key fingerprint) family.check

/-- Whether a deed writes to the store. -/
def Deed.writes : Deed → Bool
  | .prompt .. => true
  | .query .. => true
  | _ => false

/-- A family that is kept apart from everything else that is remembered, and whose entries are read
back. -/
structure Family.Lawful {α : Type} (family : Family α) : Prop where
  /-- Different fingerprints have different keys. -/
  apart {one other : String} : family.key one = family.key other → one = other
  /-- What a deed remembers in the family is put under its key. -/
  own (usual : Int) (scene : Scene) {deed : Deed} {note : Note α} :
    family.note? deed = some note → ∃ value,
      (deed.Proper → ∀ item : Item, item.text = Json.write value →
        item.read? family.check = some note.entry) ∧
      (deed.Proper → ∀ seconds ∈ note.asked, 0 < seconds) ∧
      scene.after usual deed = scene.keeping (scene.store.set scene.now
        (family.key note.fingerprint) value (some (Store.keepFor usual note.asked)))
  /-- What a deed writes that remembers nothing in the family is put under another key. -/
  others (usual : Int) (scene : Scene) {deed : Deed} :
    family.note? deed = none → deed.writes = true → ∃ elsewhere value seconds,
      (∀ fingerprint, family.key fingerprint ≠ elsewhere) ∧
      scene.after usual deed =
        scene.keeping (scene.store.set scene.now elsewhere value (some seconds))
  /-- A document is read as an entry where it has the fields of the entry. -/
  reads {value : Value} {entry : α} : (family.check value).value? = some entry ↔
    ∃ fields, value = .object fields ∧ family.IsReadIn entry fields

/-- Prompts have keys of their own, and what a prompt became is read back. -/
theorem prompts_lawful : prompts.Lawful where
  apart := promptKey_inj
  own usual scene deed note noted := by
    cases deed with
    | prompt fingerprint entry asked =>
      cases noted
      exact ⟨_, fun _ _ => promptEntry?_of_text, id, rfl⟩
    | _ => cases noted
  others usual scene deed noted writes := by
    cases deed with
    | prompt fingerprint entry asked => cases noted
    | query fingerprint entry asked =>
      exact ⟨_, _, _, fun other => (queryKey_ne_promptKey fingerprint other).symm, rfl⟩
    | _ => cases writes
  reads {value entry} := by
    obtain ⟨jobId, questionId⟩ := entry
    simp only [prompts, PromptEntry.check, Check.record_accepts, Check.value?_map,
      Option.map_eq_some_iff, Prod.exists, Check.join_accepts, Check.required_accepts,
      Check.text_accepts, PromptEntry.mk.injEq]
    constructor
    · rintro ⟨fields, rfl, _, _, ⟨⟨_, job, rfl⟩, _, question, rfl⟩, rfl, rfl⟩
      exact ⟨fields, rfl, job, question⟩
    · rintro ⟨fields, rfl, job, question⟩
      exact ⟨fields, rfl, _, _, ⟨⟨_, job, rfl⟩, _, question, rfl⟩, rfl, rfl⟩

/-- Queries have keys of their own, and what a query was answered with is read back. -/
theorem queries_lawful : queries.Lawful where
  apart := queryKey_inj
  own usual scene deed note noted := by
    cases deed with
    | query fingerprint entry asked =>
      cases noted
      exact ⟨_, fun proper _ => entry?_of_text proper.1, And.right, rfl⟩
    | _ => cases noted
  others usual scene deed noted writes := by
    cases deed with
    | query fingerprint entry asked => cases noted
    | prompt fingerprint entry asked =>
      exact ⟨_, _, _, fun other => queryKey_ne_promptKey other fingerprint, rfl⟩
    | _ => cases writes
  reads {value entry} := by
    obtain ⟨questionId, result, chart, jobId⟩ := entry
    simp only [queries, QueryEntry.check, Check.record_accepts, Check.value?_map,
      Option.map_eq_some_iff, Prod.exists, Check.join_accepts, Check.required_accepts,
      Check.optional_accepts, Check.text_accepts, Check.anyObject_accepts, QueryEntry.mk.injEq]
    constructor
    · rintro ⟨fields, rfl, _, _, _, _, ⟨⟨⟨⟨_, question, rfl⟩, _, rows, rfl⟩, picture⟩, _, job, rfl⟩,
        rfl, rfl, rfl, rfl⟩
      refine ⟨fields, rfl, question, rows, picture.imp_right ?_, job⟩
      rintro ⟨_, drawn, rfl⟩
      exact drawn
    · rintro ⟨fields, rfl, question, rows, picture, job⟩
      exact ⟨fields, rfl, _, _, _, _, ⟨⟨⟨⟨_, question, rfl⟩, _, rows, rfl⟩,
        picture.imp_right fun drawn => ⟨_, drawn, rfl⟩⟩, _, job, rfl⟩, rfl, rfl, rfl, rfl⟩

/-! ## A map -/

/-- Entries under their fingerprints, each with the moment from which on it is gone. -/
abbrev Lasting (α : Type) := Keyed (α × Micros)

/-- The entry under a fingerprint, while it lasts. -/
def Lasting.find? {α : Type} (entries : Lasting α) (now : Micros) (fingerprint : String) :
    Option α :=
  ((Keyed.find? entries fingerprint).filter fun entry => now < entry.2).map (·.1)

/-- What a map holds under a fingerprint is found until it is gone. -/
theorem Lasting.find?_of_held {α : Type} {entries : Lasting α} {fingerprint : String} {entry : α}
    {gone : Micros} (held : Keyed.find? entries fingerprint = some (entry, gone)) (now : Micros) :
    entries.find? now fingerprint = if now < gone then some entry else none := by
  unfold Lasting.find?
  rw [held]
  by_cases lasts : now < gone <;> simp [Option.filter, lasts]

/-- The map of a family at a moment, and the commands that are out of order. -/
structure Memory (α : Type) where
  /-- The entries. -/
  entries : Lasting α := []
  /-- The moment. -/
  now : Micros := 0
  /-- The commands that fail. -/
  failing : List Command := []

namespace Memory

variable {α : Type}

/-- The answer to a look-up under a fingerprint. -/
def find (memory : Memory α) (family : Family α) (fingerprint : String) :
    Except Failure (Option α) :=
  if Command.get ∈ memory.failing then
    .error (.cache ("Cache read failed for " ++ family.key fingerprint))
  else .ok (memory.entries.find? memory.now fingerprint)

/-- The map with a note: the entry takes the place of the one under its fingerprint. -/
def noting (usual : Int) (memory : Memory α) (note : Note α) : Memory α :=
  if Command.set ∈ memory.failing then memory
  else { memory with
    entries := memory.entries.put note.fingerprint
      (note.entry, memory.now + Micros.ofSeconds (Store.keepFor usual note.asked)) }

/-- The map of a family after a deed. -/
def after (family : Family α) (usual : Int) (memory : Memory α) (deed : Deed) : Memory α :=
  match family.note? deed, deed with
  | some note, _ => memory.noting usual note
  | none, .wait span => { memory with now := memory.now + span }
  | none, .outage commands => { memory with failing := commands }
  | none, _ => memory

/-- A deed that remembers something in a family is noted in its map. -/
theorem after_noted {family : Family α} (usual : Int) (memory : Memory α) {deed : Deed}
    {note : Note α} (noted : family.note? deed = some note) :
    memory.after family usual deed = memory.noting usual note := by
  unfold after
  rw [noted]

/-- The map of a family after a history that began with nothing remembered. -/
def run (family : Family α) (usual : Int) (deeds : List Deed) : Memory α :=
  deeds.foldl (after family usual) {}

end Memory

/-! ## The cache shows the maps -/

section Shows

variable {α : Type}

/-- A scene that holds what the map of a family holds. -/
structure Shows (family : Family α) (scene : Scene) (memory : Memory α) : Prop where
  /-- The moments are one. -/
  now : scene.now = memory.now
  /-- The same commands are out of order. -/
  failing : scene.store.failing = memory.failing
  /-- The items are read as the entries and last as long. -/
  entries (fingerprint : String) : (scene.store.items.find? (family.key fingerprint)).map
      (fun item => (item.read? family.check, item.expires)) =
    (Keyed.find? memory.entries fingerprint).map fun entry => (some entry.1, some entry.2)

variable {family : Family α} {scene : Scene} {memory : Memory α} {usual : Int}

/-- Nothing is remembered at the beginning. -/
theorem Shows.start : Shows family {} {} := ⟨rfl, rfl, fun _ => rfl⟩

/-- What is looked up is what the map holds, while it lasts. -/
theorem Shows.find (shown : Shows family scene memory) (fingerprint : String) :
    scene.find family fingerprint = memory.find family fingerprint := by
  unfold Scene.find Memory.find
  rw [Store.findEntry_eq, shown.failing]
  have same := shown.entries fingerprint
  unfold Store.find? Lasting.find?
  cases here : Keyed.find? memory.entries fingerprint with
  | none =>
    rw [here, Option.map_none, Option.map_eq_none_iff] at same
    rw [same]
    rfl
  | some entry =>
    rw [here, Option.map_some, Option.map_eq_some_iff] at same
    obtain ⟨item, found, same⟩ := same
    obtain ⟨read, gone⟩ := Prod.mk.inj same
    have live : item.isLive scene.now = decide (memory.now < entry.2) := by
      unfold Item.isLive
      rw [gone, shown.now]
    rw [found]
    by_cases lasts : memory.now < entry.2 <;> simp [Option.filter, live, lasts, read]

/-- A note in a family is written to its map. -/
theorem Shows.noting (shown : Shows family scene memory) (lawful : family.Lawful)
    (kept : 0 < usual) {deed : Deed} (proper : deed.Proper) {note : Note α}
    (noted : family.note? deed = some note) :
    Shows family (scene.after usual deed) (memory.noting usual note) := by
  obtain ⟨value, read, positive, after⟩ := lawful.own usual scene noted
  have lasting := Store.keepFor_pos kept (positive proper)
  rw [after, Store.set_eq, Store.keptUntil_pos _ lasting, Memory.noting, shown.failing]
  simp only [Int.not_lt_of_ge (Int.le_of_lt lasting), or_false]
  split
  · exact shown
  · refine ⟨shown.now, shown.failing, fun other => ?_⟩
    change Option.map _ (Keyed.find? (Store.withItem _ _ _).items _) = _
    rw [Store.items_withItem]
    by_cases same : other = note.fingerprint
    · rw [same, if_pos rfl, Keyed.find?_put_self, Option.map_some, Option.map_some,
        read proper _ rfl, shown.now]
    · rw [if_neg fun keys => same (lawful.apart keys), Keyed.find?_put_ne _ _ same]
      exact shown.entries other

/-- What is written under one key, or fails to be, leaves what stands under another. -/
theorem Scene.keeping_elsewhere (scene : Scene) {key elsewhere : String} (apart : key ≠ elsewhere)
    (value : Value) (seconds : Int) :
    let later := scene.keeping (scene.store.set scene.now elsewhere value (some seconds))
    later.now = scene.now ∧ later.store.failing = scene.store.failing ∧
      later.store.items.find? key = scene.store.items.find? key := by
  cases written : scene.store.set scene.now elsewhere value (some seconds) with
  | error failure => exact ⟨rfl, rfl, rfl⟩
  | ok after =>
    obtain rfl := Store.set_eq_ok written
    refine ⟨rfl, rfl, ?_⟩
    change Keyed.find? (Store.withItem _ _ _).items key = _
    rw [Store.items_withItem, if_neg apart]

/-- A deed that writes, but nothing under a fingerprint of a family, leaves what stands there. -/
theorem Family.Lawful.after_elsewhere (lawful : family.Lawful) (usual : Int) (scene : Scene)
    {deed : Deed} (writes : deed.writes = true) (fingerprint : String)
    (elsewhere : ∀ note ∈ family.note? deed, note.fingerprint ≠ fingerprint) :
    (scene.after usual deed).now = scene.now ∧
      (scene.after usual deed).store.failing = scene.store.failing ∧
      (scene.after usual deed).store.items.find? (family.key fingerprint) =
        scene.store.items.find? (family.key fingerprint) := by
  cases noted : family.note? deed with
  | none =>
    obtain ⟨other, value, seconds, apart, after⟩ := lawful.others usual scene noted writes
    rw [after]
    exact scene.keeping_elsewhere (apart fingerprint) value seconds
  | some note =>
    obtain ⟨value, _, _, after⟩ := lawful.own usual scene noted
    rw [after]
    exact scene.keeping_elsewhere
      (fun same => elsewhere note noted (lawful.apart same).symm) value _

/-- A proper deed is done to the map as it is done to the cache. -/
theorem Shows.after (shown : Shows family scene memory) (lawful : family.Lawful)
    (kept : 0 < usual) {deed : Deed} (proper : deed.Proper) :
    Shows family (scene.after usual deed) (memory.after family usual deed) := by
  unfold Memory.after
  cases noted : family.note? deed with
  | some note => exact shown.noting lawful kept proper noted
  | none =>
    have elsewhere (writes : deed.writes = true) : Shows family (scene.after usual deed) memory := by
      have left fingerprint := lawful.after_elsewhere usual scene writes fingerprint
        (by rw [noted]; rintro _ ⟨⟩)
      exact ⟨(left "").1.trans shown.now, (left "").2.1.trans shown.failing, fun fingerprint =>
        (congrArg _ (left fingerprint).2.2).trans (shown.entries fingerprint)⟩
    cases deed with
    | prompt fingerprint entry asked => exact elsewhere rfl
    | query fingerprint entry asked => exact elsewhere rfl
    | wait span => exact ⟨congrArg (· + (span : Micros)) shown.now, shown.failing, shown.entries⟩
    | outage commands => exact ⟨shown.now, rfl, shown.entries⟩

/-- A history of proper deeds is gone through by the map as by the cache. -/
theorem Shows.foldl (shown : Shows family scene memory) (lawful : family.Lawful)
    (kept : 0 < usual) {deeds : List Deed} (proper : ∀ deed ∈ deeds, deed.Proper) :
    Shows family (deeds.foldl (Scene.after usual) scene)
      (deeds.foldl (Memory.after family usual) memory) := by
  induction deeds generalizing scene memory with
  | nil => exact shown
  | cons deed rest ih =>
    exact ih (shown.after lawful kept (proper deed List.mem_cons_self)) fun other later =>
      proper other (List.mem_cons_of_mem deed later)

/-! ## What was remembered last -/

/-- What stands in a map under a fingerprint stays until something else is remembered there. -/
theorem Memory.find?_foldl {fingerprint : String} {deeds : List Deed}
    (others : ∀ deed ∈ deeds, ∀ note ∈ family.note? deed, note.fingerprint ≠ fingerprint) :
    Keyed.find? (deeds.foldl (after family usual) memory).entries fingerprint =
      Keyed.find? memory.entries fingerprint := by
  induction deeds generalizing memory with
  | nil => rfl
  | cons deed rest ih =>
    refine (ih fun other later => others other (List.mem_cons_of_mem deed later)).trans ?_
    unfold after
    cases noted : family.note? deed with
    | some note =>
      have different := others deed List.mem_cons_self note noted
      simp only [noting]
      split
      · rfl
      · exact Keyed.find?_put_ne _ _ different.symm
    | none => cases deed <;> rfl

/-- What was remembered last under a fingerprint is found there, for as long as it was to last. -/
theorem Family.Lawful.find_last (lawful : family.Lawful) (kept : 0 < usual)
    {before later : List Deed} {deed : Deed} {note : Note α}
    (proper : ∀ one ∈ before ++ deed :: later, one.Proper) (noted : family.note? deed = some note)
    (last : ∀ one ∈ later, ∀ other ∈ family.note? one, other.fingerprint ≠ note.fingerprint)
    (writing : Command.set ∉ (Scene.run usual before).store.failing)
    (reading : Command.get ∉ (Scene.run usual (before ++ deed :: later)).store.failing) :
    (Scene.run usual (before ++ deed :: later)).find family note.fingerprint =
      .ok (if (Scene.run usual (before ++ deed :: later)).now <
          (Scene.run usual before).now + Micros.ofSeconds (Store.keepFor usual note.asked)
        then some note.entry else none) := by
  have first : Shows family (Scene.run usual before) (Memory.run family usual before) :=
    Shows.start.foldl lawful kept fun one member => proper one (List.mem_append_left _ member)
  have whole : Shows family (Scene.run usual (before ++ deed :: later))
      (Memory.run family usual (before ++ deed :: later)) := Shows.start.foldl lawful kept proper
  have held : Keyed.find? (Memory.run family usual (before ++ deed :: later)).entries
      note.fingerprint = some (note.entry, (Scene.run usual before).now +
        Micros.ofSeconds (Store.keepFor usual note.asked)) := by
    rw [Memory.run, List.foldl_append, List.foldl_cons, Memory.find?_foldl last,
      Memory.after_noted _ _ noted, ← Memory.run, Memory.noting,
      if_neg (first.failing ▸ writing), first.now]
    exact Keyed.find?_put_self _ _ _
  rw [whole.find, Memory.find, if_neg (whole.failing ▸ reading), Lasting.find?_of_held held,
    whole.now]

end Shows

/-! ## Look-ups -/

/-- What an item is read as comes from the document that its text is. -/
theorem Item.read?_eq_some {α : Type} {check : Value → Check α} {item : Item} {entry : α} :
    item.read? check = some entry ↔
      ∃ value, Json.read item.text = .ok value ∧ (check value).value? = some entry := by
  unfold Item.read?
  cases Json.read item.text <;> simp [Except.toOption]

/-- A family that is a map for whoever remembers entries and looks them up. -/
structure Family.IsMap {α : Type} (family : Family α) (usual : Int) : Prop where
  /-- After any history, a look-up answers what the map holds. -/
  follows {deeds : List Deed} (proper : ∀ deed ∈ deeds, deed.Proper) (fingerprint : String) :
    (Scene.run usual deeds).find family fingerprint =
      (Memory.run family usual deeds).find family fingerprint
  /-- What was remembered last under a fingerprint is found while it lasts, and nothing is found
  after that. -/
  last {before later : List Deed} {deed : Deed} {note : Note α}
    (proper : ∀ one ∈ before ++ deed :: later, one.Proper) (noted : family.note? deed = some note)
    (last : ∀ one ∈ later, ∀ other ∈ family.note? one, other.fingerprint ≠ note.fingerprint)
    (writing : Command.set ∉ (Scene.run usual before).store.failing)
    (reading : Command.get ∉ (Scene.run usual (before ++ deed :: later)).store.failing) :
    (Scene.run usual (before ++ deed :: later)).find family note.fingerprint =
      .ok (if (Scene.run usual (before ++ deed :: later)).now <
          (Scene.run usual before).now + Micros.ofSeconds (Store.keepFor usual note.asked)
        then some note.entry else none)
  /-- What is written in the other family or under another fingerprint does not change a look-up,
  whatever stands in the store. -/
  apart (scene : Scene) {deed : Deed} (writes : deed.writes = true) {fingerprint : String}
    (elsewhere : ∀ note ∈ family.note? deed, note.fingerprint ≠ fingerprint) :
    (scene.after usual deed).find family fingerprint = scene.find family fingerprint
  /-- A look-up fails where reading is out of order. -/
  fails {scene : Scene} (broken : Command.get ∈ scene.store.failing) (fingerprint : String) :
    scene.find family fingerprint =
      .error (.cache ("Cache read failed for " ++ family.key fingerprint))
  /-- Otherwise it answers, whatever stands in the store; an entry that it answers with is made of
  fields that stand in the text under its key. -/
  answers {scene : Scene} (reading : Command.get ∉ scene.store.failing) (fingerprint : String) :
    ∃ found, scene.find family fingerprint = .ok found ∧ ∀ entry ∈ found, ∃ item fields,
      scene.store.find? scene.now (family.key fingerprint) = some item ∧
        Json.read item.text = .ok (.object fields) ∧ family.IsReadIn entry fields

/-- A lawful family is a map. -/
theorem Family.Lawful.isMap {α : Type} {family : Family α} (lawful : family.Lawful) {usual : Int}
    (kept : 0 < usual) : family.IsMap usual where
  follows proper fingerprint := (Shows.start.foldl lawful kept proper).find fingerprint
  last := lawful.find_last kept
  apart scene _ writes fingerprint elsewhere := by
    obtain ⟨now, failing, same⟩ := lawful.after_elsewhere usual scene writes fingerprint elsewhere
    unfold Scene.find
    rw [Store.findEntry_eq, Store.findEntry_eq, Store.find?, Store.find?, now, failing, same]
  fails broken fingerprint := by rw [Scene.find, Store.findEntry_eq, if_pos broken]
  answers reading fingerprint := by
    refine ⟨_, by rw [Scene.find, Store.findEntry_eq, if_neg reading], fun entry read => ?_⟩
    obtain ⟨item, here, read⟩ := Option.bind_eq_some_iff.mp (Option.mem_def.mp read)
    obtain ⟨_, document, accepted⟩ := Item.read?_eq_some.mp read
    obtain ⟨fields, rfl, parts⟩ := lawful.reads.mp accepted
    exact ⟨item, fields, here, document, parts⟩

/-- The cache is two maps with entries that expire: looking up a prompt is looking into the one,
looking up a query is looking into the other. -/
theorem cache_is_two_maps {usual : Int} (kept : 0 < usual) :
    (prompts.IsMap usual ∧ ∀ (scene : Scene) fingerprint,
      scene.find prompts fingerprint = scene.store.findPrompt scene.now fingerprint) ∧
    queries.IsMap usual ∧ ∀ (scene : Scene) fingerprint,
      scene.find queries fingerprint = scene.store.findQuery scene.now fingerprint :=
  ⟨⟨prompts_lawful.isMap kept, fun _ _ => rfl⟩, queries_lawful.isMap kept, fun _ _ => rfl⟩

/-- What a prompt became is found for two seconds, the answer of a query under the same fingerprint
notwithstanding, and is gone at their end. -/
theorem two_maps_of_a_day : (0 : Int) < 86400 ∧
    (Scene.run 86400 [.prompt "a" ⟨"job", "question"⟩ (some 2), .query "a" ⟨"other", [], [], ""⟩ none,
      .wait 1999999]).find prompts "a" = .ok (some ⟨"job", "question"⟩) ∧
    (Scene.run 86400 [.prompt "a" ⟨"job", "question"⟩ (some 2), .query "a" ⟨"other", [], [], ""⟩ none,
      .wait 2000000]).find prompts "a" = .ok none := by
  have day : (0 : Int) < 86400 := by decide
  have remembered (span : Nat) := @Family.IsMap.last _ _ _ (cache_is_two_maps day).1.1 []
    [.query "a" ⟨"other", [], [], ""⟩ none, .wait span]
    (.prompt "a" ⟨"job", "question"⟩ (some 2)) ⟨"a", ⟨"job", "question"⟩, some 2⟩
    (by simp [Deed.Proper, QueryEntry.Faithful, Json.Readable, Json.FieldsReadable]) rfl
    (by simp [prompts]) (by decide)
  exact ⟨day, remembered 1999999 (by decide), remembered 2000000 (by decide)⟩

end QuestionDesk.Cache
