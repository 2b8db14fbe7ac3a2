import QuestionDesk.Proofs.Json.Numbers
import QuestionDesk.Proofs.Json.Texts

/-!
# Values in JSON texts

A value is readable when its integers have few enough digits and no object has two fields of one
name. What is read is readable, and a readable value is read back from its text wherever there is
room for the levels in which it nests.
-/
namespace QuestionDesk.Json

open Decimal (digits isDigit isDigit_of_mem_digits)

mutual

/-- A value that a text can hold: its integers have few enough digits, and the names of the fields
of an object differ. -/
def Readable : Value → Prop
  | .int value => (digits value.natAbs).length ≤ digitLimit
  | .list items => ItemsReadable items
  | .object fields => (fields.map Prod.fst).Nodup ∧ FieldsReadable fields
  | _ => True

/-- All items are readable. -/
def ItemsReadable : List Value → Prop
  | [] => True
  | item :: items => Readable item ∧ ItemsReadable items

/-- The values of all fields are readable. -/
def FieldsReadable : List (String × Value) → Prop
  | [] => True
  | (_, value) :: fields => Readable value ∧ FieldsReadable fields

end

mutual

/-- In how many levels of lists and objects a value nests. -/
def levels : Value → Nat
  | .list items => itemLevels items + 1
  | .object fields => fieldLevels fields + 1
  | _ => 0

/-- In how many levels the deepest one of some items nests. -/
def itemLevels : List Value → Nat
  | [] => 0
  | item :: items => max (levels item) (itemLevels items)

/-- In how many levels the deepest one of the values of some fields nests. -/
def fieldLevels : List (String × Value) → Nat
  | [] => 0
  | (_, value) :: fields => max (levels value) (fieldLevels fields)

end

/-- Items are readable when each of them is. -/
theorem itemsReadable_iff {items : List Value} :
    ItemsReadable items ↔ ∀ item ∈ items, Readable item := by
  induction items with
  | nil => simp [ItemsReadable]
  | cons item items same => simp [ItemsReadable, same]

/-- Fields are readable when the value of each of them is. -/
theorem fieldsReadable_iff {fields : List (String × Value)} :
    FieldsReadable fields ↔ ∀ field ∈ fields, Readable field.2 := by
  induction fields with
  | nil => simp [FieldsReadable]
  | cons field fields same =>
    obtain ⟨name, value⟩ := field
    simp [FieldsReadable, same]

/-! ## Fields -/

/-- The names of fields with one value written: the name is new, or it was there before. -/
theorem map_fst_set (fields : Fields) (name : String) (value : Value) :
    (fields.set name value).map Prod.fst =
      if name ∈ fields.map Prod.fst then fields.map Prod.fst
      else fields.map Prod.fst ++ [name] := by
  induction fields with
  | nil => rfl
  | cons field fields names =>
    simp only [Fields.set, List.map_cons]
    by_cases same : field.1 = name
    · simp [same]
    · have other : ¬name = field.1 := fun equal => same equal.symm
      simp only [same, if_false, List.map_cons, names, List.mem_cons, other, false_or]
      split <;> rfl

/-- A field that is written is the new one or one of those before. -/
theorem mem_set {fields : Fields} {name : String} {value : Value} {field : String × Value}
    (member : field ∈ fields.set name value) : field = (name, value) ∨ field ∈ fields := by
  induction fields with
  | nil => exact Or.inl (List.mem_singleton.mp member)
  | cons head fields before =>
    simp only [Fields.set] at member
    split at member
    · rcases List.mem_cons.mp member with new | old
      · exact Or.inl new
      · exact Or.inr (List.mem_cons_of_mem _ old)
    · rcases List.mem_cons.mp member with first | later
      · exact Or.inr (by rw [first]; exact List.mem_cons_self)
      · exact (before later).imp_right (List.mem_cons_of_mem _)

/-- A field under a new name is written at the end. -/
theorem set_new {fields : Fields} {name : String} (new : name ∉ fields.map Prod.fst)
    (value : Value) : fields.set name value = fields ++ [(name, value)] := by
  induction fields with
  | nil => rfl
  | cons field fields atEnd =>
    rw [List.map_cons, List.mem_cons, not_or] at new
    have other : ¬field.1 = name := fun same => new.1 same.symm
    simp only [Fields.set, other, if_false, List.cons_append, atEnd new.2]

/-- Pairs under different names, and none that is there already, become the fields behind those that
are there. -/
theorem foldl_set_new (pairs before : Fields)
    (different : ((before ++ pairs).map Prod.fst).Nodup) :
    pairs.foldl (fun fields pair => fields.set pair.1 pair.2) before = before ++ pairs := by
  induction pairs generalizing before with
  | nil => simp
  | cons pair pairs rest =>
    have new : pair.1 ∉ before.map Prod.fst := by
      rw [List.map_append, List.map_cons, List.nodup_append] at different
      exact fun old => different.2.2 pair.1 old pair.1 List.mem_cons_self rfl
    rw [List.foldl_cons, set_new new, rest]
    · simp
    · simpa using different

/-- Pairs under different names are the fields that they leave. -/
theorem ofPairs_of_nodup {pairs : Fields} (different : (pairs.map Prod.fst).Nodup) :
    Fields.ofPairs pairs = pairs := by
  simpa [Fields.ofPairs] using foldl_set_new pairs [] (by simpa using different)

/-- The names of the fields that pairs leave are different, and each field was among the pairs. -/
theorem ofPairs_sound (pairs : Fields) : ((Fields.ofPairs pairs).map Prod.fst).Nodup ∧
    ∀ field ∈ Fields.ofPairs pairs, field ∈ pairs := by
  -- The induction is on the pairs from the last one on.
  have step : ∀ pairs : Fields, ((pairs.reverse.foldr
      (fun pair fields => Fields.set fields pair.1 pair.2) []).map Prod.fst).Nodup ∧
        ∀ field ∈ pairs.reverse.foldr (fun pair fields => Fields.set fields pair.1 pair.2) [],
          field ∈ pairs := by
    intro pairs
    rw [← List.reverse_reverse pairs]
    generalize pairs.reverse = backward
    rw [List.reverse_reverse]
    induction backward with
    | nil => simp
    | cons pair backward before =>
      rw [List.foldr_cons, List.reverse_cons]
      constructor
      · rw [map_fst_set]
        split
        · exact before.1
        · next new =>
          rw [List.nodup_append]
          refine ⟨before.1, by simp, fun name old other same => ?_⟩
          rw [List.mem_singleton.mp same]
          rintro rfl
          exact new old
      · intro field member
        rcases mem_set member with new | old
        · rw [new]
          exact List.mem_append_right _ List.mem_cons_self
        · exact List.mem_append_left _ (before.2 field old)
  have folded := step pairs
  rw [List.foldr_reverse] at folded
  exact folded

/-! ## What is read is readable -/

/-- A number is a double or an integer of few digits. -/
theorem readUnsigned?_readable {negative : Bool} {chars rest : List Char} {value : Value}
    (read : readUnsigned? negative chars = some (.ok (value, rest))) : Readable value := by
  cases chars with
  | nil => cases read
  | cons first others =>
    simp only [readUnsigned?] at read
    split at read
    · next digit =>
      generalize split : (if first = '0' then ([first], others)
        else (first :: others.takeWhile isDigit, others.dropWhile isDigit)) = parts at read
      have all : ∀ char ∈ parts.1, isDigit char = true := by
        rw [← split]
        split
        · intro char member
          rw [List.mem_singleton.mp member, digit]
        · intro char member
          rcases List.mem_cons.mp member with head | tail
          · rw [head, digit]
          · exact List.all_eq_true.mp List.all_takeWhile char tail
      split at read
      · split at read
        · cases read
        · next short =>
          cases read
          have few : (digits (Decimal.readDigits parts.1 0)).length ≤ digitLimit := by
            apply Decimal.length_digits_le (show 0 < digitLimit by decide)
            have below := Decimal.readDigits_lt all 0
            rw [Nat.zero_add, Nat.one_mul] at below
            exact Nat.lt_of_lt_of_le below (Nat.pow_le_pow_right (by decide) (by omega))
          split
          · rw [Readable, Int.natAbs_neg]
            exact few
          · exact few
      · cases read
        trivial
    · cases read

/-- A number or a word for a special number is readable. -/
theorem readNumber_readable {chars rest : List Char} {value : Value}
    (read : readNumber chars = .ok (value, rest)) : Readable value := by
  have unsigned : ∀ {negative : Bool} {inner : List Char} {stop : Stop},
      (readUnsigned? negative inner).getD (.error stop) = .ok (value, rest) → Readable value := by
    intro negative inner stop gets
    cases found : readUnsigned? negative inner with
    | none =>
      rw [found] at gets
      cases gets
    | some answer =>
      rw [found, Option.getD_some] at gets
      rw [gets] at found
      exact readUnsigned?_readable found
  simp only [readNumber] at read
  split at read
  · split at read
    · cases read
      trivial
    · cases read
  · split at read
    · cases read
      trivial
    · cases read
  · split at read
    · cases read
      trivial
    · exact unsigned read
  · exact unsigned read

/-- An atom is readable. -/
theorem readAtom_readable {chars rest : List Char} {value : Value}
    (read : readAtom chars = .ok (value, rest)) : Readable value := by
  unfold readAtom at read
  split at read
  · cases read
    trivial
  · split at read
    · cases read
      trivial
    · split at read
      · cases read
        trivial
      · exact readNumber_readable read

/-- Values, items and fields that are read are readable, with any number of steps and any room. -/
theorem read_readable (depth : Nat) :
    (∀ {room chars rest value}, readValue depth room chars = .ok (value, rest) →
      Readable value) ∧
      (∀ {room chars rest items}, readItems depth room chars = .ok (items, rest) →
        ItemsReadable items) ∧
        ∀ {room chars rest pairs}, readMembers depth room chars = .ok (pairs, rest) →
          FieldsReadable pairs := by
  -- Each reader calls the others with one step less, so all three are followed on the steps.
  induction depth with
  | zero =>
    refine ⟨?_, ?_, ?_⟩ <;>
    · intro _ _ _ _ read
      cases read
  | succ depth before =>
    obtain ⟨values, items, members⟩ := before
    refine ⟨?_, ?_, ?_⟩
    · intro room chars rest value read
      simp only [readValue] at read
      split at read
      · split at read
        · cases read
          trivial
        · cases read
      · cases room with
        | zero => cases read
        | succ room =>
          simp only at read
          split at read
          · cases read
            exact ⟨List.nodup_nil, trivial⟩
          · split at read
            · next pairs _ inner =>
              cases read
              -- Whatever names were read twice, the fields that are kept are among those read.
              have sound := ofPairs_sound pairs
              have readable := fieldsReadable_iff.mp (members inner)
              exact ⟨sound.1, fieldsReadable_iff.mpr fun field member =>
                readable field (sound.2 field member)⟩
            · cases read
      · cases room with
        | zero => cases read
        | succ room =>
          simp only at read
          split at read
          · cases read
            trivial
          · split at read
            · next inner =>
              cases read
              exact items inner
            · cases read
      · exact readAtom_readable read
    · intro room chars rest list read
      simp only [readItems] at read
      split at read
      · cases read
      · next first =>
        split at read
        · cases read
          exact ⟨values first, trivial⟩
        · split at read
          · next others =>
            cases read
            exact ⟨values first, items others⟩
          · cases read
        · cases read
    · intro room chars rest pairs read
      simp only [readMembers] at read
      split at read
      · split at read
        · cases read
        · split at read
          · split at read
            · cases read
            · next first =>
              split at read
              · cases read
                exact ⟨values first, trivial⟩
              · split at read
                · next others =>
                  cases read
                  exact ⟨values first, members others⟩
                · cases read
              · cases read
          · cases read
      · cases read

/-- A document that is read with any room is readable. -/
theorem readable_of_readWithin {room : Nat} {text : String} {value : Value}
    (read : readWithin room text = .ok value) : Readable value := by
  simp only [readWithin] at read
  split at read
  · next answer =>
    cases read
    split at answer
    · cases answer
    · unfold readDocument at answer
      split at answer
      · cases answer
      · next inner =>
        split at answer
        · cases answer
          exact (read_readable _).1 inner
        · cases answer
  · cases read

/-- A document that is read is readable. -/
theorem readable_of_read {text : String} {value : Value} (read : Json.read text = .ok value) :
    Readable value := readable_of_readWithin read

/-- The body of a message that is read is readable. -/
theorem readable_of_readBody {text : String} {value : Value}
    (read : readBody text = .ok value) : Readable value := by
  unfold readBody at read
  split at read <;> exact readable_of_readWithin read

/-! ## What is written is read back -/

/-- The text of a number begins with nothing that begins another value or closes one. -/
theorem number_head {first : Char}
    (kind : isDigit first = true ∨ first = '-' ∨ first = 'N' ∨ first = 'I') :
    isSpace first = false ∧ first ∉ ['"', '[', ']', '\x7b', '\x7d', '\ufeff'] := by
  rcases kind with digit | rfl | rfl | rfl
  · have other : ∀ {char : Char}, isDigit char = false → ¬first = char :=
      fun none same => digit_ne digit none same.symm
    constructor
    · unfold isSpace
      simp only [Bool.or_eq_false_iff, decide_eq_false_iff_not]
      exact ⟨⟨⟨other rfl, other rfl⟩, other rfl⟩, other rfl⟩
    · simp only [List.mem_cons, List.not_mem_nil, or_false, not_or]
      exact ⟨other rfl, other rfl, other rfl, other rfl, other rfl, other rfl⟩
  all_goals decide

/-- The text of a value begins with something that is no white space and closes nothing. -/
theorem valueText_head (value : Value) : ∃ first others, valueText value = first :: others ∧
    isSpace first = false ∧ first ≠ ']' ∧ first ≠ '\x7d' ∧ first ≠ '\ufeff' := by
  have number : ∀ {chars : List Char}, (∃ first others, chars = first :: others ∧
      (isDigit first = true ∨ first = '-' ∨ first = 'N' ∨ first = 'I')) →
        ∃ first others, chars = first :: others ∧ isSpace first = false ∧ first ≠ ']' ∧
          first ≠ '\x7d' ∧ first ≠ '\ufeff' := by
    rintro chars ⟨first, others, written, kind⟩
    have head := number_head kind
    simp only [List.mem_cons, List.not_mem_nil, or_false, not_or] at head
    exact ⟨first, others, written, head.1, head.2.2.2.1, head.2.2.2.2.2.1, head.2.2.2.2.2.2⟩
  cases value with
  | null => exact ⟨'n', _, rfl, by decide⟩
  | bool value => cases value <;> exact ⟨_, _, rfl, by decide⟩
  | text value => exact ⟨'"', _, rfl, by decide⟩
  | list items => exact ⟨'[', _, rfl, by decide⟩
  | object fields => exact ⟨'\x7b', _, rfl, by decide⟩
  | int value => exact number (integerText_head value)
  | float value => exact number (numberText_head value)

/-- Nothing is skipped in front of something that is no white space. -/
theorem skipSpace_of_head {first : Char} (visible : isSpace first = false) (rest : List Char) :
    skipSpace (first :: rest) = first :: rest := by
  simp [skipSpace, visible]

/-- What begins like no text, list or object is read as an atom. -/
theorem readValue_atom (depth room : Nat) {first : Char} {rest : List Char}
    (kind : isDigit first = true ∨ first = '-' ∨ first = 'N' ∨ first = 'I') :
    readValue (depth + 1) room (first :: rest) = readAtom (first :: rest) := by
  have head := (number_head kind).2
  simp only [List.mem_cons, List.not_mem_nil, or_false, not_or] at head
  obtain ⟨quote, bracket, _, brace, _⟩ := head
  simp only [readValue]
  split
  · next same => exact absurd (List.cons.inj same).1 quote
  · next same => exact absurd (List.cons.inj same).1 brace
  · next same => exact absurd (List.cons.inj same).1 bracket
  · rfl

/-- No number goes on behind what closes or parts values. -/
theorem noNumber_of_mark {mark : Char} (one : mark = ']' ∨ mark = '\x7d' ∨ mark = ',')
    (rest : List Char) : NoNumberNext (mark :: rest) := by
  rintro char ⟨⟩
  rcases one with rfl | rfl | rfl <;> decide

/-- The text of items begins like that of the first one. -/
theorem itemsText_head (item : Value) (items : List Value) : ∃ first others,
    itemsText (item :: items) = first :: others ∧ isSpace first = false ∧ first ≠ ']' := by
  obtain ⟨first, others, written, visible, open_, _⟩ := valueText_head item
  cases items with
  | nil => exact ⟨first, others, by rw [itemsText, written], visible, open_⟩
  | cons next items =>
    exact ⟨first, _, by rw [itemsText, written]; rfl, visible, open_⟩

/-- The text of fields begins with a quote. -/
theorem fieldsText_head (field : String × Value) (fields : List (String × Value)) :
    ∃ others, fieldsText (field :: fields) = '"' :: others := by
  obtain ⟨name, value⟩ := field
  cases fields with
  | nil => exact ⟨_, rfl⟩
  | cons next fields => exact ⟨_, rfl⟩

/-- Nothing is skipped in front of the text of a value. -/
theorem skipSpace_valueText (value : Value) (rest : List Char) :
    skipSpace (valueText value ++ rest) = valueText value ++ rest := by
  obtain ⟨first, others, written, visible, _⟩ := valueText_head value
  rw [written, List.cons_append]
  exact skipSpace_of_head visible _

/-- Nothing is skipped in front of the text of items. -/
theorem skipSpace_itemsText (item : Value) (items : List Value) (rest : List Char) :
    skipSpace (itemsText (item :: items) ++ rest) = itemsText (item :: items) ++ rest := by
  obtain ⟨first, others, written, visible, _⟩ := itemsText_head item items
  rw [written, List.cons_append]
  exact skipSpace_of_head visible _

/-- Nothing is skipped in front of the text of fields. -/
theorem skipSpace_fieldsText (field : String × Value) (fields : List (String × Value))
    (rest : List Char) :
    skipSpace (fieldsText (field :: fields) ++ rest) = fieldsText (field :: fields) ++ rest := by
  obtain ⟨others, written⟩ := fieldsText_head field fields
  rw [written]
  rfl

/-- A blank in front of what is no white space is skipped. -/
theorem skipSpace_blank (chars : List Char) : skipSpace (' ' :: chars) = skipSpace chars := rfl

/-- A field is read, and the object ends behind a closing brace. -/
theorem readMembers_last {depth room : Nat} {value : Value} {rest after : List Char}
    (reads : readValue depth room (valueText value ++ rest) = .ok (value, rest))
    (closes : skipSpace rest = '\x7d' :: after) (name : String) :
    readMembers (depth + 1) room (quotedText name ++ [':', ' '] ++ valueText value ++ rest) =
      .ok ([(name, value)], after) := by
  have blanks : skipSpace (' ' :: (valueText value ++ rest)) = valueText value ++ rest :=
    (skipSpace_blank _).trans (skipSpace_valueText value rest)
  simp only [quotedText, List.cons_append, List.append_assoc, List.nil_append, readMembers,
    readQuoted_chars]
  rw [skipSpace_of_head (show isSpace ':' = false from rfl)]
  simp only [blanks, reads, closes, String.ofList_toList]

/-- A field is read, and behind a comma the others. -/
theorem readMembers_more {depth room : Nat} {value : Value} {rest more after : List Char}
    {pairs : List (String × Value)}
    (reads : readValue depth room (valueText value ++ rest) = .ok (value, rest))
    (goesOn : skipSpace rest = ',' :: more)
    (others : readMembers depth room (skipSpace more) = .ok (pairs, after)) (name : String) :
    readMembers (depth + 1) room (quotedText name ++ [':', ' '] ++ valueText value ++ rest) =
      .ok ((name, value) :: pairs, after) := by
  have blanks : skipSpace (' ' :: (valueText value ++ rest)) = valueText value ++ rest :=
    (skipSpace_blank _).trans (skipSpace_valueText value rest)
  simp only [quotedText, List.cons_append, List.append_assoc, List.nil_append, readMembers,
    readQuoted_chars]
  rw [skipSpace_of_head (show isSpace ':' = false from rfl)]
  simp only [blanks, reads, goesOn, others, String.ofList_toList]

mutual

/-- A readable value is read back from its text. -/
theorem readValue_valueText : (value : Value) → Readable value → ∀ {depth room : Nat},
    (valueText value).length ≤ depth → levels value ≤ room → ∀ {rest : List Char},
      NoNumberNext rest → readValue depth room (valueText value ++ rest) = .ok (value, rest)
  | value, readable, 0, _, enough, _, _, _ => by
    obtain ⟨first, others, written, _⟩ := valueText_head value
    rw [written] at enough
    exact absurd enough (Nat.not_succ_le_zero _)
  | .null, _, depth + 1, _, _, _, rest, _ => rfl
  | .bool value, _, depth + 1, _, _, _, rest, _ => by cases value <;> rfl
  | .int value, readable, depth + 1, room, _, _, rest, ends => by
    have reads := readAtom_integerText readable ends
    obtain ⟨first, others, written, kind⟩ := integerText_head value
    rw [valueText, written, List.cons_append, readValue_atom depth room kind, ← List.cons_append,
      ← written, reads]
  | .float value, _, depth + 1, room, _, _, rest, ends => by
    have reads := readAtom_numberText value ends
    obtain ⟨first, others, written, kind⟩ := numberText_head value
    rw [valueText, written, List.cons_append, readValue_atom depth room kind, ← List.cons_append,
      ← written, reads]
  | .text value, _, depth + 1, _, _, _, rest, _ => by
    simp only [valueText, quotedText, List.cons_append, List.append_assoc, List.nil_append,
      readValue, readQuoted_chars, String.ofList_toList]
  | .list items, _, depth + 1, 0, _, fits, _, _ => absurd fits (Nat.not_succ_le_zero _)
  | .object fields, _, depth + 1, 0, _, fits, _, _ => absurd fits (Nat.not_succ_le_zero _)
  | .list [], _, depth + 1, _ + 1, _, _, rest, _ => rfl
  | .list (item :: items), readable, depth + 1, room + 1, enough, fits, rest, _ => by
    have inner := readItems_itemsText (item :: items) (List.cons_ne_nil _ _) readable
      (show (itemsText (item :: items)).length < depth by
        simp only [valueText, List.length_cons, List.length_append, List.length_nil] at enough
        omega) (Nat.le_of_succ_le_succ fits) rest
    obtain ⟨first, others, written, visible, inside⟩ := itemsText_head item items
    simp only [valueText, List.cons_append, List.append_assoc, List.nil_append, readValue]
    rw [written, List.cons_append] at inner ⊢
    rw [skipSpace_of_head visible]
    split
    · next same => exact absurd (List.cons.inj same).1 inside
    · rw [inner]
  | .object [], _, depth + 1, _ + 1, _, _, rest, _ => rfl
  | .object (field :: fields), readable, depth + 1, room + 1, enough, fits, rest, _ => by
    have inner := readMembers_fieldsText (field :: fields) (List.cons_ne_nil _ _) readable.2
      (show (fieldsText (field :: fields)).length < depth by
        simp only [valueText, List.length_cons, List.length_append, List.length_nil] at enough
        omega) (Nat.le_of_succ_le_succ fits) rest
    obtain ⟨others, written⟩ := fieldsText_head field fields
    have same := ofPairs_of_nodup readable.1
    simp only [valueText, List.cons_append, List.append_assoc, List.nil_append, readValue]
    rw [written, List.cons_append] at inner ⊢
    rw [skipSpace_of_head (show isSpace '"' = false from rfl)]
    split
    · next closed => cases (List.cons.inj closed).1
    · rw [inner]
      exact congrArg (fun fields => Except.ok (Value.object fields, rest)) same

/-- Readable items are read back from their text. -/
theorem readItems_itemsText : (items : List Value) → items ≠ [] → ItemsReadable items →
    ∀ {depth room : Nat}, (itemsText items).length < depth → itemLevels items ≤ room →
      ∀ rest : List Char, readItems depth room (itemsText items ++ ']' :: rest) = .ok (items, rest)
  | [], filled, _, _, _, _, _, _ => absurd rfl filled
  | [item], _, readable, depth + 1, room, enough, fits, rest => by
    have first := readValue_valueText item readable.1 (show (valueText item).length ≤ depth from
      Nat.le_of_lt_succ enough) (Nat.max_le.mp fits).1 (noNumber_of_mark (Or.inl rfl) rest)
    simp only [readItems, itemsText, first]
    rfl
  | item :: next :: items, _, readable, depth + 1, room, enough, fits, rest => by
    simp only [itemsText, List.length_append, List.length_cons, List.length_nil] at enough
    have first := readValue_valueText item readable.1
      (show (valueText item).length ≤ depth by omega) (Nat.max_le.mp fits).1
      (noNumber_of_mark (Or.inr (Or.inr rfl)) (' ' :: (itemsText (next :: items) ++ ']' :: rest)))
    have others := readItems_itemsText (next :: items) (List.cons_ne_nil _ _) readable.2
      (show (itemsText (next :: items)).length < depth by
        obtain ⟨_, _, written, _⟩ := valueText_head item
        rw [written, List.length_cons] at enough
        omega) (Nat.max_le.mp fits).2 rest
    have blanks : skipSpace (' ' :: (itemsText (next :: items) ++ ']' :: rest)) =
        itemsText (next :: items) ++ ']' :: rest :=
      (skipSpace_blank _).trans (skipSpace_itemsText next items _)
    simp only [readItems, itemsText, List.append_assoc, List.cons_append, List.nil_append, first]
    rw [skipSpace_of_head (show isSpace ',' = false from rfl)]
    simp only [blanks, others]

/-- Readable fields are read back from their text. -/
theorem readMembers_fieldsText : (fields : List (String × Value)) → fields ≠ [] →
    FieldsReadable fields → ∀ {depth room : Nat}, (fieldsText fields).length < depth →
      fieldLevels fields ≤ room → ∀ rest : List Char,
        readMembers depth room (fieldsText fields ++ '\x7d' :: rest) = .ok (fields, rest)
  | [], filled, _, _, _, _, _, _ => absurd rfl filled
  | [(name, value)], _, readable, depth + 1, room, enough, fits, rest => by
    simp only [fieldsText, List.length_append, List.length_cons, List.length_nil] at enough
    have first := readValue_valueText value readable.1
      (show (valueText value).length ≤ depth by omega) (Nat.max_le.mp fits).1
      (noNumber_of_mark (Or.inr (Or.inl rfl)) rest)
    rw [fieldsText]
    exact readMembers_last first (skipSpace_of_head rfl rest) name
  | (name, value) :: next :: fields, _, readable, depth + 1, room, enough, fits, rest => by
    simp only [fieldsText, List.length_append, List.length_cons, List.length_nil] at enough
    have first := readValue_valueText value readable.1
      (show (valueText value).length ≤ depth by omega) (Nat.max_le.mp fits).1
      (noNumber_of_mark (Or.inr (Or.inr rfl))
        (' ' :: (fieldsText (next :: fields) ++ '\x7d' :: rest)))
    have others := readMembers_fieldsText (next :: fields) (List.cons_ne_nil _ _) readable.2
      (show (fieldsText (next :: fields)).length < depth by omega)
      (Nat.max_le.mp fits).2 rest
    have blanks : skipSpace (' ' :: (fieldsText (next :: fields) ++ '\x7d' :: rest)) =
        fieldsText (next :: fields) ++ '\x7d' :: rest :=
      (skipSpace_blank _).trans (skipSpace_fieldsText next fields _)
    rw [← blanks] at others
    have parted := readMembers_more first (skipSpace_of_head rfl _) others name
    simpa only [fieldsText, List.append_assoc, List.cons_append, List.nil_append] using parted

end

/-- A readable value is read back from its text where there is room for its levels. -/
theorem readWithin_write {value : Value} (readable : Readable value) {room : Nat}
    (fits : levels value ≤ room) : readWithin room (write value) = .ok value := by
  obtain ⟨first, others, written, visible, _, _, noMark⟩ := valueText_head value
  have reads := readValue_valueText value readable
    (show (valueText value).length ≤ (valueText value).length + 1 from Nat.le_succ _) fits
    (show NoNumberNext [] by rintro _ ⟨⟩)
  rw [List.append_nil] at reads
  have marked : ¬(valueText value).head? = some '\ufeff' := by
    rw [written]
    exact fun same => noMark (Option.some.inj same)
  have start : skipSpace (valueText value) = valueText value := by
    rw [written]
    exact skipSpace_of_head visible others
  simp only [readWithin, write, String.toList_ofList, marked, if_false, readDocument, start, reads]
  rfl

mutual

/-- Each level of a value takes a character of its text at least. -/
theorem levels_le : (value : Value) → levels value ≤ (valueText value).length
  | .null | .bool _ | .int _ | .float _ | .text _ => Nat.zero_le _
  | .list items => by
    have inside := itemLevels_le items
    simp only [levels, valueText, List.length_append, List.length_cons]
    omega
  | .object fields => by
    have inside := fieldLevels_le fields
    simp only [levels, valueText, List.length_append, List.length_cons]
    omega

/-- Each level of some items takes a character of their text at least. -/
theorem itemLevels_le : (items : List Value) → itemLevels items ≤ (itemsText items).length
  | [] => Nat.zero_le _
  | [item] => Nat.max_le.mpr ⟨levels_le item, Nat.zero_le _⟩
  | item :: next :: items => by
    have first := levels_le item
    have others := itemLevels_le (next :: items)
    rw [itemLevels, itemsText, List.length_append, List.length_append]
    omega

/-- Each level of some fields takes a character of their text at least. -/
theorem fieldLevels_le : (fields : List (String × Value)) →
    fieldLevels fields ≤ (fieldsText fields).length
  | [] => Nat.zero_le _
  | [(name, value)] => by
    have first := levels_le value
    simp only [fieldLevels, fieldsText, List.length_append]
    omega
  | (name, value) :: next :: fields => by
    have first := levels_le value
    have others := fieldLevels_le (next :: fields)
    rw [fieldLevels, fieldsText]
    simp only [List.length_append]
    omega

end

/-- A readable value is read back from its text. -/
theorem read_write {value : Value} (readable : Readable value) :
    Json.read (write value) = .ok value := by
  refine readWithin_write readable ?_
  rw [write, String.toList_ofList]
  exact levels_le value

/-! ## What nests too deep -/

/-- More opening brackets than there is room for are refused, whatever follows them. -/
theorem readValue_brackets {depth room count : Nat} (beyond : room < count)
    (enough : 2 * room < depth) (rest : List Char) :
    readValue depth room (List.replicate count '[' ++ rest) = .error (.tooDeep .list) := by
  -- Each bracket but the last takes a step of a list and one of its first item.
  induction room generalizing depth count with
  | zero =>
    obtain ⟨depth, rfl⟩ := Nat.exists_eq_add_of_lt enough
    obtain ⟨count, rfl⟩ := Nat.exists_eq_add_of_lt beyond
    rw [List.replicate_succ, List.cons_append, readValue]
  | succ room ih =>
    obtain ⟨depth, rfl⟩ : ∃ fewer, depth = fewer + 2 := ⟨depth - 2, by omega⟩
    obtain ⟨count, rfl⟩ : ∃ fewer, count = fewer + 2 := ⟨count - 2, by omega⟩
    have inner := @ih depth (count + 1) (by omega) (by omega)
    rw [List.replicate_succ, List.cons_append] at inner
    rw [List.replicate_succ, List.cons_append, List.replicate_succ, List.cons_append, readValue]
    simp only [skipSpace_of_head (show isSpace '[' = false from rfl), readItems]
    split
    · next closed => cases (List.cons.inj closed).1
    · rw [inner]

/-- A body of very many opening brackets nests too deep. -/
theorem readBody_brackets {count : Nat} (many : 2 * nestingLimit < count) :
    readBody (String.ofList (List.replicate count '[')) = .error (.tooDeep .list) := by
  obtain ⟨count, rfl⟩ : ∃ fewer, count = fewer + 1 := ⟨count - 1, by omega⟩
  have deep := @readValue_brackets (count + 1 + 1) nestingLimit (count + 1) (by omega) (by omega) []
  rw [List.append_nil] at deep
  rw [readBody, String.toList_ofList, List.replicate_succ]
  split
  · next marked => cases (List.cons.inj marked).1
  · rw [← List.replicate_succ]
    simp only [readWithin, String.toList_ofList, readDocument, List.length_replicate]
    rw [show skipSpace (List.replicate (count + 1) '[') = List.replicate (count + 1) '[' from rfl,
      deep]
    rfl

/-- Readable values with the same text are the same. -/
theorem write_inj {left right : Value} (readableLeft : Readable left)
    (readableRight : Readable right) (same : write left = write right) : left = right := by
  have reads := read_write readableLeft
  rw [same, read_write readableRight] at reads
  exact (Except.ok.inj reads).symm

end QuestionDesk.Json
