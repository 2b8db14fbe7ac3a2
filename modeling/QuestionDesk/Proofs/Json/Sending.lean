import QuestionDesk.Proofs.Json.Printable
import QuestionDesk.Proofs.Json.RoundTrip
import QuestionDesk.Proofs.Text.Halves

/-!
# Values that can be sent

A value can be sent exactly if all numbers in it are finite, there is room for its levels, and all
texts in it have a UTF-8 form. The marks between the parts of a value stand for no halves, so it
comes down to its texts whether its written form has a UTF-8 form.
-/
namespace QuestionDesk.Json

open Text (Whole half? halfRanges inRanges inRanges_of_half)

mutual

/-- All texts in a value have a UTF-8 form, the names of fields included. -/
def Encodable : Value → Prop
  | .text text => Text.flaw? text = none
  | .list items => ItemsEncodable items
  | .object fields => FieldsEncodable fields
  | _ => True

/-- All texts in items have a UTF-8 form. -/
def ItemsEncodable : List Value → Prop
  | [] => True
  | item :: items => Encodable item ∧ ItemsEncodable items

/-- All texts in fields have a UTF-8 form. -/
def FieldsEncodable : List (String × Value) → Prop
  | [] => True
  | (name, value) :: fields =>
    Text.flaw? name = none ∧ Encodable value ∧ FieldsEncodable fields

end

/-! ## Characters that stand for no half -/

/-- A character that stands for no half. -/
def Plain (char : Char) : Prop := inRanges halfRanges char = false

/-- A plain character stands for no half with the one behind it. -/
theorem Plain.half?_left {char : Char} (plain : Plain char) (next : Char) :
    half? char next = none := by
  by_contra half
  cases plain.symm.trans (inRanges_of_half half).1

/-- A plain character stands for no half with the one before it. -/
theorem Plain.half?_right {char : Char} (plain : Plain char) (last : Char) :
    half? last char = none := by
  by_contra half
  cases plain.symm.trans (inRanges_of_half half).2

/-- A printable character is plain. -/
theorem plain_of_printable {char : Char} (printable : isPrintable char = true) : Plain char := by
  simp only [isPrintable, Bool.and_eq_true, decide_eq_true_eq] at printable
  simp only [Plain, inRanges, halfRanges, List.any_cons, List.any_nil, Bool.or_false,
    Bool.or_eq_false_iff, Bool.and_eq_false_iff, decide_eq_false_iff_not]
  omega

/-- Printable characters are whole. -/
theorem whole_of_printable {chars : List Char} (printable : chars.all isPrintable = true) :
    Whole chars := by
  induction chars with
  | nil => exact List.IsChain.nil
  | cons char rest ih =>
    obtain ⟨first, others⟩ := Bool.and_eq_true_iff.mp (List.all_cons ▸ printable)
    exact List.isChain_cons.mpr
      ⟨fun next _ => (plain_of_printable first).half?_left next, ih others⟩

/-- Characters are whole around a plain one if they are on both sides of it. -/
theorem whole_around {mark : Char} (plain : Plain mark) {left right : List Char} :
    Whole (left ++ mark :: right) ↔ Whole left ∧ Whole right := by
  unfold Whole
  rw [List.isChain_append, List.isChain_cons]
  constructor
  · exact fun ⟨front, ⟨_, back⟩, _⟩ => ⟨front, back⟩
  · rintro ⟨front, back⟩
    refine ⟨front, ⟨fun next _ => plain.half?_left next, back⟩, fun last _ first head => ?_⟩
    rw [← Option.some.inj head]
    exact plain.half?_right last

/-- Characters are whole between two plain ones if they are. -/
theorem whole_between {opening closing : Char} (plainOpening : Plain opening)
    (plainClosing : Plain closing) (chars : List Char) :
    Whole (opening :: chars ++ [closing]) ↔ Whole chars := by
  have around : opening :: chars ++ [closing] = [] ++ opening :: (chars ++ closing :: []) := rfl
  rw [around, whole_around plainOpening, whole_around plainClosing]
  exact ⟨fun whole => whole.2.1, fun whole => ⟨List.IsChain.nil, whole, List.IsChain.nil⟩⟩

/-- Characters that are written as others are plain, and so are those they are written as. -/
theorem sentChar_cases (char : Char) : sentChar char = [char] ∨
    Plain char ∧ ∃ first others, sentChar char = first :: others ∧
      (sentChar char).all isPrintable = true := by
  unfold sentChar
  split
  · next escaped =>
    refine Or.inr ⟨?_, ?_⟩
    · rcases escaped with control | rfl | rfl
      · simp only [Plain, inRanges, halfRanges, List.any_cons, List.any_nil, Bool.or_false,
          Bool.or_eq_false_iff, Bool.and_eq_false_iff, decide_eq_false_iff_not]
        omega
      all_goals exact plain_of_printable (by decide)
    · cases written : charText char with
      | nil => exact absurd written (charText_ne_nil char)
      | cons first others => exact ⟨first, others, rfl, written ▸ isPrintable_charText char⟩
  · exact Or.inl rfl

/-- Characters are whole in the form in which they are sent exactly if they are whole. -/
theorem whole_sentChars (chars : List Char) : Whole (chars.flatMap sentChar) ↔ Whole chars := by
  induction chars with
  | nil => exact Iff.rfl
  | cons char rest ih =>
    -- What follows a character stands for a half with it in the one form if it does in the other.
    have heads : ∀ last, (∀ next ∈ (rest.flatMap sentChar).head?, half? last next = none) ↔
        ∀ next ∈ rest.head?, half? last next = none := by
      intro last
      cases rest with
      | nil => exact Iff.rfl
      | cons next more =>
        rcases sentChar_cases next with same | ⟨plain, first, others, written, printable⟩
        · rw [List.flatMap_cons, same]
          exact Iff.rfl
        · rw [List.flatMap_cons, written]
          rw [written, List.all_cons, Bool.and_eq_true] at printable
          have plainFirst := plain_of_printable printable.1
          constructor
          · rintro - _ ⟨⟩
            exact plain.half?_right last
          · rintro - _ ⟨⟩
            exact plainFirst.half?_right last
    unfold Whole at ih ⊢
    rw [List.flatMap_cons, List.isChain_cons]
    rcases sentChar_cases char with same | ⟨plain, first, others, written, printable⟩
    · rw [same, List.singleton_append, List.isChain_cons, heads, ih]
    · rw [List.isChain_append, ih]
      constructor
      · exact fun ⟨_, later, _⟩ => ⟨fun next _ => plain.half?_left next, later⟩
      · refine fun ⟨_, later⟩ => ⟨whole_of_printable printable, later, fun last ends next _ => ?_⟩
        have last := List.all_eq_true.mp printable last (List.mem_of_mem_getLast? ends)
        exact (plain_of_printable last).half?_left next

/-- A text has a UTF-8 form when it is sent exactly if it has one. -/
theorem whole_sentText (text : String) : Whole (sentText text) ↔ Text.flaw? text = none := by
  have quote : Plain '"' := plain_of_printable (by decide)
  rw [sentText, whole_between quote quote, whole_sentChars, Text.flaw?_eq_none_iff]

mutual

/-- A value has a UTF-8 form when it is sent exactly if all texts in it have one. -/
theorem whole_sentValue : (value : Value) → (Whole (sentValue value) ↔ Encodable value)
  | .null | .bool _ | .int _ | .float _ =>
    iff_of_true (whole_of_printable (isPrintable_valueText _)) trivial
  | .text text => whole_sentText text
  | .list items => by
    have opening : Plain '[' := plain_of_printable (by decide)
    have closing : Plain ']' := plain_of_printable (by decide)
    rw [sentValue, whole_between opening closing, whole_sentItems items]
    exact Iff.rfl
  | .object fields => by
    have opening : Plain '\x7b' := plain_of_printable (by decide)
    have closing : Plain '\x7d' := plain_of_printable (by decide)
    rw [sentValue, whole_between opening closing, whole_sentFields fields]
    exact Iff.rfl

/-- Items have a UTF-8 form when they are sent exactly if all texts in them have one. -/
theorem whole_sentItems : (items : List Value) → (Whole (sentItems items) ↔ ItemsEncodable items)
  | [] => iff_of_true List.IsChain.nil trivial
  | [item] => (whole_sentValue item).trans (and_iff_left trivial).symm
  | item :: next :: items => by
    have comma : Plain ',' := plain_of_printable (by decide)
    rw [sentItems, List.append_assoc, List.singleton_append, whole_around comma,
      whole_sentValue item, whole_sentItems (next :: items)]
    exact Iff.rfl

/-- Fields have a UTF-8 form when they are sent exactly if all texts in them have one. -/
theorem whole_sentFields : (fields : List (String × Value)) →
    (Whole (sentFields fields) ↔ FieldsEncodable fields)
  | [] => iff_of_true List.IsChain.nil trivial
  | [(name, value)] => by
    have colon : Plain ':' := plain_of_printable (by decide)
    rw [sentFields, List.append_assoc, List.singleton_append, whole_around colon,
      whole_sentText name, whole_sentValue value]
    exact and_congr_right fun _ => (and_iff_left trivial).symm
  | (name, value) :: next :: fields => by
    have colon : Plain ':' := plain_of_printable (by decide)
    have comma : Plain ',' := plain_of_printable (by decide)
    rw [sentFields, List.append_assoc, List.singleton_append, whole_around comma,
      List.append_assoc, List.singleton_append, whole_around colon, whole_sentText name,
      whole_sentValue value, whole_sentFields (next :: fields), and_assoc]
    exact Iff.rfl

end

/-! ## Numbers and levels -/

mutual

/-- Nothing but a text stops the writing of a value exactly if its numbers are finite and there is
room for its levels. -/
theorem valueHindrance?_eq_none_iff : (room : Nat) → (value : Value) →
    (valueHindrance? room value = none ↔ value.allFinite = true ∧ levels value ≤ room)
  | room, .null | room, .bool _ | room, .int _ | room, .text _ => by
    simp [valueHindrance?, Value.allFinite, levels]
  | room, .float value => by
    simp [valueHindrance?, Value.allFinite, levels]
  | 0, .list items => by simp [valueHindrance?, levels]
  | 0, .object fields => by simp [valueHindrance?, levels]
  | room + 1, .list items => by
    rw [valueHindrance?, itemsHindrance?_eq_none_iff room items, Value.allFinite, levels,
      Nat.succ_le_succ_iff]
  | room + 1, .object fields => by
    rw [valueHindrance?, fieldsHindrance?_eq_none_iff room fields, Value.allFinite, levels,
      Nat.succ_le_succ_iff]

/-- Nothing but a text stops the writing of items exactly if their numbers are finite and there is
room for their levels. -/
theorem itemsHindrance?_eq_none_iff : (room : Nat) → (items : List Value) →
    (itemsHindrance? room items = none ↔
      Value.itemsFinite items = true ∧ itemLevels items ≤ room)
  | room, [] => by simp [itemsHindrance?, Value.itemsFinite, itemLevels]
  | room, item :: items => by
    rw [itemsHindrance?, Option.or_eq_none_iff, valueHindrance?_eq_none_iff room item,
      itemsHindrance?_eq_none_iff room items, Value.itemsFinite, itemLevels, Nat.max_le,
      Bool.and_eq_true]
    tauto

/-- Nothing but a text stops the writing of fields exactly if their numbers are finite and there is
room for their levels. -/
theorem fieldsHindrance?_eq_none_iff : (room : Nat) → (fields : List (String × Value)) →
    (fieldsHindrance? room fields = none ↔
      Value.fieldsFinite fields = true ∧ fieldLevels fields ≤ room)
  | room, [] => by simp [fieldsHindrance?, Value.fieldsFinite, fieldLevels]
  | room, (name, value) :: fields => by
    rw [fieldsHindrance?, Option.or_eq_none_iff, valueHindrance?_eq_none_iff room value,
      fieldsHindrance?_eq_none_iff room fields, Value.fieldsFinite, fieldLevels, Nat.max_le,
      Bool.and_eq_true]
    tauto

end

mutual

/-- Whatever stops the writing of a value with finite numbers, it nests too deep. -/
theorem valueHindrance?_of_finite : (room : Nat) → (value : Value) → value.allFinite = true →
    ∀ {hindrance : Hindrance}, valueHindrance? room value = some hindrance → hindrance = .tooDeep
  | _, .null, _, _, stops | _, .bool _, _, _, stops | _, .int _, _, _, stops
  | _, .text _, _, _, stops => by simp [valueHindrance?] at stops
  | _, .float value, finite, _, stops => by
    rw [Value.allFinite] at finite
    simp [valueHindrance?, finite] at stops
  | 0, .list items, _, _, stops => (Option.some.inj stops).symm
  | 0, .object fields, _, _, stops => (Option.some.inj stops).symm
  | room + 1, .list items, finite, _, stops => itemsHindrance?_of_finite room items finite stops
  | room + 1, .object fields, finite, _, stops =>
    fieldsHindrance?_of_finite room fields finite stops

/-- Whatever stops the writing of items with finite numbers, they nest too deep. -/
theorem itemsHindrance?_of_finite : (room : Nat) → (items : List Value) →
    Value.itemsFinite items = true → ∀ {hindrance : Hindrance},
      itemsHindrance? room items = some hindrance → hindrance = .tooDeep
  | _, [], _, _, stops => by cases stops
  | room, item :: items, finite, _, stops => by
    obtain ⟨first, others⟩ := Bool.and_eq_true_iff.mp finite
    rw [itemsHindrance?, Option.or_eq_some_iff] at stops
    rcases stops with here | ⟨-, later⟩
    · exact valueHindrance?_of_finite room item first here
    · exact itemsHindrance?_of_finite room items others later

/-- Whatever stops the writing of fields with finite numbers, they nest too deep. -/
theorem fieldsHindrance?_of_finite : (room : Nat) → (fields : List (String × Value)) →
    Value.fieldsFinite fields = true → ∀ {hindrance : Hindrance},
      fieldsHindrance? room fields = some hindrance → hindrance = .tooDeep
  | _, [], _, _, stops => by cases stops
  | room, (name, value) :: fields, finite, _, stops => by
    obtain ⟨first, others⟩ := Bool.and_eq_true_iff.mp finite
    rw [fieldsHindrance?, Option.or_eq_some_iff] at stops
    rcases stops with here | ⟨-, later⟩
    · exact valueHindrance?_of_finite room value first here
    · exact fieldsHindrance?_of_finite room fields others later

end

/-- A value can be sent exactly if all numbers in it are finite, there is room for its levels, and
all texts in it have a UTF-8 form. -/
theorem hindrance?_eq_none_iff {room : Nat} {value : Value} : hindrance? room value = none ↔
    value.allFinite = true ∧ levels value ≤ room ∧ Encodable value := by
  rw [hindrance?, Option.or_eq_none_iff, valueHindrance?_eq_none_iff, Option.map_eq_none_iff,
    Text.flawAfter?_eq_none_iff, whole_sentValue, and_assoc]

/-- Of values with finite numbers those nest too deep for which there is no room. -/
theorem hindrance?_eq_tooDeep_iff {room : Nat} {value : Value} (finite : value.allFinite = true) :
    hindrance? room value = some .tooDeep ↔ room < levels value := by
  rw [hindrance?]
  cases stops : valueHindrance? room value with
  | some hindrance =>
    have deep := valueHindrance?_of_finite room value finite stops
    have none : ¬(value.allFinite = true ∧ levels value ≤ room) := fun fits => by
      rw [(valueHindrance?_eq_none_iff room value).mpr fits] at stops
      cases stops
    rw [Option.some_or, deep]
    exact iff_of_true rfl (Nat.lt_of_not_le fun fits => none ⟨finite, fits⟩)
  | none =>
    have fits := ((valueHindrance?_eq_none_iff room value).mp stops).2
    rw [Option.none_or]
    refine iff_of_false (fun deep => ?_) (Nat.not_lt.mpr fits)
    obtain ⟨flaw, -, other⟩ := Option.map_eq_some_iff.mp deep
    cases other

end QuestionDesk.Json
