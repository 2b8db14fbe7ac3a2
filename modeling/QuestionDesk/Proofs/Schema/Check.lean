import Mathlib.Data.List.Forall2
import QuestionDesk.Schema.Check

/-!
# What checks accept

A check accepts a document exactly when it has a value. The lemmas say for each way of putting
checks together which documents it accepts, so that the readers of records are taken apart by
rewriting.
-/
namespace QuestionDesk

/-- A field that is present is among the fields under its name. -/
theorem Fields.mem_of_get? {fields : Fields} {name : String} {value : Value}
    (found : fields.get? name = some value) : (name, value) ∈ fields := by
  obtain ⟨before, after, rfl, _⟩ := List.lookup_eq_some_iff.mp found
  exact List.mem_append_right before List.mem_cons_self

namespace Schema.Check

variable {α β : Type}

/-- A valid check accepts its value. -/
@[simp]
theorem value?_valid (value : α) : (valid value).value? = some value := rfl

/-- A flawed check accepts nothing. -/
@[simp]
theorem value?_flawed (flaw : Flaw) : (flawed flaw : Check α).value? = none := rfl

/-- Joined checks accept what both accept. -/
theorem join_accepts {left : Check α} {right : Check β} {first : α} {second : β} :
    (left.join right).value? = some (first, second) ↔
      left.value? = some first ∧ right.value? = some second := by
  rw [value?_join]
  cases left.value? <;> cases right.value? <;> simp

/-- A required field is accepted when it is present and its value is. -/
theorem required_accepts {fields : Fields} {name : String} {check : Value → Check α} {value : α} :
    (required fields name check).value? = some value ↔
      ∃ found, fields.get? name = some found ∧ (check found).value? = some value := by
  unfold required
  rw [value?_within]
  cases fields.get? name <;> simp

/-- A field with a default is accepted when it is absent or its value is. -/
theorem optional_accepts {fields : Fields} {name : String} {default : α}
    {check : Value → Check α} {value : α} :
    (optional fields name default check).value? = some value ↔
      (fields.get? name = none ∧ value = default) ∨
        ∃ found, fields.get? name = some found ∧ (check found).value? = some value := by
  unfold optional
  cases fields.get? name with
  | none => simp [value?, eq_comm]
  | some found => simp [value?_within]

/-- No other fields are accepted than those allowed. -/
theorem noOthers_accepts {allowed : List String} {fields : Fields} :
    (noOthers allowed fields).value? = some () ↔ ∀ field ∈ fields, field.1 ∈ allowed := by
  induction fields with
  | nil => simp [noOthers, value?]
  | cons field rest rest_accepts =>
    obtain ⟨name, value⟩ := field
    by_cases known : name ∈ allowed
    · simp [noOthers, known, rest_accepts]
    · simp [noOthers, known, value?_map, value?_join, value?_within]

/-- The items of a list are accepted when each one is. -/
theorem itemsFrom_accepts {check : Value → Check α} {position : Nat} {items : List Value}
    {values : List α} :
    (itemsFrom check position items).value? = some values ↔
      List.Forall₂ (fun item value => (check item).value? = some value) items values := by
  induction items generalizing position values with
  | nil => simp [itemsFrom, value?, eq_comm]
  | cons item rest rest_accepts =>
    rw [itemsFrom, value?_map, Option.map_eq_some_iff]
    constructor
    · rintro ⟨⟨first, others⟩, both, rfl⟩
      rw [join_accepts, value?_within] at both
      exact .cons both.1 (rest_accepts.mp both.2)
    · intro all
      cases all with
      | cons first others =>
        refine ⟨(_, _), join_accepts.mpr ⟨?_, rest_accepts.mpr others⟩, rfl⟩
        rwa [value?_within]

/-- A list is accepted when each of its items is. -/
theorem listOf_accepts {check : Value → Check α} {value : Value} {values : List α} :
    (listOf check value).value? = some values ↔ ∃ items, value = .list items ∧
      List.Forall₂ (fun item value => (check item).value? = some value) items values := by
  cases value <;> simp [listOf, itemsFrom_accepts]

/-- A record is accepted when it is an object whose fields are. -/
theorem record_accepts {name : String} {check : Fields → Check α} {value : Value} {result : α} :
    (record name check value).value? = some result ↔
      ∃ fields, value = .object fields ∧ (check fields).value? = some result := by
  cases value <;> simp [record]

/-- A text is accepted as it is. -/
theorem text_accepts {value : Value} {result : String} :
    (text value).value? = some result ↔ value = .text result := by
  cases value <;> simp [text]

/-- An object is accepted as it is. -/
theorem anyObject_accepts {value : Value} {fields : Fields} :
    (anyObject value).value? = some fields ↔ value = .object fields := by
  cases value <;> simp [anyObject]

/-- A list of texts is accepted as it is. -/
theorem texts_accepts {value : Value} {values : List String} :
    (listOf text value).value? = some values ↔ value = .list (values.map .text) := by
  rw [listOf_accepts]
  constructor
  · rintro ⟨items, rfl, all⟩
    congr 1
    induction all with
    | nil => rfl
    | cons first _ rest => rw [List.map_cons, rest, text_accepts.mp first]
  · rintro rfl
    refine ⟨_, rfl, ?_⟩
    induction values with
    | nil => exact .nil
    | cons first rest rest_accepts => exact .cons rfl rest_accepts

/-- Alternatives accept what the first accepts, and what the second accepts and the first does
not. -/
theorem orElse_accepts {left right : Check α} {value : α} :
    (left.orElse right).value? = some value ↔
      left.value? = some value ∨ (left.value? = none ∧ right.value? = some value) := by
  rw [value?_orElse, Option.or_eq_some_iff]

end Schema.Check

end QuestionDesk
