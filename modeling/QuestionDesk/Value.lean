import QuestionDesk.Decimal.Number

/-!
# Dynamic values

The values of JSON documents: nothing, truth values, integers of any size, doubles, texts, lists,
and objects whose fields keep the order in which they were first written. An integer and a double
of the same amount are different values; `Value.same` compares amounts.
-/
namespace QuestionDesk

open Decimal (Double Number)

/-- A dynamic value. -/
inductive Value where
  /-- Nothing. -/
  | null
  /-- A truth value. -/
  | bool (value : Bool)
  /-- An integer of any size. -/
  | int (value : Int)
  /-- A double. -/
  | float (value : Double)
  /-- A text. -/
  | text (value : String)
  /-- A list of values. -/
  | list (items : List Value)
  /-- An object with named fields. -/
  | object (fields : List (String × Value))
  deriving Repr

/-- The fields of an object in order. -/
abbrev Fields := List (String × Value)

/-- The kinds of dynamic values. -/
inductive Kind where
  /-- Nothing. -/
  | null
  /-- Truth values. -/
  | bool
  /-- Integers. -/
  | int
  /-- Doubles. -/
  | float
  /-- Texts. -/
  | text
  /-- Lists. -/
  | list
  /-- Objects. -/
  | object
  deriving DecidableEq, Repr

/-- The name of a kind in messages. -/
def Kind.name : Kind → String
  | .null => "NoneType"
  | .bool => "bool"
  | .int => "int"
  | .float => "float"
  | .text => "str"
  | .list => "list"
  | .object => "dict"

namespace Fields

/-- The value of a field. -/
def get? (fields : Fields) (name : String) : Option Value := fields.lookup name

/-- Whether a field is present. -/
def has (fields : Fields) (name : String) : Bool := (fields.get? name).isSome

/-- The value of a field, nothing when it is absent. -/
def get (fields : Fields) (name : String) : Value := (fields.get? name).getD .null

/-- The fields with one value written: in its place when the field is present, at the end when
it is not. -/
def set : Fields → String → Value → Fields
  | [], name, value => [(name, value)]
  | field :: rest, name, value =>
    if field.1 = name then (name, value) :: rest else field :: set rest name value

/-- The fields that pairs written one after the other leave. -/
def ofPairs (pairs : List (String × Value)) : Fields :=
  pairs.foldl (fun fields pair => fields.set pair.1 pair.2) []

/-- A field that was just written holds the value written. -/
theorem get?_set_self (fields : Fields) (name : String) (value : Value) :
    (fields.set name value).get? name = some value := by
  induction fields with
  | nil => simp [set, get?]
  | cons field rest ih =>
    obtain ⟨key, held⟩ := field
    by_cases same : key = name
    · simp [set, same, get?]
    · have different : (name == key) = false := by simpa using fun h => same h.symm
      simpa [set, same, get?, List.lookup_cons, different] using ih

/-- Writing a field leaves every other field as it was. -/
theorem get?_set_ne (fields : Fields) {name other : String} (value : Value)
    (different : other ≠ name) : (fields.set name value).get? other = fields.get? other := by
  induction fields with
  | nil =>
    have unequal : (other == name) = false := by simpa using different
    simp [set, get?, List.lookup_cons, unequal]
  | cons field rest ih =>
    obtain ⟨key, held⟩ := field
    by_cases same : key = name
    · have unequal : (other == name) = false := by simpa using different
      simp [set, same, get?, List.lookup_cons, unequal]
    · simp only [set, same, if_false, get?, List.lookup_cons]
      split
      · rfl
      · exact ih

/-- A field that was just written has the value written. -/
theorem get_set_self (fields : Fields) (name : String) (value : Value) :
    (fields.set name value).get name = value := by
  rw [get, get?_set_self]
  rfl

/-- Writing a field leaves the value of every other field. -/
theorem get_set_ne (fields : Fields) {name other : String} (value : Value)
    (different : other ≠ name) : (fields.set name value).get other = fields.get other := by
  rw [get, get, get?_set_ne fields value different]

/-- Writing a field leaves every other field present or absent. -/
theorem has_set_ne (fields : Fields) {name other : String} (value : Value)
    (different : other ≠ name) : (fields.set name value).has other = fields.has other := by
  rw [has, has, get?_set_ne fields value different]

end Fields

namespace Value

instance : Inhabited Value := ⟨.null⟩

/-- The kind of a value. -/
def kind : Value → Kind
  | .null => .null
  | .bool _ => .bool
  | .int _ => .int
  | .float _ => .float
  | .text _ => .text
  | .list _ => .list
  | .object _ => .object

/-- Whether a value counts as true: nothing, zero and everything empty count as false. -/
def isTruthy : Value → Bool
  | .null => false
  | .bool value => value
  | .int value => value != 0
  | .float (.finite _ rank) => rank.val != 0
  | .float _ => true
  | .text value => value != ""
  | .list items => !items.isEmpty
  | .object fields => !fields.isEmpty

/-- The number that a truth value, an integer or a double amounts to. -/
def amount? : Value → Option Number
  | .bool value => some (.int (if value then 1 else 0))
  | .int value => some (.int value)
  | .float value => some (.float value)
  | _ => none

/-- The text of a value that has no parts. -/
def shown : Value → String
  | .null => "None"
  | .bool value => if value then "True" else "False"
  | .int value => Decimal.integerText value
  | .float value => value.text
  | .text value => value
  | .list _ | .object _ => ""

mutual

/-- Whether a value holds only finite numbers. -/
def allFinite : Value → Bool
  | .float value => value.isFinite
  | .list items => itemsFinite items
  | .object fields => fieldsFinite fields
  | _ => true

/-- Whether all items hold only finite numbers. -/
def itemsFinite : List Value → Bool
  | [] => true
  | item :: items => allFinite item && itemsFinite items

/-- Whether all fields hold only finite numbers. -/
def fieldsFinite : List (String × Value) → Bool
  | [] => true
  | (_, value) :: fields => allFinite value && fieldsFinite fields

end

mutual

/-- Whether two values are equal up to the kinds of their numbers and the order of fields. -/
def same : Value → Value → Bool
  | .null, .null => true
  | .text left, .text right => left == right
  | .list left, .list right => sameItems left right
  | .object left, .object right => left.length == right.length && sameFields left right
  | left, right =>
    match left.amount?, right.amount? with
    | some first, some second => first.same second
    | _, _ => false

/-- Whether two lists hold equal values place by place. -/
def sameItems : List Value → List Value → Bool
  | [], [] => true
  | left :: lefts, right :: rights => same left right && sameItems lefts rights
  | _, _ => false

/-- Whether every field on the left has an equal value on the right. -/
def sameFields : List (String × Value) → List (String × Value) → Bool
  | [], _ => true
  | (name, left) :: lefts, rights =>
    (match rights.lookup name with
      | some right => same left right
      | none => false) && sameFields lefts rights

end

mutual

/-- Whether two values are equal. -/
def beq : Value → Value → Bool
  | .null, .null => true
  | .bool left, .bool right => left == right
  | .int left, .int right => left == right
  | .float left, .float right => left == right
  | .text left, .text right => left == right
  | .list left, .list right => beqItems left right
  | .object left, .object right => beqFields left right
  | _, _ => false

/-- Whether two lists of values are equal. -/
def beqItems : List Value → List Value → Bool
  | [], [] => true
  | left :: lefts, right :: rights => beq left right && beqItems lefts rights
  | _, _ => false

/-- Whether two sequences of fields are equal. -/
def beqFields : List (String × Value) → List (String × Value) → Bool
  | [], [] => true
  | (leftName, left) :: lefts, (rightName, right) :: rights =>
    leftName == rightName && beq left right && beqFields lefts rights
  | _, _ => false

end

mutual

/-- The equality test holds exactly of equal values. -/
theorem beq_iff : (left right : Value) → (beq left right = true ↔ left = right)
  | .null, right => by cases right <;> simp [beq]
  | .bool _, right => by cases right <;> simp [beq]
  | .int _, right => by cases right <;> simp [beq]
  | .float _, right => by cases right <;> simp [beq]
  | .text _, right => by cases right <;> simp [beq]
  | .list left, right => by
    cases right with
    | list right => simp [beq, beqItems_iff left right]
    | _ => simp [beq]
  | .object left, right => by
    cases right with
    | object right => simp [beq, beqFields_iff left right]
    | _ => simp [beq]

/-- The equality test of lists holds exactly of equal lists. -/
theorem beqItems_iff : (left right : List Value) → (beqItems left right = true ↔ left = right)
  | [], right => by cases right <;> simp [beqItems]
  | left :: lefts, right => by
    cases right with
    | nil => simp [beqItems]
    | cons right rights => simp [beqItems, beq_iff left right, beqItems_iff lefts rights]

/-- The equality test of fields holds exactly of equal fields. -/
theorem beqFields_iff :
    (left right : List (String × Value)) → (beqFields left right = true ↔ left = right)
  | [], right => by cases right <;> simp [beqFields]
  | (leftName, left) :: lefts, right => by
    cases right with
    | nil => simp [beqFields]
    | cons field rights =>
      obtain ⟨rightName, right⟩ := field
      simp [beqFields, beq_iff left right, beqFields_iff lefts rights, and_assoc]

end

instance : DecidableEq Value := fun left right => decidable_of_iff _ (beq_iff left right)

end Value

end QuestionDesk
