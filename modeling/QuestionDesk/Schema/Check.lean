import QuestionDesk.Schema.Issue
import QuestionDesk.Value

/-!
# Checks

A check of a document either gives a value or a non-empty list of issues. Checks of the parts of
a document are joined so that the issues of all parts are collected, in the order of the parts.
-/
namespace QuestionDesk.Schema

/-- The outcome of a check. -/
inductive Check (α : Type) where
  /-- The document is in order. -/
  | valid (value : α)
  /-- The document has issues, at least one. -/
  | invalid (first : Issue) (rest : List Issue)
  deriving Repr

namespace Check

variable {α β γ : Type}

/-- The issues found. -/
def issues : Check α → List Issue
  | .valid _ => []
  | .invalid first rest => first :: rest

/-- The value, if the document is in order. -/
def value? : Check α → Option α
  | .valid value => some value
  | .invalid .. => none

/-- A check that finds one flaw at its own place. -/
def flawed (flaw : Flaw) : Check α := .invalid ⟨[], flaw⟩ []

/-- A check whose value is transformed. -/
def map (transform : α → β) : Check α → Check β
  | .valid value => .valid (transform value)
  | .invalid first rest => .invalid first rest

/-- Two checks joined; the issues of the left one come first. -/
def join : Check α → Check β → Check (α × β)
  | .valid left, .valid right => .valid (left, right)
  | .valid _, .invalid first rest => .invalid first rest
  | .invalid first rest, .valid _ => .invalid first rest
  | .invalid first rest, .invalid next more => .invalid first (rest ++ next :: more)

/-- A check of a part, its issues seen from the whole. -/
def within (step : Step) : Check α → Check α
  | .valid value => .valid value
  | .invalid first rest => .invalid (first.within step) (rest.map (Issue.within step))

/-- A check of two alternatives: the first that succeeds counts, and the issues of both are
reported when none does. -/
def orElse : Check α → Check α → Check α
  | .valid value, _ => .valid value
  | .invalid .., .valid value => .valid value
  | .invalid first rest, .invalid next more => .invalid first (rest ++ next :: more)

/-- A check of every item of a list from a position on. -/
def itemsFrom (check : Value → Check α) : Nat → List Value → Check (List α)
  | _, [] => .valid []
  | position, item :: rest =>
    (((check item).within (.item position)).join (itemsFrom check (position + 1) rest)).map
      fun pair => pair.1 :: pair.2

/-- A check of a list, each item at its position. -/
def listOf (check : Value → Check α) : Value → Check (List α)
  | .list items => itemsFrom check 0 items
  | _ => flawed .notList

/-- A check that also takes nothing. -/
def nullable (check : Value → Check α) : Value → Check (Option α)
  | .null => .valid none
  | value => (check value).map some

/-- A check of a field that has to be present. -/
def required (fields : Fields) (name : String) (check : Value → Check α) : Check α :=
  (match fields.get? name with
    | some value => check value
    | none => flawed .missing).within (.named name)

/-- A check of a field that has a default. -/
def optional (fields : Fields) (name : String) (default : α) (check : Value → Check α) : Check α :=
  match fields.get? name with
  | some value => (check value).within (.named name)
  | none => .valid default

/-- A check that no field has a name other than those allowed. -/
def noOthers (allowed : List String) : Fields → Check Unit
  | [] => .valid ()
  | (name, _) :: rest =>
    let others := noOthers allowed rest
    if allowed.contains name then others
    else (((flawed .unexpected : Check Unit).within (.named name)).join others).map fun _ => ()

/-- A check of an object that is to be the named record. -/
def record (name : String) (check : Fields → Check α) : Value → Check α
  | .object fields => check fields
  | _ => flawed (.notRecord name)

/-- A check of a text. -/
def text : Value → Check String
  | .text value => .valid value
  | _ => flawed .notText

/-- A check of an object of any fields. -/
def anyObject : Value → Check Fields
  | .object fields => .valid fields
  | _ => flawed .notObject

/-- A transformed check is valid exactly when the check is. -/
theorem value?_map (transform : α → β) (check : Check α) :
    (check.map transform).value? = check.value?.map transform := by
  cases check <;> rfl

/-- Joined checks are valid exactly when both are. -/
theorem value?_join (left : Check α) (right : Check β) :
    (left.join right).value? = left.value?.bind fun first => right.value?.map (first, ·) := by
  cases left <;> cases right <;> rfl

/-- Where a check stands does not change its value. -/
theorem value?_within (step : Step) (check : Check α) : (check.within step).value? = check.value? := by
  cases check <;> rfl

/-- Alternatives have the value of the first that is valid. -/
theorem value?_orElse (left right : Check α) :
    (left.orElse right).value? = left.value?.or right.value? := by
  cases left <;> cases right <;> rfl

end Check

end QuestionDesk.Schema
