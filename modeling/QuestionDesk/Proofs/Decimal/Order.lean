import Mathlib.Algebra.Order.Field.Rat
import Mathlib.Order.WithBot
import QuestionDesk.Decimal.Number
import QuestionDesk.Proofs.Decimal.Double

/-!
# Order of numbers

Numbers of both kinds have their exact values on the rational line with its two ends, and one
number lies below another exactly if its value does. Not-a-number has no value, and compares with
nothing.
-/
namespace QuestionDesk.Decimal

/-- The rational line with its two ends. -/
abbrev Line := WithBot (WithTop ℚ)

/-- The place of an exact value on the line. -/
def Extended.place : Extended → Line
  | .bottom => ⊥
  | .quotient numerator denominator => ((numerator / denominator : ℚ) : WithTop ℚ)
  | .top => (⊤ : WithTop ℚ)

/-- The denominator of an exact value, where it has one, is positive. -/
def Extended.Proper : Extended → Prop
  | .quotient _ denominator => 0 < denominator
  | _ => True

/-- One exact value lies below another exactly if its place does. -/
theorem Extended.lt_iff {left right : Extended} (proper : left.Proper) (other : right.Proper) :
    left.lt right = true ↔ left.place < right.place := by
  cases left with
  | bottom => cases right <;> simp [Extended.lt, place]
  | top => cases right <;> simp [Extended.lt, place]
  | quotient numerator denominator =>
    cases right with
    | bottom => simp [Extended.lt, place]
    | top =>
      simp only [Extended.lt, place, WithBot.coe_lt_coe, true_iff]
      exact WithTop.coe_lt_top _
    | quotient top unit =>
      have below : (0 : ℚ) < denominator := by exact_mod_cast proper
      have beneath : (0 : ℚ) < unit := by exact_mod_cast other
      simp only [Extended.lt, place, decide_eq_true_eq, WithBot.coe_lt_coe, WithTop.coe_lt_coe]
      rw [div_lt_div_iff₀ below beneath]
      exact_mod_cast Iff.rfl

/-- The exact value of a number has a denominator. -/
theorem Number.proper_extended {number : Number} {value : Extended}
    (exact : number.extended? = some value) : value.Proper := by
  cases number with
  | int amount =>
    cases exact
    exact Nat.one_pos
  | float amount =>
    cases amount with
    | nan => cases exact
    | infinite negative => cases negative <;> cases exact <;> trivial
    | finite negative rank =>
      cases exact
      exact Double.quotient_denominator_pos rank

namespace Number

/-- The place of a number on the line. -/
def place? (number : Number) : Option Line := number.extended?.map Extended.place

/-- One number lies strictly below another. -/
def Below (number other : Number) : Prop :=
  ∃ lower upper, number.place? = some lower ∧ other.place? = some upper ∧ lower < upper

/-- One number is at least another. -/
def AtLeast (number other : Number) : Prop :=
  ∃ upper lower, number.place? = some upper ∧ other.place? = some lower ∧ lower ≤ upper

/-- Not-a-number alone has no place. -/
theorem place?_eq_none {number : Number} : number.place? = none ↔ number = .float .nan := by
  rw [place?, Option.map_eq_none_iff]
  cases number with
  | int amount => simp [extended?]
  | float amount => cases amount <;> simp [extended?, Double.extended?]

/-- The comparison of two numbers is that of their places. -/
theorem lt_iff {number other : Number} : number.lt other = true ↔ number.Below other := by
  unfold lt Below place?
  cases lower : number.extended? with
  | none => simp
  | some lower' =>
    cases upper : other.extended? with
    | none => simp
    | some upper' =>
      simp only [Option.map_some, Option.some.injEq, exists_and_left, exists_eq_left']
      exact Extended.lt_iff (proper_extended lower) (proper_extended upper)

/-- A number that does not lie below a bound that has a place is at least the bound, or it is not a
number. -/
theorem not_lt_iff {number bound : Number} (placed : bound ≠ .float .nan) :
    number.lt bound = false ↔ number = .float .nan ∨ number.AtLeast bound := by
  rw [← Bool.not_eq_true, lt_iff, ← place?_eq_none]
  obtain ⟨lower, here⟩ := Option.ne_none_iff_exists'.mp (mt place?_eq_none.mp placed)
  unfold Below AtLeast
  cases there : number.place? with
  | none => simp
  | some upper => simp [here]

/-- The double zero stands where the integer does. -/
theorem place?_zero : (Number.float (Double.zero false)).place? = (Number.int 0).place? := by
  -- The denominator of the double is too large to compute with, and does not matter.
  obtain ⟨denominator, exact⟩ : ∃ denominator,
      Double.extended? (.zero false) = some (.quotient 0 denominator) :=
    ⟨(Double.quotient 0).2, by decide +kernel⟩
  simp [place?, extended?, exact, Extended.place]

end Number

end QuestionDesk.Decimal
