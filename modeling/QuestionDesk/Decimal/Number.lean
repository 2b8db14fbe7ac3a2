import QuestionDesk.Decimal.Spelling

/-!
# Numbers of two kinds

A number is an integer of any size or a double. Numbers of either kind are compared by their
exact values; not-a-number compares with nothing.
-/
namespace QuestionDesk.Decimal

/-- An integer or a double. -/
inductive Number where
  /-- An integer of any size. -/
  | int (value : Int)
  /-- A double. -/
  | float (value : Double)
  deriving DecidableEq, Repr

/-- An exact value on the extended line. -/
inductive Extended where
  /-- Below every quotient. -/
  | bottom
  /-- A quotient with a positive denominator. -/
  | quotient (numerator : Int) (denominator : Nat)
  /-- Above every quotient. -/
  | top
  deriving DecidableEq, Repr

/-- Whether one exact value lies strictly below another. -/
def Extended.lt : Extended → Extended → Bool
  | .bottom, .bottom => false
  | .bottom, _ => true
  | .quotient .., .bottom => false
  | .quotient left leftUnit, .quotient right rightUnit => left * rightUnit < right * leftUnit
  | .quotient .., .top => true
  | .top, _ => false

/-- The exact value of a double, absent for not-a-number. -/
def Double.extended? : Double → Option Extended
  | .nan => none
  | .infinite negative => some (if negative then .bottom else .top)
  | .finite negative rank =>
    let (numerator, denominator) := quotient rank
    some (.quotient (if negative then -(numerator : Int) else numerator) denominator)

namespace Number

/-- The exact value of a number, absent for not-a-number. -/
def extended? : Number → Option Extended
  | .int value => some (.quotient value 1)
  | .float value => value.extended?

/-- Whether one number lies strictly below another. -/
def lt (left right : Number) : Bool :=
  match left.extended?, right.extended? with
  | some lower, some upper => lower.lt upper
  | _, _ => false

/-- Whether two numbers have the same exact value. -/
def same (left right : Number) : Bool :=
  match left.extended?, right.extended? with
  | some first, some second => !first.lt second && !second.lt first
  | _, _ => false

/-- The nearest double, absent for an integer too large for a finite one. -/
def toDouble? : Number → Option Double
  | .int value => Double.ofInt? value
  | .float value => some value

/-- The text of a number: all digits of an integer, the shortest text of a double. -/
def text : Number → String
  | .int value => integerText value
  | .float value => value.text

end Number

end QuestionDesk.Decimal
