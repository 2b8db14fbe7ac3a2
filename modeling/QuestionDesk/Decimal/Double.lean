import QuestionDesk.Decimal.Digits

/-!
# Double-precision numbers

A finite double is a sign and a rank: its position among the non-negative finite doubles in
increasing order. The rank determines the exact value `significand * 2 ^ exponent`, so two
doubles of one sign are ordered as their ranks are, and no value has a second representation.
A quotient of natural numbers is rounded to the nearest double, a tie going to the even rank.
-/
namespace QuestionDesk.Decimal

/-- The number of non-negative finite doubles. -/
abbrev finiteDoubles : Nat := 2047 * 2 ^ 52

/-- A double-precision number. -/
inductive Double where
  /-- Not a number. -/
  | nan
  /-- One of the two infinities. -/
  | infinite (negative : Bool)
  /-- The finite number with the given sign and rank. -/
  | finite (negative : Bool) (rank : Fin finiteDoubles)
  deriving DecidableEq, Repr

namespace Double

instance : Inhabited Double := ⟨.nan⟩

/-- The integral factor of the value that a rank denotes. -/
def significand (rank : Nat) : Nat :=
  if rank < 2 ^ 52 then rank else rank % 2 ^ 52 + 2 ^ 52

/-- The power of two of the value that a rank denotes, counted from the least one, -1074. -/
def scale (rank : Nat) : Nat := rank / 2 ^ 52 - 1

/-- The value of a rank as a quotient of natural numbers. -/
def quotient (rank : Nat) : Nat × Nat :=
  if 1074 ≤ scale rank then (significand rank * 2 ^ (scale rank - 1074), 1)
  else (significand rank, 2 ^ (1074 - scale rank))

/-- Zero with a sign. -/
def zero (negative : Bool) : Double := .finite negative ⟨0, by decide⟩

/-- The double of a rank, infinite when the rank is beyond the finite ones. -/
def ofRank (negative : Bool) (rank : Nat) : Double :=
  if h : rank < finiteDoubles then .finite negative ⟨rank, h⟩ else .infinite negative

/-- The nearest integer to a quotient, a tie going to the even one. -/
def roundQuotient (numerator denominator : Nat) : Nat :=
  let whole := numerator / denominator
  let rest := numerator % denominator
  if 2 * rest < denominator then whole
  else if denominator < 2 * rest then whole + 1
  else whole + whole % 2

/-- The power of two, counted from -1074, in whose multiples a positive quotient is rounded. -/
def roundingScale (numerator denominator : Nat) : Nat :=
  let guess := numerator.log2 + 1074 - (denominator.log2 + 53)
  if 2 ^ 53 * (denominator * 2 ^ guess) ≤ numerator * 2 ^ 1074 then guess + 1 else guess

/-- The rank of the double nearest to a positive quotient. -/
def nearestRank (numerator denominator : Nat) : Nat :=
  let scale := roundingScale numerator denominator
  scale * 2 ^ 52 + roundQuotient (numerator * 2 ^ 1074) (denominator * 2 ^ scale)

/-- The double nearest to a quotient with a positive denominator. -/
def ofQuotient (negative : Bool) (numerator denominator : Nat) : Double :=
  if numerator = 0 then zero negative else ofRank negative (nearestRank numerator denominator)

/-- The double nearest to an integer. -/
def ofInt (value : Int) : Double := ofQuotient (value < 0) value.natAbs 1

/-- The double nearest to an integer, absent when the integer is too large for a finite one. -/
def ofInt? (value : Int) : Option Double :=
  match ofInt value with
  | .finite negative rank => some (.finite negative rank)
  | _ => none

/-- The integer that a double equals, if it equals one. -/
def toInt? : Double → Option Int
  | .finite negative rank =>
    let (numerator, denominator) := quotient rank
    if numerator % denominator = 0 then
      let value : Int := (numerator / denominator : Nat)
      some (if negative then -value else value)
    else none
  | _ => none

/-- Whether a double is neither infinite nor not-a-number. -/
def isFinite : Double → Bool
  | .finite .. => true
  | _ => false

end Double

/-- A decimal number: `coefficient * 10 ^ exponent` with a sign. -/
structure Scientific where
  /-- Whether the number carries a minus sign. -/
  negative : Bool
  /-- The digits as a natural number. -/
  coefficient : Nat
  /-- The power of ten. -/
  exponent : Int
  deriving DecidableEq, Repr

namespace Scientific

/-- The absolute value of a decimal number as a quotient of natural numbers. -/
def quotient (number : Scientific) : Nat × Nat :=
  if 0 ≤ number.exponent then (number.coefficient * 10 ^ number.exponent.toNat, 1)
  else (number.coefficient, 10 ^ (-number.exponent).toNat)

/-- The double nearest to a decimal number. A number of at least `10 ^ 310` is infinite and one
below `10 ^ (-330)` is zero, whatever its digits. -/
def toDouble (number : Scientific) : Double :=
  let magnitude := ((number.coefficient.log2 * 30103 / 100000 : Nat) : Int) + number.exponent
  if number.coefficient = 0 then Double.zero number.negative
  else if 310 < magnitude then .infinite number.negative
  else if magnitude < -340 then Double.zero number.negative
  else Double.ofQuotient number.negative number.quotient.1 number.quotient.2

end Scientific

end QuestionDesk.Decimal
