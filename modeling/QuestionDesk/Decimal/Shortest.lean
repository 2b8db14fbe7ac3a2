import QuestionDesk.Decimal.Digits
import QuestionDesk.Decimal.Double

/-!
# Shortest decimals

Of the decimal numbers that are read as a given double, the shortest has the fewest digits and,
among those, lies nearest to it. For each number of digits the two neighbours of the value on the
grid of decimals with so many digits are tried. Every double is read back from its exact decimal
expansion, which stands behind the grids.
-/
namespace QuestionDesk.Decimal

/-- The number of decimal places before the point of a positive quotient: the `places` for which
it lies between `10 ^ (places - 1)` and `10 ^ places`. -/
def placesBefore (numerator denominator : Nat) : Int :=
  if denominator ≤ numerator then ((digits (numerator / denominator)).length : Int)
  else
    match (List.range 340).find? fun zeros => denominator ≤ numerator * 10 ^ (zeros + 1) with
    | some zeros => -(zeros : Int)
    | none => -340

/-- The neighbour below a quotient on the multiples of `10 ^ exponent`, with what is left over as
a quotient of natural numbers. -/
def gridFloor (numerator denominator : Nat) (exponent : Int) : Nat × Nat × Nat :=
  let (scaled, unit) :=
    if 0 ≤ exponent then (numerator, denominator * 10 ^ exponent.toNat)
    else (numerator * 10 ^ (-exponent).toNat, denominator)
  (scaled / unit, scaled % unit, unit)

/-- A decimal number of the given exponent that is read as the double of a rank, the nearer of the
two neighbours on the grid; between equally near ones the even coefficient is taken. -/
def onGrid? (rank : Nat) (exponent : Int) : Option Scientific :=
  let (numerator, denominator) := Double.quotient rank
  let (below, rest, unit) := gridFloor numerator denominator exponent
  let reads (coefficient : Nat) : Option Scientific :=
    let number : Scientific := ⟨false, coefficient, exponent⟩
    if number.toDouble = Double.ofRank false rank then some number else none
  if 2 * rest < unit ∨ (2 * rest = unit ∧ below % 2 = 0) then
    (reads below).or (reads (below + 1))
  else (reads (below + 1)).or (reads below)

/-- The exact decimal expansion of the double of a rank. -/
def exactDecimal (rank : Nat) : Scientific :=
  if 1074 ≤ Double.scale rank then ⟨false, (Double.quotient rank).1, 0⟩
  else
    let places := 1074 - Double.scale rank
    ⟨false, Double.significand rank * 5 ^ places, -(places : Int)⟩

/-- A decimal number without the trailing zeros of its coefficient. -/
def Scientific.trim (number : Scientific) : Scientific :=
  if h : number.coefficient ≠ 0 ∧ number.coefficient % 10 = 0 then
    Scientific.trim ⟨number.negative, number.coefficient / 10, number.exponent + 1⟩
  else number
termination_by number.coefficient
decreasing_by omega

/-- The shortest decimal number that is read as the double of a positive rank. -/
def shortestDecimal (rank : Nat) : Scientific :=
  let (numerator, denominator) := Double.quotient rank
  let places := placesBefore numerator denominator
  let found := (List.range 17).findSome? fun (extra : Nat) =>
    onGrid? rank (places - ((extra : Int) + 1))
  (found.getD (exactDecimal rank)).trim

end QuestionDesk.Decimal
