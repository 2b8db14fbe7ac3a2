import QuestionDesk.Decimal.Shortest

/-!
# Spelling of numbers

The text of a double is its shortest decimal number, written positionally while its leading digit
stands between the bounds of the spelling and with an exponent otherwise. Fixed spelling rounds
the exact value to a number of places, a half going to the even neighbour.
-/
namespace QuestionDesk.Decimal

/-- How numbers are spelled. -/
structure Spelling where
  /-- The least power of ten of a leading digit that is written positionally. -/
  lowest : Int
  /-- The first power of ten of a leading digit that is written with an exponent. -/
  highest : Int
  /-- The least number of digits of an exponent. -/
  exponentWidth : Nat
  /-- The text of not-a-number. -/
  nan : String
  /-- The text of positive infinity. -/
  infinity : String

/-- Numbers in query texts: positional from `1e-04` until below `1e+16`, exponents with a sign
and at least two digits. -/
def plainSpelling : Spelling := ⟨-4, 16, 2, "nan", "inf"⟩

/-- A sequence of zero digits. -/
def zeros (count : Nat) : List Char := List.replicate count '0'

/-- Decimal digits filled up with leading zeros to a least width. -/
def paddedDigits (width value : Nat) : List Char :=
  let written := digits value
  zeros (width - written.length) ++ written

/-- The characters of a non-negative decimal number under a spelling. -/
def Spelling.characters (spelling : Spelling) (coefficient : Nat) (exponent : Int) : List Char :=
  let written := digits coefficient
  let point : Int := (written.length : Int) + exponent
  let leading := point - 1
  if spelling.lowest ≤ leading ∧ leading < spelling.highest then
    if point ≤ 0 then '0' :: '.' :: (zeros (-point).toNat ++ written)
    else if (written.length : Int) ≤ point then
      written ++ zeros (point.toNat - written.length) ++ ['.', '0']
    else written.take point.toNat ++ '.' :: written.drop point.toNat
  else
    let fraction := if written.length = 1 then [] else '.' :: written.drop 1
    let sign := if leading < 0 then '-' else '+'
    written.take 1 ++ fraction ++ 'e' :: sign :: paddedDigits spelling.exponentWidth leading.natAbs

/-- The text of a double under a spelling. -/
def Spelling.text (spelling : Spelling) : Double → String
  | .nan => spelling.nan
  | .infinite negative => (if negative then "-" else "") ++ spelling.infinity
  | .finite negative rank =>
    let number := if rank.val = 0 then ⟨negative, 0, 0⟩ else shortestDecimal rank
    (if negative then "-" else "") ++
      String.ofList (spelling.characters number.coefficient number.exponent)

/-- The shortest text of a double in query texts. -/
def Double.text (value : Double) : String := plainSpelling.text value

/-- The text of a double with a fixed number of decimal places, at least one. -/
def Double.fixed (places : Nat) : Double → String
  | .nan => plainSpelling.nan
  | .infinite negative => (if negative then "-" else "") ++ plainSpelling.infinity
  | .finite negative rank =>
    let (numerator, denominator) := quotient rank
    let scaled := roundQuotient (numerator * 10 ^ places) denominator
    let written := paddedDigits (places + 1) scaled
    let whole := written.length - places
    (if negative then "-" else "") ++
      String.ofList (written.take whole ++ '.' :: written.drop whole)

end QuestionDesk.Decimal
