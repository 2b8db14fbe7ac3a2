import QuestionDesk.Decimal.Shortest
import QuestionDesk.Proofs.Decimal.Digits
import QuestionDesk.Proofs.Decimal.Double

/-!
# Decimals that are read back

A decimal number of no more than `bitLimit` bits is read as the double nearest to its exact value,
so decimals of equal value are read alike. The shortest decimal of a double is read as the double.
-/
namespace QuestionDesk.Decimal

open Double (SameQuotient)

/-! ## Reading by value -/

/-- The number of bits up to which the estimate of places is within one of the truth. -/
def bitLimit : Nat := 3000

/-- The estimate of the number of places by the number of bits is within one of the truth. -/
theorem places_of_bits : ∀ bits < bitLimit,
    10 ^ (bits * 30103 / 100000) ≤ 2 ^ (bits + 1) ∧
      2 ^ (bits + 1) ≤ 2 * 10 ^ (bits * 30103 / 100000 + 1) := by
  -- The numbers of bits are checked in sixty blocks of fifty.
  have blocks : ∀ block < 60, ∀ bit < 50,
      10 ^ ((50 * block + bit) * 30103 / 100000) ≤ 2 ^ (50 * block + bit + 1) ∧
        2 ^ (50 * block + bit + 1) ≤
          2 * 10 ^ ((50 * block + bit) * 30103 / 100000 + 1) := by
    decide +kernel
  intro bits few
  unfold bitLimit at few
  have found := blocks (bits / 50) (by omega) (bits % 50) (by omega)
  rwa [Nat.div_add_mod] at found

/-- A number is within a factor of two of the powers of ten of its estimated places. -/
theorem bounds_of_bits {value : Nat} (positive : 0 < value) (few : value.log2 < bitLimit) :
    10 ^ (value.log2 * 30103 / 100000) ≤ 2 * value ∧
      value < 2 * 10 ^ (value.log2 * 30103 / 100000 + 1) := by
  obtain ⟨lower, upper⟩ := places_of_bits _ few
  have least : 2 ^ value.log2 ≤ value := Nat.log2_self_le (by omega)
  have most : value < 2 ^ (value.log2 + 1) := Nat.lt_log2_self
  rw [Nat.pow_succ] at lower
  exact ⟨by omega, by omega⟩

namespace Scientific

/-- The value of a decimal number has a positive denominator. -/
theorem quotient_denominator_pos (number : Scientific) : 0 < number.quotient.2 := by
  unfold quotient
  split
  · exact Nat.one_pos
  · exact Nat.pow_pos (by decide)

/-- The value of a decimal number is zero when its coefficient is. -/
theorem quotient_numerator_pos {number : Scientific} (positive : 0 < number.coefficient) :
    0 < number.quotient.1 := by
  unfold quotient
  split
  · exact Nat.mul_pos positive (Nat.pow_pos (by decide))
  · exact positive

/-- A number that is taken for infinite is at least two to the power of 1024. -/
theorem large_of_magnitude {number : Scientific} (positive : 0 < number.coefficient)
    (few : number.coefficient.log2 < bitLimit)
    (large : 310 < ((number.coefficient.log2 * 30103 / 100000 : Nat) : Int) + number.exponent) :
    number.quotient.2 * 2 ^ 1024 ≤ number.quotient.1 := by
  have bound := (bounds_of_bits positive few).1
  generalize number.coefficient.log2 * 30103 / 100000 = places at *
  have power : 2 * 2 ^ 1024 ≤ 10 ^ 311 := by decide +kernel
  unfold quotient
  split
  · next above =>
    have exponents : 10 ^ 311 ≤ 10 ^ (places + number.exponent.toNat) :=
      @Nat.pow_le_pow_right 10 (by decide) 311 _ (by omega)
    rw [Nat.pow_add] at exponents
    have more := Nat.mul_le_mul_right (10 ^ number.exponent.toNat) bound
    generalize 2 ^ 1024 = unit at *
    generalize 10 ^ 311 = limit at *
    rw [Nat.mul_assoc] at more
    simp only
    omega
  · next below =>
    have exponents : 10 ^ (311 + (-number.exponent).toNat) ≤ 10 ^ places :=
      Nat.pow_le_pow_right (by decide) (by omega)
    rw [Nat.pow_add] at exponents
    have more := Nat.mul_le_mul_right (10 ^ (-number.exponent).toNat) power
    generalize 2 ^ 1024 = unit at *
    generalize 10 ^ 311 = limit at *
    rw [Nat.mul_assoc, Nat.mul_comm unit] at more
    simp only
    omega

/-- A number that is taken for zero is less than half of the least positive double. -/
theorem small_of_magnitude {number : Scientific} (positive : 0 < number.coefficient)
    (few : number.coefficient.log2 < bitLimit)
    (small : ((number.coefficient.log2 * 30103 / 100000 : Nat) : Int) + number.exponent < -340) :
    2 * (number.quotient.1 * 2 ^ 1074) < number.quotient.2 := by
  have bound := (bounds_of_bits positive few).2
  generalize number.coefficient.log2 * 30103 / 100000 = places at *
  have power : 4 * 2 ^ 1074 ≤ 10 ^ 340 := by decide +kernel
  unfold quotient
  rw [if_neg (by omega)]
  have exponents : 10 ^ (340 + (places + 1)) ≤ 10 ^ (-number.exponent).toNat :=
    Nat.pow_le_pow_right (by decide) (by omega)
  rw [Nat.pow_add] at exponents
  have more := Nat.mul_le_mul_right (10 ^ (places + 1)) power
  have scaled := Nat.mul_lt_mul_of_pos_right bound (Nat.two_pow_pos 1074)
  generalize 2 ^ 1074 = unit at *
  generalize 10 ^ 340 = limit at *
  generalize 10 ^ (places + 1) = ten at *
  simp only
  have same : 4 * unit * ten = 2 * (2 * ten * unit) := by
    rw [Nat.mul_assoc 4, Nat.mul_comm unit, Nat.mul_assoc 2 ten]
    omega
  omega

/-- A decimal number of few bits is read as the double nearest to its value. -/
theorem toDouble_eq {number : Scientific} (few : number.coefficient.log2 < bitLimit) :
    number.toDouble =
      Double.ofQuotient number.negative number.quotient.1 number.quotient.2 := by
  simp only [toDouble]
  rcases Nat.eq_zero_or_pos number.coefficient with none | positive
  · have zero : number.quotient.1 = 0 := by
      unfold quotient
      split
      · rw [none]
        exact Nat.zero_mul _
      · exact none
    rw [if_pos none, Double.ofQuotient, if_pos zero]
  · have numerator := quotient_numerator_pos positive
    rw [if_neg (by omega)]
    split
    · next large =>
      have beyond := Double.finiteDoubles_le_nearestRank number.quotient_denominator_pos
        (large_of_magnitude positive few large)
      rw [Double.ofQuotient, if_neg (by omega), Double.ofRank, dif_neg (by omega)]
    · split
      · next small =>
        have none := Double.nearestRank_eq_zero numerator (small_of_magnitude positive few small)
        rw [Double.ofQuotient, if_neg (by omega), none]
        rfl
      · rfl

/-- Decimal numbers of equal value are read alike. -/
theorem toDouble_same {left right : Scientific} (fewLeft : left.coefficient.log2 < bitLimit)
    (fewRight : right.coefficient.log2 < bitLimit) (sign : left.negative = right.negative)
    (same : SameQuotient left.quotient.1 left.quotient.2 right.quotient.1 right.quotient.2) :
    left.toDouble = right.toDouble := by
  rw [toDouble_eq fewLeft, toDouble_eq fewRight, sign]
  exact Double.ofQuotient_same same left.quotient_denominator_pos right.quotient_denominator_pos _

/-- A factor of ten of the coefficient stands for one in the exponent. -/
theorem sameQuotient_mul_ten (negative : Bool) (coefficient : Nat) (exponent : Int) (count : Nat) :
    SameQuotient (quotient ⟨negative, coefficient * 10 ^ count, exponent⟩).1
      (quotient ⟨negative, coefficient * 10 ^ count, exponent⟩).2
      (quotient ⟨negative, coefficient, exponent + count⟩).1
      (quotient ⟨negative, coefficient, exponent + count⟩).2 := by
  unfold SameQuotient quotient
  simp only
  split
  · next above =>
    rw [if_pos (by omega)]
    have power : (exponent + count).toNat = count + exponent.toNat := by omega
    simp only [power, Nat.pow_add, Nat.mul_one, Nat.mul_assoc]
  · next below =>
    split
    · next reaches =>
      have power : count = (exponent + count).toNat + (-exponent).toNat := by omega
      simp only [Nat.mul_one, Nat.mul_assoc]
      rw [← Nat.pow_add, ← power]
    · next misses =>
      have power : (-exponent).toNat = count + (-(exponent + count)).toNat := by omega
      simp only [power, Nat.pow_add, Nat.mul_assoc]

/-- A factor of ten of the coefficient may be moved to the exponent. -/
theorem toDouble_mul_ten (negative : Bool) {coefficient count : Nat} (exponent : Int)
    (few : (coefficient * 10 ^ count).log2 < bitLimit) (less : coefficient.log2 < bitLimit) :
    toDouble ⟨negative, coefficient * 10 ^ count, exponent⟩ =
      toDouble ⟨negative, coefficient, exponent + count⟩ :=
  toDouble_same few less rfl (sameQuotient_mul_ten negative coefficient exponent count)

/-- A smaller number has no more bits. -/
theorem log2_mono {smaller greater : Nat} (below : smaller ≤ greater) :
    smaller.log2 ≤ greater.log2 := by
  rcases Nat.eq_zero_or_pos smaller with none | positive
  · rw [none]
    exact Nat.zero_le _
  · exact (Nat.le_log2 (by omega)).mpr (Nat.le_trans (Nat.log2_self_le (by omega)) below)

/-- A number below a power of two has no more bits than the exponent says. -/
theorem log2_lt_of_lt {value bits : Nat} (positive : 0 < bits) (below : value < 2 ^ bits) :
    value.log2 < bits := by
  rcases Nat.eq_zero_or_pos value with none | above
  · rw [none]
    exact positive
  · exact (Nat.log2_lt (by omega)).mpr below

/-- A decimal number without its trailing zeros is read as before. -/
theorem toDouble_trim {number : Scientific} (few : number.coefficient.log2 < bitLimit) :
    number.trim.toDouble = number.toDouble := by
  fun_induction trim number with
  | case1 number trailing same =>
    have less : (number.coefficient / 10).log2 < bitLimit :=
      Nat.lt_of_le_of_lt (log2_mono (Nat.div_le_self _ _)) few
    have whole : number.coefficient / 10 * 10 ^ 1 = number.coefficient := by
      rw [Nat.pow_one]
      exact Nat.div_mul_cancel (Nat.dvd_of_mod_eq_zero trailing.2)
    rw [same less]
    have moved := toDouble_mul_ten number.negative number.exponent
      (by rwa [whole]) less
    rw [whole] at moved
    exact moved.symm
  | case2 number _ => rfl

/-- A decimal number without its trailing zeros has the sign that it had. -/
theorem negative_trim (number : Scientific) : number.trim.negative = number.negative := by
  fun_induction trim number with
  | case1 number _ same => exact same
  | case2 number _ => rfl

/-- A decimal number without its trailing zeros has no greater coefficient. -/
theorem coefficient_trim_le (number : Scientific) :
    number.trim.coefficient ≤ number.coefficient := by
  fun_induction trim number with
  | case1 number _ most => exact Nat.le_trans most (Nat.div_le_self _ _)
  | case2 number _ => exact Nat.le_refl _

end Scientific

/-! ## The shortest decimal -/

/-- What is found on a grid is one of the two neighbours and is read as the double for which it was
sought. -/
theorem onGrid?_eq_some {rank : Nat} {exponent : Int} {number : Scientific}
    (found : onGrid? rank exponent = some number) :
    number.negative = false ∧ number.toDouble = Double.ofRank false rank ∧
      number.coefficient ≤
        (gridFloor (Double.quotient rank).1 (Double.quotient rank).2 exponent).1 + 1 := by
  have reads : ∀ {coefficient : Nat} {number : Scientific},
      (if Scientific.toDouble ⟨false, coefficient, exponent⟩ = Double.ofRank false rank then
        some (⟨false, coefficient, exponent⟩ : Scientific) else none) = some number →
      number.negative = false ∧ number.toDouble = Double.ofRank false rank ∧
        number.coefficient = coefficient := by
    intro coefficient number tried
    split at tried
    · next same =>
      cases tried
      exact ⟨rfl, same, rfl⟩
    · cases tried
  simp only [onGrid?] at found
  split at found
  all_goals
    rcases Option.or_eq_some_iff.mp found with first | ⟨_, second⟩
    · obtain ⟨sign, same, coefficient⟩ := reads first
      exact ⟨sign, same, by omega⟩
    · obtain ⟨sign, same, coefficient⟩ := reads second
      exact ⟨sign, same, by omega⟩

/-- The value of a finite double has a numerator below two to the power of 1024. -/
theorem quotient_numerator_lt {rank : Nat} (finite : rank < finiteDoubles) :
    (Double.quotient rank).1 < 2 ^ 1024 := by
  have bits := Double.significand_lt rank
  have scale : Double.scale rank ≤ 2045 := by
    unfold Double.scale finiteDoubles at *
    have below : rank / 2 ^ 52 < 2047 := (Nat.div_lt_iff_lt_mul (Nat.two_pow_pos 52)).mpr finite
    generalize rank / 2 ^ 52 = width at *
    omega
  unfold Double.quotient
  split
  · calc Double.significand rank * 2 ^ (Double.scale rank - 1074)
        < 2 ^ 53 * 2 ^ (Double.scale rank - 1074) :=
          Nat.mul_lt_mul_of_pos_right bits (Nat.two_pow_pos _)
      _ = 2 ^ (53 + (Double.scale rank - 1074)) := (Nat.pow_add _ _ _).symm
      _ ≤ 2 ^ 1024 := @Nat.pow_le_pow_right 2 (by decide) _ 1024 (by omega)
  · calc Double.significand rank < 2 ^ 53 := bits
      _ ≤ 2 ^ 1024 := @Nat.pow_le_pow_right 2 (by decide) 53 1024 (by decide)

/-- What is found on a grid has few bits. -/
theorem few_of_onGrid {rank : Nat} (finite : rank < finiteDoubles) {exponent : Int}
    (least : -357 ≤ exponent) {number : Scientific}
    (found : onGrid? rank exponent = some number) : number.coefficient.log2 < bitLimit := by
  obtain ⟨_, _, bound⟩ := onGrid?_eq_some found
  have numerator := quotient_numerator_lt finite
  have floor : (gridFloor (Double.quotient rank).1 (Double.quotient rank).2 exponent).1 ≤
      (Double.quotient rank).1 * 10 ^ 357 := by
    simp only [gridFloor]
    split
    · exact Nat.le_trans (Nat.div_le_self _ _)
        (Nat.le_mul_of_pos_right _ (@Nat.pow_pos 10 357 (by decide)))
    · exact Nat.le_trans (Nat.div_le_self _ _)
        (Nat.mul_le_mul_left _ (@Nat.pow_le_pow_right 10 (by decide) _ 357 (by omega)))
  have limit : 2 ^ 1024 * 10 ^ 357 + 1 < 2 ^ bitLimit := by
    unfold bitLimit
    decide +kernel
  have scaled := Nat.mul_le_mul_right (10 ^ 357) (Nat.le_of_lt numerator)
  apply Scientific.log2_lt_of_lt (show 0 < bitLimit by decide)
  generalize (Double.quotient rank).1 * 10 ^ 357 = value at *
  generalize 2 ^ 1024 * 10 ^ 357 = most at *
  generalize 2 ^ bitLimit = room at *
  omega

/-- A power of five times a power of two of the same exponent is the power of ten. -/
theorem sameQuotient_five (significand places : Nat) : SameQuotient
    (significand * 5 ^ places) (10 ^ places) significand (2 ^ places) := by
  unfold SameQuotient
  rw [Nat.mul_assoc, ← Nat.mul_pow]

/-- The exact decimal expansion of a double has few bits. -/
theorem few_of_exactDecimal {rank : Nat} (finite : rank < finiteDoubles) :
    (exactDecimal rank).coefficient.log2 < bitLimit := by
  apply Scientific.log2_lt_of_lt (show 0 < bitLimit by decide)
  have numerator := quotient_numerator_lt finite
  have large : 2 ^ 1024 < 2 ^ bitLimit :=
    @Nat.pow_lt_pow_right 2 1024 bitLimit (by decide) (by decide)
  have small : 2 ^ 53 * 5 ^ 1074 < 2 ^ bitLimit := by
    unfold bitLimit
    decide +kernel
  unfold exactDecimal
  split
  · exact Nat.lt_trans numerator large
  · have power : 5 ^ (1074 - Double.scale rank) ≤ 5 ^ 1074 :=
      @Nat.pow_le_pow_right 5 (by decide) _ 1074 (Nat.sub_le _ _)
    exact Nat.lt_of_le_of_lt
      (Nat.mul_le_mul (Nat.le_of_lt (Double.significand_lt rank)) power) small

/-- The exact decimal expansion of a double is read as the double. -/
theorem toDouble_exactDecimal {rank : Nat} (positive : 0 < rank) (finite : rank < finiteDoubles) :
    (exactDecimal rank).toDouble = Double.ofRank false rank := by
  rw [Scientific.toDouble_eq (few_of_exactDecimal finite), ← Double.ofQuotient_quotient positive]
  have sign : (exactDecimal rank).negative = false := by
    unfold exactDecimal
    split <;> rfl
  rw [sign]
  refine Double.ofQuotient_same ?_ (Scientific.quotient_denominator_pos _)
    (Double.quotient_denominator_pos rank) false
  unfold exactDecimal Scientific.quotient
  split
  · next whole =>
    unfold Double.quotient
    rw [if_pos whole]
    simp [SameQuotient]
  · next fraction =>
    have below : ¬(0 : Int) ≤ -((1074 - Double.scale rank : Nat) : Int) := by omega
    rw [if_neg below, Double.quotient, if_neg fraction, Int.neg_neg, Int.toNat_natCast]
    exact sameQuotient_five _ _

/-- The places before the point are no fewer than 340 below zero. -/
theorem placesBefore_ge (numerator denominator : Nat) :
    -340 ≤ placesBefore numerator denominator := by
  unfold placesBefore
  split
  · omega
  · split
    · next zeros found =>
      have below := List.mem_range.mp (List.mem_of_find?_eq_some found)
      omega
    · omega

/-- The shortest decimal of a double, whose sign is left out, is read as the double. -/
theorem toDouble_shortest {rank : Nat} (positive : 0 < rank) (finite : rank < finiteDoubles) :
    (shortestDecimal rank).negative = false ∧
      (shortestDecimal rank).coefficient.log2 < bitLimit ∧
        (shortestDecimal rank).toDouble = Double.ofRank false rank := by
  simp only [shortestDecimal]
  have found : ∀ number : Scientific, ((List.range 17).findSome? fun (extra : Nat) =>
      onGrid? rank (placesBefore (Double.quotient rank).1 (Double.quotient rank).2 -
        ((extra : Int) + 1))).getD (exactDecimal rank) = number →
      number.negative = false ∧ number.coefficient.log2 < bitLimit ∧
        number.toDouble = Double.ofRank false rank := by
    intro number same
    cases search : (List.range 17).findSome? fun (extra : Nat) =>
        onGrid? rank (placesBefore (Double.quotient rank).1 (Double.quotient rank).2 -
          ((extra : Int) + 1)) with
    | none =>
      rw [search, Option.getD_none] at same
      subst same
      refine ⟨?_, few_of_exactDecimal finite, toDouble_exactDecimal positive finite⟩
      unfold exactDecimal
      split <;> rfl
    | some other =>
      rw [search, Option.getD_some] at same
      subst same
      obtain ⟨extra, member, here⟩ := List.exists_of_findSome?_eq_some search
      have least := placesBefore_ge (Double.quotient rank).1 (Double.quotient rank).2
      have few := List.mem_range.mp member
      obtain ⟨sign, reads, _⟩ := onGrid?_eq_some here
      exact ⟨sign, few_of_onGrid finite (by omega) here, reads⟩
  obtain ⟨sign, few, reads⟩ := found _ rfl
  exact ⟨(Scientific.negative_trim _).trans sign,
    Nat.lt_of_le_of_lt (Scientific.log2_mono (Scientific.coefficient_trim_le _)) few,
    (Scientific.toDouble_trim few).trans reads⟩

/-- The shortest decimal of a double is read as the double, whatever the sign. -/
theorem toDouble_shortestDecimal {rank : Nat} (positive : 0 < rank) (finite : rank < finiteDoubles)
    (negative : Bool) :
    Scientific.toDouble ⟨negative, (shortestDecimal rank).coefficient,
      (shortestDecimal rank).exponent⟩ = .finite negative ⟨rank, finite⟩ := by
  obtain ⟨sign, few, reads⟩ := toDouble_shortest positive finite
  rw [Scientific.toDouble_eq few, sign] at reads
  have signed := Double.ofQuotient_sign positive finite reads negative
  rw [@Scientific.toDouble_eq ⟨negative, _, _⟩ few]
  exact signed.trans (dif_pos finite)

/-- The shortest decimal of a positive double is positive. -/
theorem shortestDecimal_pos {rank : Nat} (positive : 0 < rank) (finite : rank < finiteDoubles) :
    0 < (shortestDecimal rank).coefficient := by
  rcases Nat.eq_zero_or_pos (shortestDecimal rank).coefficient with none | some
  · have ranks := congrArg Double.rankOf (toDouble_shortestDecimal positive finite false)
    rw [none, Scientific.toDouble, if_pos rfl] at ranks
    change 0 = rank at ranks
    omega
  · exact some

end QuestionDesk.Decimal
