import QuestionDesk.Decimal.Double

/-!
# Rounding to doubles

The scale at which a quotient is rounded depends on its value alone, and so does the double nearest
to it. A value that is a double is its own nearest double. A quotient that is large enough has an
infinite nearest double, and one that is small enough has zero.
-/
namespace QuestionDesk.Decimal.Double

/-! ## The scale of rounding -/

/-- The significand of a quotient fits in a number of bits at a scale above the least power of two.
-/
def Fits (bits least numerator denominator scale : Nat) : Prop :=
  numerator * 2 ^ least < 2 ^ bits * (denominator * 2 ^ scale)

section Fits

variable {bits least numerator denominator scale : Nat}

/-- A significand that fits at a scale fits at every greater one. -/
theorem Fits.mono {greater : Nat} (fits : Fits bits least numerator denominator scale)
    (above : scale ≤ greater) : Fits bits least numerator denominator greater := by
  have power : 2 ^ scale ≤ 2 ^ greater := Nat.pow_le_pow_right (by decide) above
  exact Nat.lt_of_lt_of_le fits (Nat.mul_le_mul_left _ (Nat.mul_le_mul_left _ power))

/-- The bits of both parts of a quotient bound it, so that its significand fits one above the scale
that they suggest. -/
theorem fits_guess (some : 0 < denominator) : Fits bits least numerator denominator
    (numerator.log2 + least - (denominator.log2 + bits) + 1) := by
  have upper : numerator < 2 ^ (numerator.log2 + 1) := Nat.lt_log2_self
  have lower : 2 ^ denominator.log2 ≤ denominator := Nat.log2_self_le (by omega)
  calc numerator * 2 ^ least
      < 2 ^ (numerator.log2 + 1) * 2 ^ least :=
        Nat.mul_lt_mul_of_pos_right upper (Nat.two_pow_pos _)
    _ = 2 ^ (numerator.log2 + 1 + least) := (Nat.pow_add _ _ _).symm
    _ ≤ 2 ^ (bits + (denominator.log2 +
          (numerator.log2 + least - (denominator.log2 + bits) + 1))) :=
        Nat.pow_le_pow_right (by decide) (by omega)
    _ = 2 ^ bits * (2 ^ denominator.log2 *
          2 ^ (numerator.log2 + least - (denominator.log2 + bits) + 1)) := by
        rw [← Nat.pow_add, ← Nat.pow_add]
    _ ≤ _ := Nat.mul_le_mul_left _ (Nat.mul_le_mul_right _ lower)

/-- The bits of both parts of a quotient bound it, so that its significand does not fit below the
scale that they suggest. -/
theorem not_fits_below_guess (positive : 0 < numerator)
    (below : scale < numerator.log2 + least - (denominator.log2 + bits)) :
    ¬Fits bits least numerator denominator scale := by
  have upper : denominator < 2 ^ (denominator.log2 + 1) := Nat.lt_log2_self
  have lower : 2 ^ numerator.log2 ≤ numerator := Nat.log2_self_le (by omega)
  apply Nat.not_lt.mpr
  calc 2 ^ bits * (denominator * 2 ^ scale)
      ≤ 2 ^ bits * (2 ^ (denominator.log2 + 1) * 2 ^ scale) :=
        Nat.mul_le_mul_left _ (Nat.mul_le_mul_right _ (Nat.le_of_lt upper))
    _ = 2 ^ (bits + (denominator.log2 + 1 + scale)) := by
        rw [← Nat.pow_add, ← Nat.pow_add]
    _ ≤ 2 ^ (numerator.log2 + least) := Nat.pow_le_pow_right (by decide) (by omega)
    _ = 2 ^ numerator.log2 * 2 ^ least := Nat.pow_add _ _ _
    _ ≤ numerator * 2 ^ least := Nat.mul_le_mul_right _ lower

end Fits

/-- The significand of a quotient fits at the scale of rounding. -/
theorem fits_roundingScale {numerator denominator : Nat} (some : 0 < denominator) :
    Fits 53 1074 numerator denominator (roundingScale numerator denominator) := by
  simp only [roundingScale]
  split
  · exact fits_guess some
  · next misses => exact Nat.lt_of_not_le misses

/-- The significand of a quotient does not fit at a scale below that of rounding. -/
theorem roundingScale_le {numerator denominator scale : Nat} (positive : 0 < numerator)
    (fits : Fits 53 1074 numerator denominator scale) :
    roundingScale numerator denominator ≤ scale := by
  simp only [roundingScale]
  split
  · next reaches =>
    rcases Nat.lt_or_ge (numerator.log2 + 1074 - (denominator.log2 + 53)) scale with above | below
    · exact above
    · exact absurd (fits.mono below) (Nat.not_lt.mpr reaches)
  · rcases Nat.lt_or_ge scale (numerator.log2 + 1074 - (denominator.log2 + 53)) with below | above
    · exact absurd fits (not_fits_below_guess positive below)
    · exact above

/-- The scale of rounding is the least at which the significand fits. -/
theorem roundingScale_eq {numerator denominator scale : Nat} (positive : 0 < numerator)
    (some : 0 < denominator) (fits : Fits 53 1074 numerator denominator scale)
    (least : ∀ smaller < scale, ¬Fits 53 1074 numerator denominator smaller) :
    roundingScale numerator denominator = scale := by
  apply Nat.le_antisymm (roundingScale_le positive fits)
  rcases Nat.lt_or_ge (roundingScale numerator denominator) scale with below | above
  · exact absurd (fits_roundingScale some) (least _ below)
  · exact above

/-! ## Equal quotients -/

section Same

variable {numerator denominator other unit : Nat}

/-- Two quotients have the same value. -/
def SameQuotient (numerator denominator other unit : Nat) : Prop :=
  numerator * unit = other * denominator

/-- Equal quotients are equal either way. -/
theorem SameQuotient.symm (same : SameQuotient numerator denominator other unit) :
    SameQuotient other unit numerator denominator :=
  Eq.symm same

/-- Equal quotients fit at the same scales. -/
theorem Fits.same {bits least scale : Nat} (fits : Fits bits least numerator denominator scale)
    (same : SameQuotient numerator denominator other unit) (some : 0 < unit) :
    Fits bits least other unit scale := by
  unfold Fits SameQuotient at *
  have scaled : numerator * 2 ^ least * unit < 2 ^ bits * (denominator * 2 ^ scale) * unit :=
    Nat.mul_lt_mul_of_pos_right fits some
  have swapped : other * 2 ^ least * denominator < 2 ^ bits * (unit * 2 ^ scale) * denominator := by
    calc other * 2 ^ least * denominator
        = other * denominator * 2 ^ least := by ac_rfl
      _ = numerator * 2 ^ least * unit := by rw [← same]; ac_rfl
      _ < 2 ^ bits * (denominator * 2 ^ scale) * unit := scaled
      _ = 2 ^ bits * (unit * 2 ^ scale) * denominator := by ac_rfl
  exact Nat.lt_of_mul_lt_mul_right swapped

/-- Of equal quotients one is positive when the other is. -/
theorem SameQuotient.positive (same : SameQuotient numerator denominator other unit)
    (positive : 0 < numerator) (some : 0 < unit) : 0 < other := by
  unfold SameQuotient at same
  rcases Nat.eq_zero_or_pos other with none | above
  · rw [none, Nat.zero_mul] at same
    have product := Nat.mul_pos positive some
    omega
  · exact above

/-- Equal quotients have the same scale of rounding. -/
theorem roundingScale_same (same : SameQuotient numerator denominator other unit)
    (positive : 0 < numerator) (some : 0 < denominator) (unitary : 0 < unit) :
    roundingScale numerator denominator = roundingScale other unit := by
  apply Nat.le_antisymm
  · exact roundingScale_le positive ((fits_roundingScale unitary).same same.symm some)
  · exact roundingScale_le (same.positive positive unitary)
      ((fits_roundingScale some).same same unitary)

/-- Rounding is the same for a quotient and one whose parts are multiplied by a number. -/
theorem roundQuotient_mul (numerator denominator : Nat) {factor : Nat} (some : 0 < factor) :
    roundQuotient (numerator * factor) (denominator * factor) =
      roundQuotient numerator denominator := by
  unfold roundQuotient
  simp only [Nat.mul_div_mul_right _ _ some, Nat.mul_mod_mul_right]
  have twice : 2 * (numerator % denominator * factor) = 2 * (numerator % denominator) * factor :=
    (Nat.mul_assoc _ _ _).symm
  simp only [twice, Nat.mul_lt_mul_right some]

/-- Rounding is the same for equal quotients. -/
theorem roundQuotient_same (same : SameQuotient numerator denominator other unit)
    (some : 0 < denominator) (unitary : 0 < unit) :
    roundQuotient numerator denominator = roundQuotient other unit := by
  rw [← roundQuotient_mul numerator denominator unitary, ← roundQuotient_mul other unit some, same,
    Nat.mul_comm denominator]

/-- Equal quotients are equal in other units. -/
theorem SameQuotient.scaled (same : SameQuotient numerator denominator other unit)
    (factor divisor : Nat) :
    SameQuotient (numerator * factor) (denominator * divisor) (other * factor)
      (unit * divisor) := by
  unfold SameQuotient at *
  calc numerator * factor * (unit * divisor)
      = numerator * unit * (factor * divisor) := by ac_rfl
    _ = other * factor * (denominator * divisor) := by rw [same]; ac_rfl

/-- The nearest rank is made of the scale of rounding and the rounded significand. -/
theorem nearestRank_eq (numerator denominator : Nat) : nearestRank numerator denominator =
    roundingScale numerator denominator * 2 ^ 52 + roundQuotient (numerator * 2 ^ 1074)
      (denominator * 2 ^ roundingScale numerator denominator) :=
  rfl

/-- Equal quotients have the same nearest rank. -/
theorem nearestRank_same (same : SameQuotient numerator denominator other unit)
    (positive : 0 < numerator) (some : 0 < denominator) (unitary : 0 < unit) :
    nearestRank numerator denominator = nearestRank other unit := by
  have rounded : ∀ factor scale : Nat, roundQuotient (numerator * factor)
      (denominator * 2 ^ scale) = roundQuotient (other * factor) (unit * 2 ^ scale) := by
    intro factor scale
    exact roundQuotient_same (same.scaled factor (2 ^ scale))
      (Nat.mul_pos some (Nat.two_pow_pos _)) (Nat.mul_pos unitary (Nat.two_pow_pos _))
  rw [nearestRank_eq, nearestRank_eq, roundingScale_same same positive some unitary, rounded]

/-- Equal quotients have the same nearest double. -/
theorem ofQuotient_same (same : SameQuotient numerator denominator other unit)
    (some : 0 < denominator) (unitary : 0 < unit) (negative : Bool) :
    ofQuotient negative numerator denominator = ofQuotient negative other unit := by
  unfold ofQuotient
  rcases Nat.eq_zero_or_pos numerator with none | positive
  · have zero : other = 0 := by
      rw [SameQuotient, none, Nat.zero_mul] at same
      exact (Nat.mul_eq_zero.mp same.symm).resolve_right (by omega)
    rw [if_pos none, if_pos zero]
  · have above := same.positive positive unitary
    rw [if_neg (by omega), if_neg (by omega), nearestRank_same same positive some unitary]

end Same

/-! ## Values that are doubles -/

/-- A significand at a scale above the least power of two, in units of that power. -/
theorem sameQuotient_units (least significand scale : Nat) : SameQuotient
    (if least ≤ scale then (significand * 2 ^ (scale - least), 1)
      else (significand, 2 ^ (least - scale))).1
    (if least ≤ scale then (significand * 2 ^ (scale - least), 1)
      else (significand, 2 ^ (least - scale))).2 (significand * 2 ^ scale) (2 ^ least) := by
  unfold SameQuotient
  split
  · next large => rw [← Nat.pow_sub_mul_pow 2 large, Nat.mul_one, Nat.mul_assoc]
  · next small =>
    rw [← Nat.pow_sub_mul_pow 2 (Nat.le_of_not_le small), Nat.mul_assoc,
      Nat.mul_comm (2 ^ scale)]

/-- The value of a rank has a positive denominator. -/
theorem quotient_denominator_pos (rank : Nat) : 0 < (quotient rank).2 := by
  unfold quotient
  split
  · exact Nat.one_pos
  · exact Nat.two_pow_pos _

/-- The value of a rank in units of the least positive double. -/
theorem quotient_units (rank : Nat) :
    SameQuotient (quotient rank).1 (quotient rank).2 (significand rank * 2 ^ scale rank)
      (2 ^ 1074) :=
  sameQuotient_units 1074 (significand rank) (scale rank)

/-- The parts of a rank for any width of a significand: a number that was reduced by the width is
put together again. -/
theorem parts_eq {width : Nat} (positive : 0 < width) (rank : Nat) :
    (rank / width - 1) * width + (if rank < width then rank else rank % width + width) = rank := by
  have parts := Nat.div_add_mod rank width
  split
  · next small =>
    rw [Nat.div_eq_of_lt small, Nat.zero_sub, Nat.zero_mul, Nat.zero_add]
  · next large =>
    obtain ⟨before, above⟩ : ∃ before, rank / width = before + 1 :=
      ⟨rank / width - 1, by
        have := (Nat.one_le_div_iff positive).mpr (Nat.le_of_not_lt large)
        omega⟩
    rw [above, Nat.mul_succ, Nat.mul_comm] at parts
    rw [above, Nat.add_sub_cancel]
    omega

/-- A rank is put together from its scale and its significand. -/
theorem rank_eq (rank : Nat) : scale rank * 2 ^ 52 + significand rank = rank :=
  parts_eq (Nat.two_pow_pos 52) rank

/-- A significand has at most 53 bits. -/
theorem significand_lt (rank : Nat) : significand rank < 2 ^ 53 := by
  have width : 2 ^ 53 = 2 ^ 52 + 2 ^ 52 := by rw [Nat.pow_succ, Nat.mul_two]
  have rest := Nat.mod_lt rank (Nat.two_pow_pos 52)
  rw [width]
  unfold significand
  generalize 2 ^ 52 = unit at *
  split <;> omega

/-- A positive rank has a positive significand. -/
theorem significand_pos {rank : Nat} (positive : 0 < rank) : 0 < significand rank := by
  have unit := Nat.two_pow_pos 52
  unfold significand
  generalize 2 ^ 52 = width at *
  split <;> omega

/-- A positive scale goes with a significand of all bits. -/
theorem significand_full {rank : Nat} (positive : 0 < scale rank) : 2 ^ 52 ≤ significand rank := by
  unfold significand scale at *
  generalize 2 ^ 52 = width at *
  split
  · next small =>
    rw [Nat.div_eq_of_lt small] at positive
    omega
  · omega

/-- A significand of few enough bits fits at its own scale. -/
theorem fits_units {bits least significand scale : Nat} (few : significand < 2 ^ bits) :
    Fits bits least (significand * 2 ^ scale) (2 ^ least) scale := by
  unfold Fits
  have more := Nat.mul_lt_mul_of_pos_right few
    (Nat.mul_pos (Nat.two_pow_pos least) (Nat.two_pow_pos scale))
  calc significand * 2 ^ scale * 2 ^ least
      = significand * (2 ^ least * 2 ^ scale) := by ac_rfl
    _ < 2 ^ bits * (2 ^ least * 2 ^ scale) := more

/-- A significand of all bits fits at no scale below its own. -/
theorem not_fits_units {bits least significand scale smaller : Nat}
    (full : 2 ^ bits ≤ significand) (below : smaller < scale) :
    ¬Fits (bits + 1) least (significand * 2 ^ scale) (2 ^ least) smaller := by
  have power : 2 ^ (smaller + 1) ≤ 2 ^ scale := Nat.pow_le_pow_right (by decide) below
  have double : ∀ exponent : Nat, 2 ^ (exponent + 1) = 2 ^ exponent * 2 := fun _ => Nat.pow_succ _ _
  apply Nat.not_lt.mpr
  calc 2 ^ (bits + 1) * (2 ^ least * 2 ^ smaller)
      = 2 ^ bits * 2 ^ (smaller + 1) * 2 ^ least := by
        rw [double, double]
        ac_rfl
    _ ≤ significand * 2 ^ scale * 2 ^ least :=
      Nat.mul_le_mul_right _ (Nat.mul_le_mul full power)

/-- The value of a positive rank is rounded at the scale of the rank. -/
theorem roundingScale_units {rank : Nat} (positive : 0 < rank) :
    roundingScale (significand rank * 2 ^ scale rank) (2 ^ 1074) = scale rank := by
  apply roundingScale_eq (Nat.mul_pos (significand_pos positive) (Nat.two_pow_pos _))
    (Nat.two_pow_pos 1074)
  · exact @fits_units 53 1074 _ _ (significand_lt rank)
  · intro smaller below
    exact @not_fits_units 52 1074 _ _ _
      (significand_full (Nat.lt_of_le_of_lt (Nat.zero_le _) below)) below

/-- A multiple of the unit is rounded to itself. -/
theorem roundQuotient_multiple (value : Nat) {unit : Nat} (positive : 0 < unit) :
    roundQuotient (value * unit) unit = value := by
  simp only [roundQuotient, Nat.mul_div_cancel _ positive, Nat.mul_mod_left]
  rw [if_pos (by omega)]

/-- A significand at its own scale is rounded to itself. -/
theorem roundQuotient_units (least significand scale : Nat) :
    roundQuotient (significand * 2 ^ scale * 2 ^ least) (2 ^ least * 2 ^ scale) =
      significand := by
  rw [Nat.mul_assoc, Nat.mul_comm (2 ^ scale)]
  exact roundQuotient_multiple _ (Nat.mul_pos (Nat.two_pow_pos _) (Nat.two_pow_pos _))

/-- The value of a positive rank is positive. -/
theorem quotient_numerator_pos {rank : Nat} (positive : 0 < rank) : 0 < (quotient rank).1 := by
  have some := significand_pos positive
  unfold quotient
  split
  · exact Nat.mul_pos some (Nat.two_pow_pos _)
  · exact some

/-- The double nearest to the value of a rank is that of the rank. -/
theorem nearestRank_quotient {rank : Nat} (positive : 0 < rank) :
    nearestRank (quotient rank).1 (quotient rank).2 = rank := by
  have same : nearestRank (quotient rank).1 (quotient rank).2 =
      nearestRank (significand rank * 2 ^ scale rank) (2 ^ 1074) :=
    nearestRank_same (quotient_units rank) (quotient_numerator_pos positive)
      (quotient_denominator_pos rank) (Nat.two_pow_pos 1074)
  rw [same, nearestRank_eq, roundingScale_units positive,
    roundQuotient_units 1074 (significand rank) (scale rank)]
  exact rank_eq rank

/-- The double nearest to the value of a rank is the double of the rank. -/
theorem ofQuotient_quotient {rank : Nat} (positive : 0 < rank) (negative : Bool) :
    ofQuotient negative (quotient rank).1 (quotient rank).2 = ofRank negative rank := by
  have above := quotient_numerator_pos positive
  rw [ofQuotient, if_neg (by omega), nearestRank_quotient positive]

/-! ## Signs -/

/-- The rank of a double, zero for one that has none. -/
def rankOf : Double → Nat
  | .finite _ rank => rank.val
  | _ => 0

/-- The double of a finite rank has the rank. -/
theorem rankOf_ofRank {rank : Nat} (finite : rank < finiteDoubles) (negative : Bool) :
    rankOf (ofRank negative rank) = rank := by
  rw [ofRank, dif_pos finite]
  rfl

/-- A quotient that is nearest to a positive rank is nearest to it with either sign. -/
theorem ofQuotient_sign {numerator denominator rank : Nat} (positive : 0 < rank)
    (finite : rank < finiteDoubles)
    (nearest : ofQuotient false numerator denominator = ofRank false rank) (negative : Bool) :
    ofQuotient negative numerator denominator = ofRank negative rank := by
  have ranks := congrArg rankOf nearest
  rw [rankOf_ofRank finite] at ranks
  unfold ofQuotient at *
  split at ranks
  · have none : rankOf (zero false) = 0 := rfl
    omega
  · next some =>
    rw [if_neg some]
    by_cases below : nearestRank numerator denominator < finiteDoubles
    · rw [rankOf_ofRank below] at ranks
      rw [ranks]
    · have none : rankOf (ofRank false (nearestRank numerator denominator)) = 0 := by
        rw [ofRank, dif_neg below]
        rfl
      omega

/-! ## Values beyond the doubles -/

/-- A quotient of at least a power of two fits only at scales that make up for the power. -/
theorem Fits.above {bits least power numerator denominator scale : Nat}
    (large : denominator * 2 ^ power ≤ numerator)
    (fits : Fits bits least numerator denominator scale) : power + least < bits + scale := by
  have bound : denominator * 2 ^ (power + least) < denominator * 2 ^ (bits + scale) := by
    calc denominator * 2 ^ (power + least)
        = denominator * 2 ^ power * 2 ^ least := by rw [Nat.pow_add, Nat.mul_assoc]
      _ ≤ numerator * 2 ^ least := Nat.mul_le_mul_right _ large
      _ < 2 ^ bits * (denominator * 2 ^ scale) := fits
      _ = denominator * 2 ^ (bits + scale) := by
        rw [Nat.pow_add]
        ac_rfl
  exact (Nat.pow_lt_pow_iff_right (by decide)).mp (Nat.lt_of_mul_lt_mul_left bound)

/-- Rounding gives at least what the quotient is at least. -/
theorem le_roundQuotient {value numerator denominator : Nat} (some : 0 < denominator)
    (large : value * denominator ≤ numerator) : value ≤ roundQuotient numerator denominator := by
  have whole : value ≤ numerator / denominator := (Nat.le_div_iff_mul_le some).mpr large
  simp only [roundQuotient]
  split
  · exact whole
  · split <;> omega

/-- A quotient of at least a power of two is rounded to no less than the power at its scale. -/
theorem roundQuotient_large {power least scale width numerator denominator : Nat}
    (some : 0 < denominator) (large : denominator * 2 ^ power ≤ numerator)
    (exactly : power + least = width + scale) :
    2 ^ width ≤ roundQuotient (numerator * 2 ^ least) (denominator * 2 ^ scale) := by
  apply le_roundQuotient (Nat.mul_pos some (Nat.two_pow_pos _))
  calc 2 ^ width * (denominator * 2 ^ scale)
      = denominator * 2 ^ (width + scale) := by
        rw [Nat.pow_add]
        ac_rfl
    _ = denominator * 2 ^ power * 2 ^ least := by rw [← exactly, Nat.pow_add, Nat.mul_assoc]
    _ ≤ numerator * 2 ^ least := Nat.mul_le_mul_right _ large

/-- A quotient of at least two to the power of 1024 is beyond the finite doubles. -/
theorem finiteDoubles_le_nearestRank {numerator denominator : Nat} (some : 0 < denominator)
    (large : denominator * 2 ^ 1024 ≤ numerator) :
    finiteDoubles ≤ nearestRank numerator denominator := by
  have above : 1024 + 1074 < 53 + roundingScale numerator denominator :=
    (fits_roundingScale some).above large
  rw [nearestRank_eq]
  rcases Nat.lt_or_ge 2046 (roundingScale numerator denominator) with beyond | least
  · exact Nat.le_trans (Nat.mul_le_mul_right _ beyond) (Nat.le_add_right _ _)
  · have scale : roundingScale numerator denominator = 2046 := by omega
    have rounded : 2 ^ 52 ≤ roundQuotient (numerator * 2 ^ 1074) (denominator * 2 ^ 2046) :=
      @roundQuotient_large 1024 1074 2046 52 numerator denominator some large rfl
    rw [scale]
    calc finiteDoubles = 2046 * 2 ^ 52 + 2 ^ 52 := Nat.succ_mul 2046 (2 ^ 52)
      _ ≤ _ := Nat.add_le_add_left rounded _

/-- A quotient below half of the least positive double is rounded to zero. -/
theorem nearestRank_eq_zero {numerator denominator : Nat} (positive : 0 < numerator)
    (small : 2 * (numerator * 2 ^ 1074) < denominator) :
    nearestRank numerator denominator = 0 := by
  have fits : Fits 53 1074 numerator denominator 0 := by
    have units : denominator ≤ 2 ^ 53 * (denominator * 2 ^ 0) := by
      rw [Nat.pow_zero, Nat.mul_one]
      exact Nat.le_mul_of_pos_left _ (Nat.two_pow_pos 53)
    refine Nat.lt_of_lt_of_le ?_ units
    generalize numerator * 2 ^ 1074 = value at *
    omega
  have scale : roundingScale numerator denominator = 0 :=
    Nat.le_zero.mp (roundingScale_le positive fits)
  rw [nearestRank_eq, scale, Nat.zero_mul, Nat.zero_add, Nat.pow_zero, Nat.mul_one]
  generalize numerator * 2 ^ 1074 = value at *
  simp only [roundQuotient]
  rw [Nat.mod_eq_of_lt (by omega), if_pos small, Nat.div_eq_of_lt (by omega)]

end QuestionDesk.Decimal.Double
