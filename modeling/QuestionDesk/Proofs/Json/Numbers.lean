import QuestionDesk.Json.Reader
import QuestionDesk.Json.Writer
import QuestionDesk.Proofs.Decimal.Numeral

/-!
# Numbers in JSON texts

A number is read back from its text wherever the text behind it cannot be taken for more of it.
-/
namespace QuestionDesk.Json

open Decimal (Double Numeral NoDigitNext bitLimit digits digits_head isDigit isDigit_of_mem_digits
  readDigits takeWhile_digits dropWhile_digits)

/-- What follows cannot belong to a number in front of it. -/
def NoNumberNext (rest : List Char) : Prop :=
  ∀ char ∈ rest.head?, isDigit char = false ∧ char ≠ '.' ∧ char ≠ 'e' ∧ char ≠ 'E'

/-- No digit follows where no number goes on. -/
theorem NoNumberNext.noDigit {rest : List Char} (ends : NoNumberNext rest) : NoDigitNext rest :=
  fun char first => (ends char first).1

/-! ## Numerals -/

/-- No digit follows the whole digits and the fraction of a numeral. -/
theorem noDigit_exponentChars (numeral : Numeral) {rest : List Char} (ends : NoNumberNext rest) :
    NoDigitNext (numeral.exponentChars ++ rest) := by
  unfold Numeral.exponentChars
  split
  · intro char first
    cases first
    rfl
  · exact ends.noDigit

/-- No digit follows the whole digits of a numeral. -/
theorem noDigit_fractionChars (numeral : Numeral) {rest : List Char} (ends : NoNumberNext rest) :
    NoDigitNext (numeral.fractionChars ++ (numeral.exponentChars ++ rest)) := by
  unfold Numeral.fractionChars
  split
  · exact noDigit_exponentChars numeral ends
  · intro char first
    cases first
    rfl

/-- No point follows the fraction of a numeral. -/
theorem noPoint_exponentChars (numeral : Numeral) {rest : List Char} (ends : NoNumberNext rest) :
    ∀ char ∈ (numeral.exponentChars ++ rest).head?, char ≠ '.' := by
  unfold Numeral.exponentChars
  split
  · intro char first
    cases first
    decide
  · exact fun char first => (ends char first).2.1

/-- There is no fraction where no point stands. -/
theorem takeFraction_none {chars : List Char} (noPoint : ∀ char ∈ chars.head?, char ≠ '.') :
    takeFraction chars = ([], chars) := by
  unfold takeFraction
  split
  · exact absurd rfl (noPoint '.' rfl)
  · rfl

/-- The fraction of a numeral is taken. -/
theorem takeFraction_numeral {numeral : Numeral}
    (all : ∀ char ∈ numeral.fraction, isDigit char = true) {rest : List Char}
    (ends : NoNumberNext rest) :
    takeFraction (numeral.fractionChars ++ (numeral.exponentChars ++ rest)) =
      (numeral.fraction, numeral.exponentChars ++ rest) := by
  have behind := noDigit_exponentChars numeral ends
  cases digits : numeral.fraction with
  | nil =>
    simp only [Numeral.fractionChars, digits, List.nil_append]
    exact takeFraction_none (noPoint_exponentChars numeral ends)
  | cons digit more =>
    rw [digits] at all
    have taken := takeWhile_digits all behind
    have left := dropWhile_digits all behind
    have filled : ¬(digit :: more).isEmpty = true := by simp
    simp only [Numeral.fractionChars, digits]
    change takeFraction ('.' :: (digit :: more ++ (numeral.exponentChars ++ rest))) = _
    simp only [takeFraction, taken, left, filled, Bool.false_eq_true, if_false]

/-- The sign of an exponent and the digits behind it are told apart. -/
theorem takeExponent_signed (below : Bool) {written rest : List Char} (some : written ≠ [])
    (all : ∀ char ∈ written, isDigit char = true) (ends : NoDigitNext rest) :
    takeExponent ('e' :: (if below then '-' else '+') :: (written ++ rest)) =
      (Option.some (if below then -((readDigits written 0 : Nat) : Int)
        else (readDigits written 0 : Nat)), rest) := by
  have filled : written.isEmpty = false := by simpa using some
  cases below <;>
    simp [takeExponent, takeWhile_digits all ends, dropWhile_digits all ends, filled]

/-- There is no exponent where no letter for it stands. -/
theorem takeExponent_none {chars : List Char}
    (noLetter : ∀ char ∈ chars.head?, char ≠ 'e' ∧ char ≠ 'E') :
    takeExponent chars = (none, chars) := by
  unfold takeExponent
  split
  · next letter rest =>
    have other := noLetter letter rfl
    rw [if_neg (not_or.mpr other)]
  · rfl

/-- The exponent of a numeral is taken. -/
theorem takeExponent_numeral {numeral : Numeral}
    (all : ∀ below written, numeral.exponent = some (below, written) →
      written ≠ [] ∧ ∀ char ∈ written, isDigit char = true) {rest : List Char}
    (ends : NoNumberNext rest) :
    takeExponent (numeral.exponentChars ++ rest) = (numeral.power, rest) := by
  cases sized : numeral.exponent with
  | none =>
    simp only [Numeral.exponentChars, Numeral.power, sized, List.nil_append, Option.map_none]
    exact takeExponent_none fun char first => (ends char first).2.2
  | some exponent =>
    obtain ⟨below, written⟩ := exponent
    obtain ⟨some, digits⟩ := all below written sized
    simp only [Numeral.exponentChars, Numeral.power, sized, List.cons_append, Option.map_some]
    exact takeExponent_signed below some digits ends.noDigit

/-- A numeral that is no integer is read as the double of its number. -/
theorem readUnsigned?_numeral {numeral : Numeral} (broken : numeral.Broken) (negative : Bool)
    {rest : List Char} (ends : NoNumberNext rest) :
    readUnsigned? negative (numeral.chars ++ rest) =
      some (.ok (.float (numeral.number negative).toDouble, rest)) := by
  have behind := noDigit_fractionChars numeral ends
  have fraction := takeFraction_numeral broken.fractionDigits ends
  have exponent := takeExponent_numeral broken.exponentDigits ends
  have some : ¬(numeral.fraction.isEmpty = true ∧ numeral.power = none) := by
    rintro ⟨noFraction, noExponent⟩
    rcases broken.broken with fraction | exponent
    · exact fraction (List.isEmpty_iff.mp noFraction)
    · exact exponent (Option.map_eq_none_iff.mp noExponent)
  simp only [Numeral.chars, List.append_assoc]
  rcases broken.wholeHead with lone | ⟨first, others, whole, leads⟩
  · rw [lone]
    simp only [List.cons_append, List.nil_append, readUnsigned?, if_true, fraction, exponent,
      some, if_false, Numeral.number, lone]
    rfl
  · have digits := broken.wholeDigits
    rw [whole] at digits
    have head : isDigit first = true := digits first List.mem_cons_self
    have tail : ∀ char ∈ others, isDigit char = true :=
      fun char member => digits char (List.mem_cons_of_mem _ member)
    rw [whole]
    simp only [List.cons_append, readUnsigned?, head, if_true, leads, if_false,
      takeWhile_digits tail behind, dropWhile_digits tail behind, fraction, exponent, some,
      Numeral.number, whole]

/-! ## Integers -/

/-- The digits of a natural number of few digits are read as an integer. -/
theorem readUnsigned?_digits (negative : Bool) {value : Nat}
    (few : (digits value).length ≤ digitLimit) {rest : List Char} (ends : NoNumberNext rest) :
    readUnsigned? negative (digits value ++ rest) =
      some (.ok (.int (if negative then -(value : Int) else value), rest)) := by
  have fraction : takeFraction rest = ([], rest) :=
    takeFraction_none fun char first => (ends char first).2.1
  have exponent : takeExponent rest = (none, rest) :=
    takeExponent_none fun char first => (ends char first).2.2
  have reads := Decimal.readDigits_digits value
  have short : ¬digitLimit < (digits value).length := by omega
  have all : ∀ char ∈ digits value, isDigit char = true := fun _ => isDigit_of_mem_digits
  rcases digits_head value with ⟨written, _⟩ | ⟨first, others, written, leads⟩
  · rw [written] at short reads ⊢
    simp only [List.cons_append, List.nil_append, readUnsigned?, if_true, fraction, exponent,
      List.isEmpty_nil, and_self, short, if_false, reads]
    rfl
  · rw [written] at all short reads ⊢
    have head : isDigit first = true := all first List.mem_cons_self
    have tail : ∀ char ∈ others, isDigit char = true :=
      fun char member => all char (List.mem_cons_of_mem _ member)
    simp only [List.cons_append, readUnsigned?, head, if_true, leads, if_false,
      takeWhile_digits tail ends.noDigit, dropWhile_digits tail ends.noDigit, fraction, exponent,
      List.isEmpty_nil, and_self, short, reads]

/-! ## Atoms -/

/-- A word does not stand where another letter stands. -/
theorem after?_other {letter first : Char} (different : letter ≠ first) (word rest : List Char) :
    after? (letter :: word) (first :: rest) = none := by
  simp [after?, different]

/-- A digit is none of the letters with which words begin, and no sign. -/
theorem digit_ne {first : Char} (digit : isDigit first = true) {char : Char}
    (other : isDigit char = false) : char ≠ first := by
  rintro rfl
  rw [digit] at other
  cases other

/-- A text that begins with a digit is read as a number without a sign. -/
theorem readAtom_digit {first : Char} (digit : isDigit first = true) {rest : List Char}
    {answer : Answer Value} (reads : readUnsigned? false (first :: rest) = some answer) :
    readAtom (first :: rest) = answer := by
  have null := after?_other (digit_ne digit (show isDigit 'n' = false by rfl)) "ull".toList rest
  have yes := after?_other (digit_ne digit (show isDigit 't' = false by rfl)) "rue".toList rest
  have no := after?_other (digit_ne digit (show isDigit 'f' = false by rfl)) "alse".toList rest
  have numeric : readNumber (first :: rest) = answer := by
    unfold readNumber
    split
    · next same => exact absurd (List.cons.inj same).1.symm (digit_ne digit rfl)
    · next same => exact absurd (List.cons.inj same).1.symm (digit_ne digit rfl)
    · next same => exact absurd (List.cons.inj same).1.symm (digit_ne digit rfl)
    · rw [reads]
      rfl
  change after? "null".toList (first :: rest) = none at null
  change after? "true".toList (first :: rest) = none at yes
  change after? "false".toList (first :: rest) = none at no
  simp only [readAtom, null, yes, no, numeric]

/-- A text that begins with a minus sign and a digit is read as a number with a sign. -/
theorem readAtom_minus {first : Char} (digit : isDigit first = true) {rest : List Char}
    {answer : Answer Value} (reads : readUnsigned? true (first :: rest) = some answer) :
    readAtom ('-' :: first :: rest) = answer := by
  have word := after?_other (digit_ne digit (show isDigit 'I' = false by rfl)) "nfinity".toList rest
  change after? "Infinity".toList (first :: rest) = none at word
  change readNumber ('-' :: first :: rest) = answer
  simp only [readNumber, word, reads, Option.getD_some]

/-- What is read behind an optional minus sign is read with the sign in front. -/
theorem readAtom_signed (negative : Bool) {first : Char} (digit : isDigit first = true)
    {rest : List Char} {answer : Answer Value}
    (reads : readUnsigned? negative (first :: rest) = some answer) :
    readAtom ((if negative then ['-'] else []) ++ first :: rest) = answer := by
  cases negative with
  | false => exact readAtom_digit digit reads
  | true => exact readAtom_minus digit reads

/-- The text of an integer is that of its amount, behind a minus sign when it is negative. -/
theorem integerText_chars (value : Int) : (Decimal.integerText value).toList =
    (if decide (value < 0) then ['-'] else []) ++ digits value.natAbs := by
  unfold Decimal.integerText
  split
  · next below => simp [below]
  · next above => simp [above]

/-- An integer is its amount with its sign in front. -/
theorem signed_natAbs (value : Int) :
    (if decide (value < 0) = true then -(value.natAbs : Int) else value.natAbs) = value := by
  split
  · next below =>
    rw [decide_eq_true_eq] at below
    omega
  · next above =>
    rw [decide_eq_true_eq] at above
    omega

/-- An integer of few digits is read back from its text. -/
theorem readAtom_integerText {value : Int} (few : (digits value.natAbs).length ≤ digitLimit)
    {rest : List Char} (ends : NoNumberNext rest) :
    readAtom ((Decimal.integerText value).toList ++ rest) = .ok (.int value, rest) := by
  have reads := readUnsigned?_digits (decide (value < 0)) few ends
  rw [signed_natAbs] at reads
  rw [integerText_chars, List.append_assoc]
  cases written : digits value.natAbs with
  | nil => exact absurd written (Decimal.digits_ne_nil _)
  | cons first others =>
    rw [written] at reads
    have digit : isDigit first = true :=
      @isDigit_of_mem_digits value.natAbs first (by rw [written]; exact List.mem_cons_self)
    exact readAtom_signed _ digit reads

/-- The text of an integer begins with a digit or a minus sign. -/
theorem integerText_head (value : Int) : ∃ first others,
    (Decimal.integerText value).toList = first :: others ∧
      (isDigit first = true ∨ first = '-' ∨ first = 'N' ∨ first = 'I') := by
  unfold Decimal.integerText
  split
  · exact ⟨'-', _, String.toList_ofList, by decide⟩
  · cases written : digits value.natAbs with
    | nil => exact absurd written (Decimal.digits_ne_nil _)
    | cons first others =>
      refine ⟨first, others, String.toList_ofList, Or.inl ?_⟩
      exact @isDigit_of_mem_digits value.natAbs first (by rw [written]; exact List.mem_cons_self)

/-- A numeral is not empty and begins with a digit. -/
theorem numeral_head {numeral : Numeral} (broken : numeral.Broken) :
    ∃ first others, numeral.chars = first :: others ∧ isDigit first = true := by
  rcases broken.wholeHead with lone | ⟨first, others, whole, _⟩
  · exact ⟨'0', _, by rw [Numeral.chars, lone]; rfl, rfl⟩
  · refine ⟨first, _, by rw [Numeral.chars, whole]; rfl, broken.wholeDigits first ?_⟩
    rw [whole]
    exact List.mem_cons_self

/-- A double is read back from its text. -/
theorem readAtom_numberText (value : Double) {rest : List Char} (ends : NoNumberNext rest) :
    readAtom ((numberSpelling.text value).toList ++ rest) = .ok (.float value, rest) := by
  cases value with
  | nan => rfl
  | infinite negative => cases negative <;> rfl
  | finite negative rank =>
    obtain ⟨numeral, written, broken, same⟩ :=
      Decimal.text_numeral numberSpelling (by decide) negative rank
    obtain ⟨first, others, head, digit⟩ := numeral_head broken
    have whole := readUnsigned?_numeral broken negative ends
    rw [same, head] at whole
    rw [written, head, List.append_assoc]
    exact readAtom_signed negative digit whole

/-- The text of a double begins with a digit, a minus sign or the letter of a word. -/
theorem numberText_head (value : Double) : ∃ first others,
    (numberSpelling.text value).toList = first :: others ∧
      (isDigit first = true ∨ first = '-' ∨ first = 'N' ∨ first = 'I') := by
  cases value with
  | nan => exact ⟨'N', _, rfl, by decide⟩
  | infinite negative => cases negative <;> exact ⟨_, _, rfl, by decide⟩
  | finite negative rank =>
    obtain ⟨numeral, written, broken, _⟩ :=
      Decimal.text_numeral numberSpelling (by decide) negative rank
    obtain ⟨first, others, head, digit⟩ := numeral_head broken
    rw [written, head]
    cases negative with
    | false => exact ⟨first, others, rfl, Or.inl digit⟩
    | true => exact ⟨'-', first :: others, rfl, by decide⟩

end QuestionDesk.Json
