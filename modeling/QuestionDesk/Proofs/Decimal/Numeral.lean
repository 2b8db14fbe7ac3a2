import QuestionDesk.Decimal.Spelling
import QuestionDesk.Proofs.Decimal.Shortest

/-!
# Numerals

A numeral consists of whole digits, digits behind a point and an exponent, of which the latter two
may be absent. The text of a finite double is a numeral of the double, so a reader of numerals reads
it back.
-/
namespace QuestionDesk.Decimal

/-- The parts of a written number without a sign. -/
structure Numeral where
  /-- The digits before the point. -/
  whole : List Char
  /-- The digits behind the point, none when there is no point. -/
  fraction : List Char
  /-- Whether the exponent is below zero, and its digits, if there is one. -/
  exponent : Option (Bool × List Char)

namespace Numeral

/-- The characters of the exponent of a numeral. -/
def exponentChars (numeral : Numeral) : List Char :=
  match numeral.exponent with
  | some (below, written) => 'e' :: (if below then '-' else '+') :: written
  | none => []

/-- The characters of a numeral behind the point, with the point. -/
def fractionChars (numeral : Numeral) : List Char :=
  match numeral.fraction with
  | [] => []
  | digit :: digits => '.' :: digit :: digits

/-- The characters of a numeral. -/
def chars (numeral : Numeral) : List Char :=
  numeral.whole ++ (numeral.fractionChars ++ numeral.exponentChars)

/-- The exponent of a numeral as an integer. -/
def power (numeral : Numeral) : Option Int :=
  numeral.exponent.map fun (below, written) =>
    if below then -(readDigits written 0 : Nat) else (readDigits written 0 : Nat)

/-- The decimal number that a numeral denotes with a sign in front. -/
def number (numeral : Numeral) (negative : Bool) : Scientific :=
  ⟨negative, readDigits numeral.fraction (readDigits numeral.whole 0),
    numeral.power.getD 0 - (numeral.fraction.length : Int)⟩

/-- The parts of a numeral are digits, and it is no integer: only a lone zero stands in front of
other whole digits, and there is a fraction or an exponent. -/
structure Broken (numeral : Numeral) : Prop where
  /-- The whole digits are digits. -/
  wholeDigits : ∀ char ∈ numeral.whole, isDigit char = true
  /-- There are whole digits, and a zero among them does not lead. -/
  wholeHead : numeral.whole = ['0'] ∨ ∃ first rest, numeral.whole = first :: rest ∧ first ≠ '0'
  /-- The digits behind the point are digits. -/
  fractionDigits : ∀ char ∈ numeral.fraction, isDigit char = true
  /-- The digits of the exponent are digits, and there is one at least. -/
  exponentDigits : ∀ below written, numeral.exponent = some (below, written) →
    written ≠ [] ∧ ∀ char ∈ written, isDigit char = true
  /-- There is a fraction or an exponent. -/
  broken : numeral.fraction ≠ [] ∨ numeral.exponent ≠ none

/-- The characters of a numeral are digits, its point, and the letter and the sign of its exponent. -/
theorem Broken.mem_chars {numeral : Numeral} (broken : numeral.Broken) {char : Char}
    (member : char ∈ numeral.chars) : isDigit char = true ∨ char ∈ ['.', 'e', '+', '-'] := by
  rw [chars, List.mem_append, List.mem_append] at member
  rcases member with whole | fraction | exponent
  · exact Or.inl (broken.wholeDigits char whole)
  · have digits := broken.fractionDigits
    unfold fractionChars at fraction
    split at fraction
    · cases fraction
    · next first rest same =>
      rw [same] at digits
      rcases List.mem_cons.mp fraction with rfl | digit
      · exact Or.inr (by decide)
      · exact Or.inl (digits char digit)
  · unfold exponentChars at exponent
    split at exponent
    · next below written same =>
      rcases List.mem_cons.mp exponent with rfl | signed
      · exact Or.inr (by decide)
      · rcases List.mem_cons.mp signed with rfl | digit
        · cases below <;> exact Or.inr (by decide)
        · exact Or.inl ((broken.exponentDigits below written same).2 char digit)
    · cases exponent

end Numeral

/-- Padded digits are digits, at least one. -/
theorem isDigit_paddedDigits (width value : Nat) :
    paddedDigits width value ≠ [] ∧ ∀ char ∈ paddedDigits width value, isDigit char = true := by
  constructor
  · simp [paddedDigits, digits_ne_nil]
  · intro char member
    rcases List.mem_append.mp member with zero | digit
    · rw [List.eq_of_mem_replicate zero]
      rfl
    · exact isDigit_of_mem_digits digit

/-- Padded digits denote their number. -/
theorem readDigits_paddedDigits (width value : Nat) :
    readDigits (paddedDigits width value) 0 = value := by
  simp only [paddedDigits, zeros, readDigits_zeros, readDigits_digits]

/-- The digits of a number begin with something other than zero, or are those of zero. -/
theorem digits_head (value : Nat) :
    digits value = ['0'] ∧ value = 0 ∨
      ∃ first rest, digits value = first :: rest ∧ first ≠ '0' := by
  rcases Nat.eq_zero_or_pos value with none | positive
  · exact Or.inl ⟨by rw [none, digits_zero], none⟩
  · cases written : digits value with
    | nil => exact absurd written (digits_ne_nil value)
    | cons first rest => exact Or.inr ⟨first, rest, rfl, head_digits_ne_zero positive written⟩

/-- Zeros are digits. -/
theorem isDigit_zeros {count : Nat} {char : Char} (member : char ∈ zeros count) :
    isDigit char = true := by
  rw [List.eq_of_mem_replicate member]
  rfl

/-- Zeros of a positive number, with zeros behind them, do not lead. -/
theorem head_padded (value : Nat) (rest : List Char) (zero : value = 0 → rest = []) :
    digits value ++ rest = ['0'] ∨
      ∃ first others, digits value ++ rest = first :: others ∧ first ≠ '0' := by
  rcases digits_head value with ⟨written, none⟩ | ⟨first, others, written, leads⟩
  · exact Or.inl (by rw [written, zero none]; rfl)
  · exact Or.inr ⟨first, others ++ rest, by rw [written]; rfl, leads⟩

section Forms

variable {coefficient : Nat} {exponent : Int}

/-- A number below one is a numeral with all its digits behind the point. -/
theorem behind_numeral (behind : ((digits coefficient).length : Int) + exponent ≤ 0) :
    ∃ numeral : Numeral,
      '0' :: '.' :: (zeros (-(((digits coefficient).length : Int) + exponent)).toNat ++
        digits coefficient) = numeral.chars ∧ numeral.Broken ∧
      ∀ negative, numeral.number negative = ⟨negative, coefficient, exponent⟩ := by
  have some := length_digits_pos coefficient
  generalize counted : (-(((digits coefficient).length : Int) + exponent)).toNat = count
  have filled : zeros count ++ digits coefficient ≠ [] := by simp [digits_ne_nil]
  refine ⟨⟨['0'], zeros count ++ digits coefficient, none⟩, ?_, ?_, fun negative => ?_⟩
  · cases written : zeros count ++ digits coefficient with
    | nil => exact absurd written filled
    | cons first rest =>
      simp [Numeral.chars, Numeral.fractionChars, Numeral.exponentChars]
  · refine ⟨by simp [isDigit], Or.inl rfl, fun char member => ?_, fun _ _ has => (by cases has),
      Or.inl filled⟩
    rcases List.mem_append.mp member with zero | digit
    · exact isDigit_zeros zero
    · exact isDigit_of_mem_digits digit
  · have whole : readDigits ['0'] 0 = 0 := rfl
    have length : (zeros count).length = count := List.length_replicate
    simp only [Numeral.number, Numeral.power, whole, zeros, readDigits_zeros, readDigits_digits,
      Option.map_none, Option.getD_none, List.length_append, List.length_replicate]
    congr 1
    omega

/-- A number without digits behind the point is a numeral with a zero behind it. -/
theorem before_numeral (zero : coefficient = 0 → exponent = 0)
    (few : (coefficient * 10 ^ (exponent.toNat + 1)).log2 < bitLimit)
    (before : ((digits coefficient).length : Int) ≤ (digits coefficient).length + exponent) :
    ∃ numeral : Numeral,
      digits coefficient ++ zeros ((((digits coefficient).length : Int) + exponent).toNat -
        (digits coefficient).length) ++ ['.', '0'] = numeral.chars ∧ numeral.Broken ∧
      ∀ negative, (numeral.number negative).toDouble =
        Scientific.toDouble ⟨negative, coefficient, exponent⟩ := by
  have counted : (((digits coefficient).length : Int) + exponent).toNat -
      (digits coefficient).length = exponent.toNat := by omega
  rw [counted]
  refine ⟨⟨digits coefficient ++ zeros exponent.toNat, ['0'], none⟩, ?_, ?_, fun negative => ?_⟩
  · simp [Numeral.chars, Numeral.fractionChars, Numeral.exponentChars]
  · refine ⟨fun char member => ?_, head_padded _ _ fun none => ?_, by simp [isDigit],
      fun _ _ has => (by cases has), Or.inl (by simp)⟩
    · rcases List.mem_append.mp member with digit | zero
      · exact isDigit_of_mem_digits digit
      · exact isDigit_zeros zero
    · rw [zero none]
      rfl
  · have less : coefficient.log2 < bitLimit :=
      Nat.lt_of_le_of_lt (Scientific.log2_mono (Nat.le_mul_of_pos_right _ (Nat.pow_pos (by decide)))) few
    have last : ∀ value, readDigits ['0'] value = value * 10 := by
      intro value
      simp [readDigits, digitValue]
    have same : exponent = -1 + ((exponent.toNat + 1 : Nat) : Int) := by omega
    have shifted := Scientific.toDouble_mul_ten negative (-1) few less
    rw [← same] at shifted
    rw [← shifted]
    simp only [Numeral.number, Numeral.power, zeros, readDigits_append_zeros, readDigits_digits,
      last, Option.map_none, Option.getD_none, List.length_singleton, Nat.pow_succ, Nat.mul_assoc]
    rfl

/-- A number with digits on both sides of the point is a numeral with the same digits. -/
theorem amid_numeral (some : 0 < ((digits coefficient).length : Int) + exponent)
    (behind : ((digits coefficient).length : Int) + exponent < (digits coefficient).length) :
    ∃ numeral : Numeral,
      (digits coefficient).take (((digits coefficient).length : Int) + exponent).toNat ++
        '.' :: (digits coefficient).drop (((digits coefficient).length : Int) + exponent).toNat =
          numeral.chars ∧ numeral.Broken ∧
      ∀ negative, numeral.number negative = ⟨negative, coefficient, exponent⟩ := by
  generalize counted : (((digits coefficient).length : Int) + exponent).toNat = count
  have split := List.take_append_drop count (digits coefficient)
  have filled : (digits coefficient).drop count ≠ [] := by
    rw [Ne, List.drop_eq_nil_iff]
    omega
  refine ⟨⟨(digits coefficient).take count, (digits coefficient).drop count, none⟩, ?_, ?_,
    fun negative => ?_⟩
  · cases written : (digits coefficient).drop count with
    | nil => exact absurd written filled
    | cons first rest => simp [Numeral.chars, Numeral.fractionChars, Numeral.exponentChars]
  · refine ⟨fun char member => isDigit_of_mem_digits (List.mem_of_mem_take member), ?_,
      fun char member => isDigit_of_mem_digits (List.mem_of_mem_drop member),
      fun _ _ has => (by cases has), Or.inl filled⟩
    rcases digits_head coefficient with ⟨written, none⟩ | ⟨first, others, written, leads⟩
    · rw [written] at behind some
      simp only [List.length_singleton] at behind some
      omega
    · obtain ⟨less, same⟩ : ∃ less, count = less + 1 := ⟨count - 1, by omega⟩
      exact Or.inr ⟨first, others.take less, by rw [written, same, List.take_succ_cons], leads⟩
  · have read : readDigits ((digits coefficient).drop count)
        (readDigits ((digits coefficient).take count) 0) = coefficient := by
      rw [← readDigits_append, split, readDigits_digits]
    have length : ((digits coefficient).drop count).length = (digits coefficient).length - count :=
      List.length_drop
    simp only [Numeral.number, Numeral.power, read, length, Option.map_none, Option.getD_none]
    congr 1
    omega

/-- A number is a numeral with one digit before the point and an exponent. -/
theorem scientific_numeral (width : Nat) :
    ∃ numeral : Numeral,
      (digits coefficient).take 1 ++
          (if (digits coefficient).length = 1 then [] else '.' :: (digits coefficient).drop 1) ++
        'e' :: (if ((digits coefficient).length : Int) + exponent - 1 < 0 then '-' else '+') ::
          paddedDigits width (((digits coefficient).length : Int) + exponent - 1).natAbs =
        numeral.chars ∧ numeral.Broken ∧
      ∀ negative, numeral.number negative = ⟨negative, coefficient, exponent⟩ := by
  generalize leads : ((digits coefficient).length : Int) + exponent - 1 = leading
  have padded := isDigit_paddedDigits width leading.natAbs
  have split := List.take_append_drop 1 (digits coefficient)
  refine ⟨⟨(digits coefficient).take 1, (digits coefficient).drop 1,
    some (decide (leading < 0), paddedDigits width leading.natAbs)⟩, ?_, ?_, fun negative => ?_⟩
  · cases written : digits coefficient with
    | nil => exact absurd written (digits_ne_nil coefficient)
    | cons first rest =>
      cases rest <;> simp [Numeral.chars, Numeral.fractionChars, Numeral.exponentChars]
  · refine ⟨fun char member => isDigit_of_mem_digits (List.mem_of_mem_take member), ?_,
      fun char member => isDigit_of_mem_digits (List.mem_of_mem_drop member), ?_,
      Or.inr (by simp)⟩
    · rcases digits_head coefficient with ⟨written, none⟩ | ⟨first, others, written, other⟩
      · exact Or.inl (by rw [written]; rfl)
      · exact Or.inr ⟨first, [], by rw [written]; rfl, other⟩
    · intro below written same
      cases same
      exact padded
  · have read : readDigits ((digits coefficient).drop 1)
        (readDigits ((digits coefficient).take 1) 0) = coefficient := by
      rw [← readDigits_append, split, readDigits_digits]
    have signed : (if decide (leading < 0) = true then -((leading.natAbs : Nat) : Int)
        else (leading.natAbs : Nat)) = leading := by
      split
      · next below =>
        rw [decide_eq_true_eq] at below
        omega
      · next above =>
        rw [decide_eq_true_eq] at above
        omega
    have some := length_digits_pos coefficient
    simp only [Numeral.number, Numeral.power, read, Option.map_some, Option.getD_some,
      readDigits_paddedDigits, signed, List.length_drop]
    congr 1
    omega

end Forms

/-- A number that is written positionally has few bits, also with its zeros before the point. -/
theorem few_of_positional {coefficient : Nat} {exponent : Int}
    (few : ((digits coefficient).length : Int) + exponent ≤ 16)
    (before : ((digits coefficient).length : Int) ≤ (digits coefficient).length + exponent) :
    (coefficient * 10 ^ (exponent.toNat + 1)).log2 < bitLimit := by
  apply Scientific.log2_lt_of_lt (show 0 < bitLimit by decide)
  have below := lt_pow_length_digits coefficient
  calc coefficient * 10 ^ (exponent.toNat + 1)
      < 10 ^ (digits coefficient).length * 10 ^ (exponent.toNat + 1) :=
        Nat.mul_lt_mul_of_pos_right below (Nat.pow_pos (by decide))
    _ = 10 ^ ((digits coefficient).length + (exponent.toNat + 1)) := (Nat.pow_add ..).symm
    _ ≤ 10 ^ 17 := @Nat.pow_le_pow_right 10 (by decide) _ _ (by omega)
    _ ≤ 2 ^ 60 := by decide
    _ ≤ 2 ^ bitLimit := @Nat.pow_le_pow_right 2 (by decide) _ _ (by decide)

/-- The characters of a number under a spelling are a numeral that is read like the number. -/
theorem characters_numeral (spelling : Spelling) (highest : spelling.highest ≤ 16)
    {coefficient : Nat} {exponent : Int} (zero : coefficient = 0 → exponent = 0) :
    ∃ numeral : Numeral,
      spelling.characters coefficient exponent = numeral.chars ∧ numeral.Broken ∧
        ∀ negative, (numeral.number negative).toDouble =
          Scientific.toDouble ⟨negative, coefficient, exponent⟩ := by
  have alike : ∀ {chars : List Char}, (∃ numeral : Numeral, chars = numeral.chars ∧
      numeral.Broken ∧ ∀ negative, numeral.number negative = ⟨negative, coefficient, exponent⟩) →
      ∃ numeral : Numeral, chars = numeral.chars ∧ numeral.Broken ∧
        ∀ negative, (numeral.number negative).toDouble =
          Scientific.toDouble ⟨negative, coefficient, exponent⟩ := by
    rintro chars ⟨numeral, same, broken, number⟩
    exact ⟨numeral, same, broken, fun negative => by rw [number]⟩
  simp only [Spelling.characters]
  split
  · next inside =>
    split
    · next behind => exact alike (behind_numeral behind)
    · next some =>
      split
      · next before => exact before_numeral zero (few_of_positional (by omega) before) before
      · next amid => exact alike (amid_numeral (by omega) (by omega))
  · have form := @scientific_numeral coefficient exponent spelling.exponentWidth
    simp only [List.append_assoc] at form ⊢
    exact alike form

/-- The text of a finite double is a numeral of the double behind its sign. -/
theorem text_numeral (spelling : Spelling) (highest : spelling.highest ≤ 16) (negative : Bool)
    (rank : Fin finiteDoubles) : ∃ numeral : Numeral,
      (spelling.text (.finite negative rank)).toList =
        (if negative then ['-'] else []) ++ numeral.chars ∧ numeral.Broken ∧
          (numeral.number negative).toDouble = .finite negative rank := by
  have signed : ∀ chars : List Char, ((if negative then "-" else "") ++ String.ofList chars).toList =
      (if negative then ['-'] else []) ++ chars := by
    intro chars
    cases negative <;> simp
  rcases Nat.eq_zero_or_pos rank.val with none | positive
  · obtain ⟨numeral, chars, broken, reads⟩ :=
      characters_numeral spelling highest (fun _ => rfl : (0 : Nat) = 0 → (0 : Int) = 0)
    refine ⟨numeral, ?_, broken, ?_⟩
    · rw [Spelling.text]
      simp only [none, if_true]
      rw [signed, chars]
    · rw [reads, show rank = ⟨0, by decide⟩ from Fin.ext none]
      rfl
  · have zero : (shortestDecimal rank).coefficient = 0 → (shortestDecimal rank).exponent = 0 := by
      have some := shortestDecimal_pos positive rank.isLt
      omega
    obtain ⟨numeral, chars, broken, reads⟩ := characters_numeral spelling highest zero
    refine ⟨numeral, ?_, broken, ?_⟩
    · have some : rank.val ≠ 0 := by omega
      rw [Spelling.text]
      simp only [some, if_false]
      rw [signed, chars]
    · rw [reads]
      exact toDouble_shortestDecimal positive rank.isLt negative

/-- The characters of the text of a double are digits, the marks of numerals, and those of the words
for what is no number. -/
theorem mem_text {spelling : Spelling} (highest : spelling.highest ≤ 16) {value : Double}
    {char : Char} (member : char ∈ (spelling.text value).toList) :
    isDigit char = true ∨ char ∈ ['.', 'e', '+', '-'] ∨ char ∈ spelling.nan.toList ∨
      char ∈ spelling.infinity.toList := by
  have sign : ∀ {negative : Bool}, char ∈ (if negative then "-" else "").toList → char = '-' := by
    rintro (_ | _) <;> simp
  cases value with
  | nan => exact Or.inr (Or.inr (Or.inl member))
  | infinite negative =>
    rw [Spelling.text, String.toList_append, List.mem_append] at member
    rcases member with signed | word
    · exact Or.inr (Or.inl (by simp [sign signed]))
    · exact Or.inr (Or.inr (Or.inr word))
  | finite negative rank =>
    obtain ⟨numeral, written, broken, _⟩ := text_numeral spelling highest negative rank
    rw [written, List.mem_append] at member
    rcases member with signed | number
    · have minus : char = '-' := by
        cases negative with
        | false => cases signed
        | true => exact List.mem_singleton.mp signed
      exact Or.inr (Or.inl (by simp [minus]))
    · exact (broken.mem_chars number).imp_right Or.inl

end QuestionDesk.Decimal
