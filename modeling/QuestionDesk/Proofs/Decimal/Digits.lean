import QuestionDesk.Decimal.Digits

/-!
# Runs of digits

What the digits of a number look like from outside: there is at least one, each is a digit, the
first is zero for zero alone, and so many digits denote a number below a power of ten.
-/
namespace QuestionDesk.Decimal

/-- Every character of the digits of a number is a digit. -/
theorem isDigit_digitChar {digit : Nat} (small : digit < 10) : isDigit (digitChar digit) = true := by
  have all : ∀ digit < 10, isDigit (digitChar digit) = true := by decide
  exact all digit small

/-- The digits of a number are digits. -/
theorem isDigit_of_mem_digits {value : Nat} {char : Char} (member : char ∈ digits value) :
    isDigit char = true := by
  induction value using Nat.strongRecOn with
  | _ value smaller =>
    rw [digits] at member
    split at member
    · next small =>
      rw [List.mem_singleton.mp member]
      exact isDigit_digitChar small
    · next large =>
      rcases List.mem_append.mp member with front | back
      · exact smaller (value / 10) (by omega) front
      · rw [List.mem_singleton.mp back]
        exact isDigit_digitChar (Nat.mod_lt _ (by decide))

/-- A number has at least one digit. -/
theorem digits_ne_nil (value : Nat) : digits value ≠ [] := by
  rw [digits]
  split <;> simp

/-- A number has at least one digit. -/
theorem length_digits_pos (value : Nat) : 0 < (digits value).length :=
  List.length_pos_iff.mpr (digits_ne_nil value)

/-- A number is below the power of ten of the number of its digits. -/
theorem lt_pow_length_digits (value : Nat) : value < 10 ^ (digits value).length := by
  induction value using Nat.strongRecOn with
  | _ value smaller =>
    rw [digits]
    split
    · next small => simpa using small
    · next large =>
      have front := smaller (value / 10) (by omega)
      rw [List.length_append, List.length_singleton, Nat.pow_succ]
      omega

/-- A number below a power of ten has no more digits than the exponent says, or one for zero. -/
theorem length_digits_le {value count : Nat} (positive : 0 < count) (below : value < 10 ^ count) :
    (digits value).length ≤ count := by
  induction count generalizing value with
  | zero => omega
  | succ count smaller =>
    rw [digits]
    split
    · simp
    · next large =>
      rw [Nat.pow_succ] at below
      have some : 0 < count := by
        rcases Nat.eq_zero_or_pos count with none | some
        · rw [none] at below
          omega
        · exact some
      rw [List.length_append, List.length_singleton]
      exact Nat.succ_le_succ (smaller some (by omega))

/-- A run of digits denotes a number below the power of ten of its length. -/
theorem readDigits_lt {run : List Char} (all : ∀ char ∈ run, isDigit char = true)
    (before : Nat) : readDigits run before < (before + 1) * 10 ^ run.length := by
  induction run generalizing before with
  | nil => simp [readDigits]
  | cons char rest below =>
    have digit : digitValue char < 10 := by
      have bounds := all char List.mem_cons_self
      simp only [isDigit, Bool.and_eq_true, decide_eq_true_eq] at bounds
      have upper : char.toNat ≤ '9'.toNat := bounds.2
      have nine : '9'.toNat = 57 := rfl
      have zero : '0'.toNat = 48 := rfl
      rw [digitValue]
      omega
    have step := below (fun other member => all other (List.mem_cons_of_mem _ member))
      (before * 10 + digitValue char)
    calc readDigits (char :: rest) before
        = readDigits rest (before * 10 + digitValue char) := rfl
      _ < (before * 10 + digitValue char + 1) * 10 ^ rest.length := step
      _ ≤ ((before + 1) * 10) * 10 ^ rest.length := Nat.mul_le_mul_right _ (by omega)
      _ = (before + 1) * 10 ^ (char :: rest).length := by
        rw [List.length_cons, Nat.pow_succ, Nat.mul_assoc, Nat.mul_comm 10]

/-- The first digit of a positive number is not zero. -/
theorem head_digits_ne_zero {value : Nat} (positive : 0 < value) {first : Char}
    {rest : List Char} (written : digits value = first :: rest) : first ≠ '0' := by
  induction value using Nat.strongRecOn generalizing first rest with
  | _ value smaller =>
    rw [digits] at written
    split at written
    · next small =>
      cases written
      have all : ∀ digit < 10, 0 < digit → digitChar digit ≠ '0' := by decide
      exact all value small positive
    · next large =>
      cases front : digits (value / 10) with
      | nil => exact absurd front (digits_ne_nil _)
      | cons digit others =>
        rw [front] at written
        cases written
        exact smaller (value / 10) (by omega) (by omega) front

/-- The digits of zero. -/
theorem digits_zero : digits 0 = ['0'] := by
  rw [digits]
  rfl

/-- A run of characters of a kind in front of something else is taken as it is. -/
theorem takeWhile_run {kind : Char → Bool} {run rest : List Char}
    (all : ∀ char ∈ run, kind char = true) (ends : ∀ char ∈ rest.head?, kind char = false) :
    (run ++ rest).takeWhile kind = run := by
  rw [List.takeWhile_append_of_pos all]
  cases rest with
  | nil => simp
  | cons char rest => simp [ends char rfl]

/-- What stands behind a run of characters of a kind is left. -/
theorem dropWhile_run {kind : Char → Bool} {run rest : List Char}
    (all : ∀ char ∈ run, kind char = true) (ends : ∀ char ∈ rest.head?, kind char = false) :
    (run ++ rest).dropWhile kind = rest := by
  rw [List.dropWhile_append_of_pos all]
  cases rest with
  | nil => rfl
  | cons char rest => simp [ends char rfl]

/-- A text goes on with something other than a digit. -/
def NoDigitNext (rest : List Char) : Prop := ∀ char ∈ rest.head?, isDigit char = false

/-- Digits in front of something else are taken as they are. -/
theorem takeWhile_digits {run rest : List Char} (all : ∀ char ∈ run, isDigit char = true)
    (ends : NoDigitNext rest) : (run ++ rest).takeWhile isDigit = run := takeWhile_run all ends

/-- What stands behind digits is left. -/
theorem dropWhile_digits {run rest : List Char} (all : ∀ char ∈ run, isDigit char = true)
    (ends : NoDigitNext rest) : (run ++ rest).dropWhile isDigit = rest := dropWhile_run all ends

/-- Leading zeros do not count. -/
theorem readDigits_zeros (count : Nat) (run : List Char) :
    readDigits (List.replicate count '0' ++ run) 0 = readDigits run 0 := by
  induction count with
  | zero => rfl
  | succ count same => simpa [readDigits, List.replicate_succ, digitValue] using same

/-- Trailing zeros multiply by powers of ten. -/
theorem readDigits_append_zeros (run : List Char) (count before : Nat) :
    readDigits (run ++ List.replicate count '0') before = readDigits run before * 10 ^ count := by
  rw [readDigits_append]
  generalize readDigits run before = value
  induction count generalizing value with
  | zero => simp [readDigits]
  | succ count more =>
    have step : readDigits (List.replicate (count + 1) '0') value =
        readDigits (List.replicate count '0') (value * 10) := by
      simp [readDigits, List.replicate_succ, digitValue]
    rw [step, more, Nat.pow_succ, Nat.mul_assoc, Nat.mul_comm 10]

end QuestionDesk.Decimal
