/-!
# Decimal digits of natural numbers

A natural number is written with its decimal digits, the most significant first and without
leading zeros, and a run of digits is read from left to right. Reading undoes writing.
-/
namespace QuestionDesk.Decimal

/-- A power of a natural number is the core library's, whatever other powers are in scope. -/
@[default_instance 20000]
instance (priority := 20000) naturalPower : Pow Nat Nat := instPowNat

/-- The character of a digit below ten. -/
def digitChar (digit : Nat) : Char := Char.ofNat (digit + '0'.toNat)

/-- The value of an ASCII digit. -/
def digitValue (char : Char) : Nat := char.toNat - '0'.toNat

/-- Whether a character is an ASCII digit. -/
def isDigit (char : Char) : Bool := '0' ≤ char && char ≤ '9'

/-- The decimal digits of a number, the most significant first. -/
def digits (value : Nat) : List Char :=
  if value < 10 then [digitChar value]
  else digits (value / 10) ++ [digitChar (value % 10)]
termination_by value
decreasing_by omega

/-- The number that a run of digits denotes, read from left to right after a number already read. -/
def readDigits (digits : List Char) (before : Nat) : Nat :=
  digits.foldl (fun value char => value * 10 + digitValue char) before

/-- The decimal text of an integer: its digits after a minus sign when it is negative. -/
def integerText (value : Int) : String :=
  if value < 0 then String.ofList ('-' :: digits value.natAbs)
  else String.ofList (digits value.natAbs)

/-- The decimal text of a natural number. -/
def naturalText (value : Nat) : String := String.ofList (digits value)

/-- Reading continues over the parts of a run one after the other. -/
theorem readDigits_append (left right : List Char) (before : Nat) :
    readDigits (left ++ right) before = readDigits right (readDigits left before) := by
  simp [readDigits]

/-- The character of a digit has the code of zero plus the digit. -/
theorem toNat_digitChar {digit : Nat} (small : digit < 10) :
    (digitChar digit).toNat = digit + '0'.toNat := by
  have zero : '0'.toNat = 48 := rfl
  have valid : (digit + '0'.toNat).isValidChar := Or.inl (by omega)
  rw [digitChar, Char.ofNat, dif_pos valid]
  rfl

/-- Reading the digits of a number gives the number back. -/
theorem readDigits_digits (value : Nat) : readDigits (digits value) 0 = value := by
  induction value using Nat.strongRecOn with
  | _ value smaller =>
    rw [digits]
    split
    · next small => simp [readDigits, digitValue, toNat_digitChar small]
    · next large =>
      have last : value % 10 < 10 := Nat.mod_lt _ (by decide)
      rw [readDigits_append, smaller (value / 10) (by omega)]
      simp [readDigits, digitValue, toNat_digitChar last]
      omega

end QuestionDesk.Decimal
