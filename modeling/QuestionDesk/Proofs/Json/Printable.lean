import QuestionDesk.Proofs.Json.Numbers

/-!
# One line

What is written for a value consists of printable characters only, so it never holds a line break.
-/
namespace QuestionDesk.Json

open Decimal (Double digits isDigit isDigit_of_mem_digits)

/-- Whether a character is one of printable ASCII. -/
def isPrintable (char : Char) : Bool := 0x20 ≤ char.toNat && char.toNat < 0x7f

/-- Digits are printable. -/
theorem isPrintable_of_isDigit {char : Char} (digit : isDigit char = true) :
    isPrintable char = true := by
  obtain ⟨least, most⟩ := Bool.and_eq_true_iff.mp digit
  have above : '0'.toNat ≤ char.toNat := of_decide_eq_true least
  have below : char.toNat ≤ '9'.toNat := of_decide_eq_true most
  have zero : '0'.toNat = 48 := rfl
  have nine : '9'.toNat = 57 := rfl
  simp only [isPrintable, Bool.and_eq_true, decide_eq_true_eq]
  omega

/-- The escape of a code unit is printable. -/
theorem isPrintable_unitEscape (unit : Nat) : (unitEscape unit).all isPrintable = true := by
  have digit : ∀ value : Nat,
      isPrintable ("0123456789abcdef".toList.getD (value % 16) '0') = true := by
    have all : ∀ digit < 16, isPrintable ("0123456789abcdef".toList.getD digit '0') = true := by
      decide
    exact fun value => all _ (Nat.mod_lt _ (by decide))
  simp only [unitEscape, List.all_cons, digit, List.all_nil, Bool.and_true]
  decide

/-- The written form of a character is printable. -/
theorem isPrintable_charText (char : Char) : (charText char).all isPrintable = true := by
  unfold charText
  split
  case h_8 =>
    dsimp only
    split
    · next visible => simpa [isPrintable] using visible
    · split
      · exact isPrintable_unitEscape _
      · rw [List.all_append, isPrintable_unitEscape, isPrintable_unitEscape]
        rfl
  all_goals decide

/-- The written form of characters is printable, also where halves stand among them. -/
theorem isPrintable_charsText (chars : List Char) : (charsText chars).all isPrintable = true := by
  fun_induction charsText chars <;>
    simp only [List.all_append, List.all_nil, isPrintable_charText, isPrintable_unitEscape,
      Bool.and_true, *]

/-- The written form of a text is printable. -/
theorem isPrintable_quotedText (text : String) : (quotedText text).all isPrintable = true := by
  simp only [quotedText, List.cons_append, List.all_cons, List.all_append, isPrintable_charsText]
  simp [isPrintable]

/-- The written form of an integer is printable. -/
theorem isPrintable_integerText (value : Int) :
    (Decimal.integerText value).toList.all isPrintable = true := by
  have all : (digits value.natAbs).all isPrintable = true :=
    List.all_eq_true.mpr fun _ member => isPrintable_of_isDigit (isDigit_of_mem_digits member)
  rw [integerText_chars, List.all_append, all]
  split <;> rfl

/-- The written form of a double is printable. -/
theorem isPrintable_numberText (value : Double) :
    (numberSpelling.text value).toList.all isPrintable = true := by
  have words : (['.', 'e', '+', '-'] ++ (numberSpelling.nan.toList ++
      numberSpelling.infinity.toList)).all isPrintable = true := rfl
  refine List.all_eq_true.mpr fun char member => ?_
  rcases Decimal.mem_text (by decide) member with digit | word
  · exact isPrintable_of_isDigit digit
  · rw [← List.mem_append, ← List.mem_append] at word
    exact List.all_eq_true.mp words char word

mutual

/-- The written form of a value is printable, so it stands on one line. -/
theorem isPrintable_valueText : (value : Value) → (valueText value).all isPrintable = true
  | .null => rfl
  | .bool value => by cases value <;> rfl
  | .int value => isPrintable_integerText value
  | .float value => isPrintable_numberText value
  | .text value => isPrintable_quotedText value
  | .list items => by
    rw [valueText, List.all_append, List.all_cons, isPrintable_itemsText items]
    rfl
  | .object fields => by
    rw [valueText, List.all_append, List.all_cons, isPrintable_fieldsText fields]
    rfl

/-- The written form of items is printable. -/
theorem isPrintable_itemsText : (items : List Value) →
    (itemsText items).all isPrintable = true
  | [] => rfl
  | [item] => isPrintable_valueText item
  | item :: next :: items => by
    rw [itemsText, List.all_append, List.all_append, isPrintable_valueText item,
      isPrintable_itemsText (next :: items)]
    rfl

/-- The written form of fields is printable. -/
theorem isPrintable_fieldsText : (fields : List (String × Value)) →
    (fieldsText fields).all isPrintable = true
  | [] => rfl
  | [(name, value)] => by
    rw [fieldsText, List.all_append, List.all_append, isPrintable_quotedText,
      isPrintable_valueText value]
    rfl
  | (name, value) :: next :: fields => by
    rw [fieldsText, List.all_append, List.all_append, List.all_append, List.all_append,
      isPrintable_quotedText, isPrintable_valueText value, isPrintable_fieldsText (next :: fields)]
    rfl

end

/-- What is written for a value is printable. -/
theorem isPrintable_of_mem_write {value : Value} {char : Char}
    (member : char ∈ (write value).toList) : isPrintable char = true := by
  rw [write, String.toList_ofList] at member
  exact List.all_eq_true.mp (isPrintable_valueText value) char member

/-- What is written for a value stands on one line. -/
theorem one_line (value : Value) : '\n' ∉ (write value).toList := by
  intro member
  cases isPrintable_of_mem_write member

/-- What is written for a value holds no carriage return. -/
theorem no_return (value : Value) : '\r' ∉ (write value).toList := by
  intro member
  cases isPrintable_of_mem_write member

end QuestionDesk.Json
