import QuestionDesk.Proofs.Json.RoundTrip

/-!
# The grammar of JSON

What a text stands for by the grammar of JSON, which knows no words for not-a-number and the
infinities, and no limit on digits. Of fields with one name the last value counts here too. What is
written for a value stands for that value and nothing else where all its numbers are finite, and for
nothing at all where one is not.
-/
namespace QuestionDesk.Json

open Decimal (Double digits digits_head isDigit isDigit_of_mem_digits readDigits takeWhile_digits
  dropWhile_digits)

/-! ## The grammar -/

/-- The number of which a text begins with the longest form, behind a minus sign or not, and the
text after it. -/
def number? (negative : Bool) : List Char → Option (Value × List Char)
  | [] => none
  | first :: rest =>
    if isDigit first then
      let (whole, afterWhole) :=
        if first = '0' then ([first], rest)
        else (first :: rest.takeWhile isDigit, rest.dropWhile isDigit)
      let (fraction, afterFraction) := takeFraction afterWhole
      let (exponent, after) := takeExponent afterFraction
      if fraction.isEmpty ∧ exponent = none then
        let size : Int := (readDigits whole 0 : Nat)
        some (.int (if negative then -size else size), after)
      else
        some (.float (Decimal.Scientific.toDouble ⟨negative,
          readDigits fraction (readDigits whole 0),
          exponent.getD 0 - (fraction.length : Int)⟩), after)
    else none

mutual

/-- A text begins with the form of a value, and another text comes after it. -/
inductive Reads : List Char → Value → List Char → Prop where
  /-- The word for nothing. -/
  | null {rest : List Char} : Reads ('n' :: 'u' :: 'l' :: 'l' :: rest) .null rest
  /-- The word for true. -/
  | yes {rest : List Char} : Reads ('t' :: 'r' :: 'u' :: 'e' :: rest) (.bool true) rest
  /-- The word for false. -/
  | no {rest : List Char} : Reads ('f' :: 'a' :: 'l' :: 's' :: 'e' :: rest) (.bool false) rest
  /-- A number without a sign. -/
  | unsigned {chars rest : List Char} {value : Value}
    (counts : number? false chars = some (value, rest)) : Reads chars value rest
  /-- A number behind a minus sign. -/
  | signed {chars rest : List Char} {value : Value}
    (counts : number? true chars = some (value, rest)) : Reads ('-' :: chars) value rest
  /-- A quoted text. -/
  | text {chars text rest : List Char} (quoted : readQuoted 0 chars = .ok (text, rest)) :
    Reads ('"' :: chars) (.text (String.ofList text)) rest
  /-- A list without items. -/
  | emptyList {chars rest : List Char} (closes : skipSpace chars = ']' :: rest) :
    Reads ('[' :: chars) (.list []) rest
  /-- A list. -/
  | list {chars rest : List Char} {items : List Value}
    (inside : ReadsItems (skipSpace chars) items rest) : Reads ('[' :: chars) (.list items) rest
  /-- An object without fields. -/
  | emptyObject {chars rest : List Char} (closes : skipSpace chars = '\x7d' :: rest) :
    Reads ('\x7b' :: chars) (.object []) rest
  /-- An object. -/
  | object {chars rest : List Char} {pairs : Fields}
    (inside : ReadsMembers (skipSpace chars) pairs rest) :
    Reads ('\x7b' :: chars) (.object (Fields.ofPairs pairs)) rest

/-- A text begins with the items of a list and the bracket that closes it. -/
inductive ReadsItems : List Char → List Value → List Char → Prop where
  /-- The last item. -/
  | last {chars after rest : List Char} {item : Value} (reads : Reads chars item after)
    (closes : skipSpace after = ']' :: rest) : ReadsItems chars [item] rest
  /-- An item before others. -/
  | next {chars after more rest : List Char} {item : Value} {items : List Value}
    (reads : Reads chars item after) (parts : skipSpace after = ',' :: more)
    (others : ReadsItems (skipSpace more) items rest) : ReadsItems chars (item :: items) rest

/-- A text begins with the fields of an object and the brace that closes it. -/
inductive ReadsMembers : List Char → Fields → List Char → Prop where
  /-- The last field. -/
  | last {chars name behind before after rest : List Char} {value : Value}
    (quoted : readQuoted 0 chars = .ok (name, behind)) (assigns : skipSpace behind = ':' :: before)
    (reads : Reads (skipSpace before) value after) (closes : skipSpace after = '\x7d' :: rest) :
    ReadsMembers ('"' :: chars) [(String.ofList name, value)] rest
  /-- A field before others. -/
  | next {chars name behind before after more rest : List Char} {value : Value} {pairs : Fields}
    (quoted : readQuoted 0 chars = .ok (name, behind)) (assigns : skipSpace behind = ':' :: before)
    (reads : Reads (skipSpace before) value after) (parts : skipSpace after = ',' :: more)
    (others : ReadsMembers (skipSpace more) pairs rest) :
    ReadsMembers ('"' :: chars) ((String.ofList name, value) :: pairs) rest

end

/-- A text is a JSON document that stands for a value: it holds the form of the value and nothing
else but white space around it. -/
def Document (text : String) (value : Value) : Prop :=
  ∃ rest, Reads (skipSpace text.toList) value rest ∧ skipSpace rest = []

/-! ## Values whose names differ -/

mutual

/-- No object in a value has two fields of one name. -/
def Distinct : Value → Prop
  | .list items => ItemsDistinct items
  | .object fields => (fields.map Prod.fst).Nodup ∧ FieldsDistinct fields
  | _ => True

/-- No object in any of the items has two fields of one name. -/
def ItemsDistinct : List Value → Prop
  | [] => True
  | item :: items => Distinct item ∧ ItemsDistinct items

/-- No object in the value of any field has two fields of one name. -/
def FieldsDistinct : List (String × Value) → Prop
  | [] => True
  | (_, value) :: fields => Distinct value ∧ FieldsDistinct fields

end

mutual

/-- The names differ in a value that a text can hold. -/
theorem Readable.distinct : (value : Value) → Readable value → Distinct value
  | .null, _ | .bool _, _ | .int _, _ | .float _, _ | .text _, _ => trivial
  | .list items, readable => ItemsReadable.distinct items readable
  | .object fields, readable => ⟨readable.1, FieldsReadable.distinct fields readable.2⟩

/-- The names differ in items that a text can hold. -/
theorem ItemsReadable.distinct :
    (items : List Value) → ItemsReadable items → ItemsDistinct items
  | [], _ => trivial
  | item :: items, readable =>
    ⟨Readable.distinct item readable.1, ItemsReadable.distinct items readable.2⟩

/-- The names differ in fields that a text can hold. -/
theorem FieldsReadable.distinct :
    (fields : List (String × Value)) → FieldsReadable fields → FieldsDistinct fields
  | [], _ => trivial
  | (_, value) :: fields, readable =>
    ⟨Readable.distinct value readable.1, FieldsReadable.distinct fields readable.2⟩

end

/-- The names differ in fields when they do in the value of each of them. -/
theorem fieldsDistinct_iff {fields : List (String × Value)} :
    FieldsDistinct fields ↔ ∀ field ∈ fields, Distinct field.2 := by
  induction fields with
  | nil => simp [FieldsDistinct]
  | cons field fields same =>
    obtain ⟨name, value⟩ := field
    simp [FieldsDistinct, same]

/-! ## Numbers -/

/-- What the reader takes for a number is one by the grammar. -/
theorem number?_of_readUnsigned? {negative : Bool} {chars : List Char} {answer : Value × List Char}
    (reads : readUnsigned? negative chars = some (.ok answer)) :
    number? negative chars = some answer := by
  cases chars with
  | nil => cases reads
  | cons first rest =>
    simp only [readUnsigned?] at reads
    simp only [number?]
    generalize (if first = '0' then ([first], rest)
      else (first :: rest.takeWhile isDigit, rest.dropWhile isDigit)) = parts at reads ⊢
    split at reads
    · next digit =>
      rw [if_pos digit]
      split at reads
      · next plain =>
        rw [if_pos plain]
        split at reads
        · cases reads
        · cases reads
          rfl
      · next broken =>
        rw [if_neg broken]
        cases reads
        rfl
    · cases reads

/-- The digits of a natural number are read as an integer. -/
theorem number?_digits (negative : Bool) (value : Nat) {rest : List Char}
    (ends : NoNumberNext rest) : number? negative (digits value ++ rest) =
      some (.int (if negative then -(value : Int) else value), rest) := by
  have fraction : takeFraction rest = ([], rest) :=
    takeFraction_none fun char first => (ends char first).2.1
  have exponent : takeExponent rest = (none, rest) :=
    takeExponent_none fun char first => (ends char first).2.2
  have reads := Decimal.readDigits_digits value
  have all : ∀ char ∈ digits value, isDigit char = true := fun _ => isDigit_of_mem_digits
  rcases digits_head value with ⟨written, _⟩ | ⟨first, others, written, leads⟩
  · rw [written] at reads ⊢
    simp only [List.cons_append, List.nil_append, number?, if_true, fraction, exponent,
      List.isEmpty_nil, and_self, reads]
    rfl
  · rw [written] at all reads ⊢
    have head : isDigit first = true := all first List.mem_cons_self
    have tail : ∀ char ∈ others, isDigit char = true :=
      fun char member => all char (List.mem_cons_of_mem _ member)
    simp only [List.cons_append, number?, head, if_true, leads, if_false,
      takeWhile_digits tail ends.noDigit, dropWhile_digits tail ends.noDigit, fraction, exponent,
      List.isEmpty_nil, and_self, reads]

/-- A number begins with a digit. -/
theorem isDigit_of_number? {negative : Bool} {first : Char} {chars rest : List Char}
    {value : Value} (counts : number? negative (first :: chars) = some (value, rest)) :
    isDigit first = true := by
  simp only [number?] at counts
  split at counts
  · assumption
  · cases counts

/-! ## What a text begins with -/

section Forms

variable {chars rest : List Char} {value : Value}

/-- What begins with a digit, behind a minus sign or not, is a number. -/
theorem reads_number {negative : Bool} {first : Char} (digit : isDigit first = true) :
    Reads ((if negative then ['-'] else []) ++ first :: chars) value rest ↔
      number? negative (first :: chars) = some (value, rest) := by
  cases negative with
  | false =>
    refine ⟨fun reads => ?_, .unsigned⟩
    change Reads (first :: chars) value rest at reads
    cases reads with
    | unsigned counts => exact counts
    | _ => cases digit
  | true =>
    refine ⟨fun reads => ?_, .signed⟩
    change Reads ('-' :: first :: chars) value rest at reads
    generalize start : '-' :: first :: chars = whole at reads
    cases reads with
    | signed counts =>
      cases start
      exact counts
    | unsigned counts =>
      subst start
      cases isDigit_of_number? counts
    | _ => cases start

/-- The words for nothing and the truth values stand for these. -/
theorem reads_word :
    (Reads ("null".toList ++ chars) value rest ↔ value = .null ∧ rest = chars) ∧
    (Reads ("true".toList ++ chars) value rest ↔ value = .bool true ∧ rest = chars) ∧
    (Reads ("false".toList ++ chars) value rest ↔ value = .bool false ∧ rest = chars) := by
  refine ⟨⟨fun reads => ?_, ?_⟩, ⟨fun reads => ?_, ?_⟩, ⟨fun reads => ?_, ?_⟩⟩
  case refine_2 | refine_4 | refine_6 =>
    rintro ⟨rfl, rfl⟩
    constructor
  all_goals
    generalize start : String.toList _ ++ chars = whole at reads
    cases reads with
    | unsigned counts =>
      subst start
      cases isDigit_of_number? counts
    | _ => cases start <;> exact ⟨rfl, rfl⟩

/-- What begins like no form of a value stands for no value. -/
theorem not_reads {first : Char} (digitless : isDigit first = false)
    (other : first ∉ ['n', 't', 'f', '-', '"', '[', '\x7b']) :
    ¬Reads (first :: chars) value rest := by
  intro reads
  generalize start : first :: chars = whole at reads
  cases reads with
  | unsigned counts =>
    subst start
    cases digitless.symm.trans (isDigit_of_number? counts)
  | _ =>
    cases start
    exact other (by decide)

/-- What begins with a minus sign and no digit stands for no value. -/
theorem not_reads_minus {first : Char} (digitless : isDigit first = false) :
    ¬Reads ('-' :: first :: chars) value rest := by
  intro reads
  generalize start : '-' :: first :: chars = whole at reads
  cases reads with
  | signed counts =>
    cases start
    cases digitless.symm.trans (isDigit_of_number? counts)
  | unsigned counts =>
    subst start
    cases isDigit_of_number? counts
  | _ => cases start

/-- What begins with a quote stands for the quoted text. -/
theorem reads_quoted : Reads ('"' :: chars) value rest ↔ ∃ text,
    readQuoted 0 chars = .ok (text, rest) ∧ value = .text (String.ofList text) := by
  constructor
  · intro reads
    generalize start : '"' :: chars = whole at reads
    cases reads with
    | text quoted =>
      cases start
      exact ⟨_, quoted, rfl⟩
    | unsigned counts =>
      subst start
      cases isDigit_of_number? counts
    | _ => cases start
  · rintro ⟨text, quoted, rfl⟩
    exact .text quoted

/-- What begins with a bracket stands for a list. -/
theorem reads_list : Reads ('[' :: chars) value rest ↔
    skipSpace chars = ']' :: rest ∧ value = .list [] ∨
      ∃ items, ReadsItems (skipSpace chars) items rest ∧ value = .list items := by
  constructor
  · intro reads
    generalize start : '[' :: chars = whole at reads
    cases reads with
    | emptyList closes =>
      cases start
      exact Or.inl ⟨closes, rfl⟩
    | list inside =>
      cases start
      exact Or.inr ⟨_, inside, rfl⟩
    | unsigned counts =>
      subst start
      cases isDigit_of_number? counts
    | _ => cases start
  · rintro (⟨closes, rfl⟩ | ⟨items, inside, rfl⟩)
    · exact .emptyList closes
    · exact .list inside

/-- What begins with a brace stands for an object. -/
theorem reads_object : Reads ('\x7b' :: chars) value rest ↔
    skipSpace chars = '\x7d' :: rest ∧ value = .object [] ∨
      ∃ pairs, ReadsMembers (skipSpace chars) pairs rest ∧
        value = .object (Fields.ofPairs pairs) := by
  constructor
  · intro reads
    generalize start : '\x7b' :: chars = whole at reads
    cases reads with
    | emptyObject closes =>
      cases start
      exact Or.inl ⟨closes, rfl⟩
    | object inside =>
      cases start
      exact Or.inr ⟨_, inside, rfl⟩
    | unsigned counts =>
      subst start
      cases isDigit_of_number? counts
    | _ => cases start
  · rintro (⟨closes, rfl⟩ | ⟨pairs, inside, rfl⟩)
    · exact .emptyObject closes
    · exact .object inside

/-- Items are the first one, and those behind a comma. -/
theorem readsItems_iff {items : List Value} : ReadsItems chars items rest ↔ ∃ item after,
    Reads chars item after ∧ (skipSpace after = ']' :: rest ∧ items = [item] ∨
      ∃ more others, skipSpace after = ',' :: more ∧ ReadsItems (skipSpace more) others rest ∧
        items = item :: others) := by
  constructor
  · intro reads
    cases reads with
    | last reads closes => exact ⟨_, _, reads, Or.inl ⟨closes, rfl⟩⟩
    | next reads parts others => exact ⟨_, _, reads, Or.inr ⟨_, _, parts, others, rfl⟩⟩
  · rintro ⟨item, after, reads, ⟨closes, rfl⟩ | ⟨more, items, parts, others, rfl⟩⟩
    · exact .last reads closes
    · exact .next reads parts others

/-- Fields are the first one, and those behind a comma. -/
theorem readsMembers_iff {pairs : Fields} : ReadsMembers ('"' :: chars) pairs rest ↔
    ∃ name behind before value after, readQuoted 0 chars = .ok (name, behind) ∧
      skipSpace behind = ':' :: before ∧ Reads (skipSpace before) value after ∧
        (skipSpace after = '\x7d' :: rest ∧ pairs = [(String.ofList name, value)] ∨
          ∃ more others, skipSpace after = ',' :: more ∧ ReadsMembers (skipSpace more) others rest ∧
            pairs = (String.ofList name, value) :: others) := by
  constructor
  · intro reads
    cases reads with
    | last quoted assigns reads closes =>
      exact ⟨_, _, _, _, _, quoted, assigns, reads, Or.inl ⟨closes, rfl⟩⟩
    | next quoted assigns reads parts others =>
      exact ⟨_, _, _, _, _, quoted, assigns, reads, Or.inr ⟨_, _, parts, others, rfl⟩⟩
  · rintro ⟨name, behind, before, value, after, quoted, assigns, reads, ⟨closes, rfl⟩ |
      ⟨more, others, parts, inside, rfl⟩⟩
    · exact .last quoted assigns reads closes
    · exact .next quoted assigns reads parts inside

end Forms

/-! ## What is written -/

/-- The text of an integer is its digits, behind a minus sign when it is negative. -/
theorem reads_integerText (value : Int) {rest : List Char} (ends : NoNumberNext rest)
    {read : Value} {after : List Char} :
    Reads ((Decimal.integerText value).toList ++ rest) read after ↔
      read = .int value ∧ after = rest := by
  obtain ⟨first, others, written, digit⟩ : ∃ first others,
      digits value.natAbs = first :: others ∧ isDigit first = true := by
    cases written : digits value.natAbs with
    | nil => exact absurd written (Decimal.digits_ne_nil _)
    | cons first others =>
      exact ⟨first, others, rfl, @isDigit_of_mem_digits value.natAbs first
        (by rw [written]; exact List.mem_cons_self)⟩
  have counts := number?_digits (decide (value < 0)) value.natAbs ends
  rw [signed_natAbs, written, List.cons_append] at counts
  rw [integerText_chars, List.append_assoc, written, List.cons_append, reads_number digit, counts]
  simp [eq_comm]

/-- The text of a finite double stands for the double, and the words for the other doubles stand for
nothing. -/
theorem reads_numberText (value : Double) {rest : List Char} (ends : NoNumberNext rest)
    {read : Value} {after : List Char} :
    Reads ((numberSpelling.text value).toList ++ rest) read after ↔
      value.isFinite = true ∧ read = .float value ∧ after = rest := by
  cases value with
  | nan =>
    exact iff_of_false (not_reads (show isDigit 'N' = false from rfl) (by decide)) (nomatch ·.1)
  | infinite negative =>
    refine iff_of_false ?_ (nomatch ·.1)
    cases negative with
    | false => exact not_reads (show isDigit 'I' = false from rfl) (by decide)
    | true => exact not_reads_minus (show isDigit 'I' = false from rfl)
  | finite negative rank =>
    obtain ⟨numeral, written, broken, same⟩ :=
      Decimal.text_numeral numberSpelling (by decide) negative rank
    obtain ⟨first, others, head, digit⟩ := numeral_head broken
    have counts := number?_of_readUnsigned? (readUnsigned?_numeral broken negative ends)
    rw [same, head, List.cons_append] at counts
    rw [written, head, List.append_assoc, List.cons_append, reads_number digit, counts]
    simp [eq_comm, Double.isFinite]

/-- No items begin with the bracket that closes a list. -/
theorem not_readsItems {chars rest : List Char} {items : List Value} :
    ¬ReadsItems (']' :: chars) items rest := by
  rw [readsItems_iff]
  rintro ⟨item, after, reads, _⟩
  exact not_reads rfl (by decide) reads

/-- A list whose items begin with something else than the closing bracket has these items. -/
theorem reads_filledList {chars rest : List Char} {value : Value}
    (filled : ∀ after, skipSpace chars ≠ ']' :: after) : Reads ('[' :: chars) value rest ↔
      ∃ items, ReadsItems (skipSpace chars) items rest ∧ value = .list items :=
  reads_list.trans (or_iff_right fun empty => filled _ empty.1)

/-- An object whose fields begin with something else than the closing brace has these fields. -/
theorem reads_filledObject {chars rest : List Char} {value : Value}
    (filled : ∀ after, skipSpace chars ≠ '\x7d' :: after) : Reads ('\x7b' :: chars) value rest ↔
      ∃ pairs, ReadsMembers (skipSpace chars) pairs rest ∧
        value = .object (Fields.ofPairs pairs) :=
  reads_object.trans (or_iff_right fun empty => filled _ empty.1)

/-- The first field of an object is read up to what stands behind its value. -/
theorem readsMembers_field (name : String) (value : Value) {rest after : List Char}
    {pairs : Fields} {finite : Prop} (reads : ∀ {read : Value} {behind : List Char},
      Reads (valueText value ++ rest) read behind ↔ finite ∧ read = value ∧ behind = rest) :
    ReadsMembers (quotedText name ++ [':', ' '] ++ valueText value ++ rest) pairs after ↔
      finite ∧ (skipSpace rest = '\x7d' :: after ∧ pairs = [(name, value)] ∨
        ∃ more others, skipSpace rest = ',' :: more ∧ ReadsMembers (skipSpace more) others after ∧
          pairs = (name, value) :: others) := by
  have assigns : skipSpace (':' :: ' ' :: (valueText value ++ rest)) =
      ':' :: ' ' :: (valueText value ++ rest) := rfl
  simp only [quotedText, List.cons_append, List.append_assoc, List.nil_append, readsMembers_iff,
    readQuoted_chars, Except.ok.injEq, Prod.mk.injEq]
  constructor
  · rintro ⟨_, _, before, read, behind, ⟨rfl, rfl⟩, colon, inside, goesOn⟩
    cases assigns.symm.trans colon
    rw [skipSpace_blank, skipSpace_valueText, reads] at inside
    obtain ⟨whole, rfl, rfl⟩ := inside
    rw [String.ofList_toList] at goesOn
    exact ⟨whole, goesOn⟩
  · rintro ⟨whole, goesOn⟩
    refine ⟨_, _, _, value, rest, ⟨rfl, rfl⟩, assigns, ?_, ?_⟩
    · rw [skipSpace_blank, skipSpace_valueText, reads]
      exact ⟨whole, rfl, rfl⟩
    · rw [String.ofList_toList]
      exact goesOn

mutual

/-- The text of a value whose names differ stands for that value where all its numbers are finite,
and for nothing where one is not. -/
theorem reads_valueText : (value : Value) → Distinct value → ∀ {rest : List Char},
    NoNumberNext rest → ∀ {read : Value} {after : List Char},
      Reads (valueText value ++ rest) read after ↔
        value.allFinite = true ∧ read = value ∧ after = rest
  | .null, _, rest, _, read, after => reads_word.1.trans (iff_and_self.mpr fun _ => rfl)
  | .bool true, _, rest, _, read, after => reads_word.2.1.trans (iff_and_self.mpr fun _ => rfl)
  | .bool false, _, rest, _, read, after => reads_word.2.2.trans (iff_and_self.mpr fun _ => rfl)
  | .int value, _, rest, ends, read, after =>
    (reads_integerText value ends).trans (iff_and_self.mpr fun _ => rfl)
  | .float value, _, rest, ends, read, after => reads_numberText value ends
  | .text value, _, rest, _, read, after => by
    simp only [valueText, quotedText, List.cons_append, List.append_assoc, List.nil_append,
      reads_quoted, readQuoted_chars, Except.ok.injEq, Prod.mk.injEq, Value.allFinite]
    constructor
    · rintro ⟨_, ⟨rfl, rfl⟩, rfl⟩
      exact ⟨trivial, by rw [String.ofList_toList], rfl⟩
    · rintro ⟨-, rfl, rfl⟩
      exact ⟨_, ⟨rfl, rfl⟩, by rw [String.ofList_toList]⟩
  | .list [], _, rest, _, read, after => by
    have closes : skipSpace (']' :: rest) = ']' :: rest := rfl
    change Reads ('[' :: ']' :: rest) read after ↔ _
    rw [reads_list, closes]
    constructor
    · rintro (⟨same, rfl⟩ | ⟨items, inside, _⟩)
      · exact ⟨rfl, rfl, (List.cons.inj same).2.symm⟩
      · exact absurd inside not_readsItems
    · rintro ⟨-, rfl, rfl⟩
      exact Or.inl ⟨rfl, rfl⟩
  | .list (item :: items), distinct, rest, _, read, after => by
    obtain ⟨first, others, written, _, open_⟩ := itemsText_head item items
    have own := skipSpace_itemsText item items (']' :: rest)
    have inside := fun {read after} =>
      @readsItems_itemsText (item :: items) (List.cons_ne_nil _ _) distinct rest read after
    simp only [valueText, List.cons_append, List.append_assoc, List.nil_append]
    have filled : ∀ after, skipSpace (itemsText (item :: items) ++ ']' :: rest) ≠ ']' :: after := by
      intro after closed
      rw [own, written] at closed
      exact open_ (List.cons.inj closed).1
    rw [reads_filledList filled, own]
    constructor
    · rintro ⟨_, reads, rfl⟩
      obtain ⟨finite, rfl, rfl⟩ := inside.mp reads
      exact ⟨finite, rfl, rfl⟩
    · rintro ⟨finite, rfl, rfl⟩
      exact ⟨_, inside.mpr ⟨finite, rfl, rfl⟩, rfl⟩
  | .object [], _, rest, _, read, after => by
    have closes : skipSpace ('\x7d' :: rest) = '\x7d' :: rest := rfl
    change Reads ('\x7b' :: '\x7d' :: rest) read after ↔ _
    rw [reads_object, closes]
    constructor
    · rintro (⟨same, rfl⟩ | ⟨pairs, inside, _⟩)
      · exact ⟨rfl, rfl, (List.cons.inj same).2.symm⟩
      · cases inside
    · rintro ⟨-, rfl, rfl⟩
      exact Or.inl ⟨rfl, rfl⟩
  | .object (field :: fields), distinct, rest, _, read, after => by
    obtain ⟨others, written⟩ := fieldsText_head field fields
    have own := skipSpace_fieldsText field fields ('\x7d' :: rest)
    have inside := fun {read after} =>
      @readsMembers_fieldsText (field :: fields) (List.cons_ne_nil _ _) distinct.2 rest read after
    -- Of two fields with one name a reader keeps one only.
    have same := ofPairs_of_nodup distinct.1
    simp only [valueText, List.cons_append, List.append_assoc, List.nil_append]
    have filled : ∀ after, skipSpace (fieldsText (field :: fields) ++ '\x7d' :: rest) ≠
        '\x7d' :: after := by
      intro after closed
      rw [own, written] at closed
      cases (List.cons.inj closed).1
    rw [reads_filledObject filled, own]
    constructor
    · rintro ⟨_, reads, rfl⟩
      obtain ⟨finite, rfl, rfl⟩ := inside.mp reads
      exact ⟨finite, congrArg Value.object same, rfl⟩
    · rintro ⟨finite, rfl, rfl⟩
      exact ⟨_, inside.mpr ⟨finite, rfl, rfl⟩, congrArg Value.object same.symm⟩

/-- The text of items whose names differ stands for these where all their numbers are finite. -/
theorem readsItems_itemsText : (items : List Value) → items ≠ [] → ItemsDistinct items →
    ∀ {rest : List Char} {read : List Value} {after : List Char},
      ReadsItems (itemsText items ++ ']' :: rest) read after ↔
        Value.itemsFinite items = true ∧ read = items ∧ after = rest
  | [], filled, _, _, _, _ => absurd rfl filled
  | [item], _, distinct, rest, read, after => by
    have own := fun {read after} =>
      @reads_valueText item distinct.1 _ (noNumber_of_mark (Or.inl rfl) rest) read after
    have closes : skipSpace (']' :: rest) = ']' :: rest := rfl
    rw [readsItems_iff, itemsText, Value.itemsFinite, Value.itemsFinite, Bool.and_true]
    simp only [own]
    constructor
    · rintro ⟨_, _, ⟨finite, rfl, rfl⟩, ⟨same, rfl⟩ | ⟨more, others, parts, _⟩⟩
      · exact ⟨finite, rfl, (List.cons.inj same).2.symm⟩
      · cases closes.symm.trans parts
    · rintro ⟨finite, rfl, rfl⟩
      exact ⟨_, _, ⟨finite, rfl, rfl⟩, Or.inl ⟨closes, rfl⟩⟩
  | item :: next :: items, _, distinct, rest, read, after => by
    have ends := noNumber_of_mark (Or.inr (Or.inr rfl))
      (' ' :: (itemsText (next :: items) ++ ']' :: rest))
    have own := fun {read after} => @reads_valueText item distinct.1 _ ends read after
    have inside := fun {read after} =>
      @readsItems_itemsText (next :: items) (List.cons_ne_nil _ _) distinct.2 rest read after
    have parts : skipSpace (',' :: ' ' :: (itemsText (next :: items) ++ ']' :: rest)) =
        ',' :: ' ' :: (itemsText (next :: items) ++ ']' :: rest) := rfl
    rw [readsItems_iff, itemsText]
    simp only [List.append_assoc, List.cons_append, List.nil_append, own]
    rw [Value.itemsFinite, Bool.and_eq_true]
    constructor
    · rintro ⟨_, _, ⟨finite, rfl, rfl⟩, ⟨closes, _⟩ | ⟨more, others, comma, goesOn, rfl⟩⟩
      · cases parts.symm.trans closes
      · cases parts.symm.trans comma
        rw [skipSpace_blank, skipSpace_itemsText] at goesOn
        obtain ⟨rest, rfl, rfl⟩ := inside.mp goesOn
        exact ⟨⟨finite, rest⟩, rfl, rfl⟩
    · rintro ⟨⟨finite, others⟩, rfl, rfl⟩
      refine ⟨_, _, ⟨finite, rfl, rfl⟩, Or.inr ⟨_, _, parts, ?_, rfl⟩⟩
      rw [skipSpace_blank, skipSpace_itemsText]
      exact inside.mpr ⟨others, rfl, rfl⟩

/-- The text of fields whose names differ stands for these where all their numbers are finite. -/
theorem readsMembers_fieldsText : (fields : List (String × Value)) → fields ≠ [] →
    FieldsDistinct fields → ∀ {rest : List Char} {read : Fields} {after : List Char},
      ReadsMembers (fieldsText fields ++ '\x7d' :: rest) read after ↔
        Value.fieldsFinite fields = true ∧ read = fields ∧ after = rest
  | [], filled, _, _, _, _ => absurd rfl filled
  | [(name, value)], _, distinct, rest, read, after => by
    have own := fun {read after} =>
      @reads_valueText value distinct.1 _ (noNumber_of_mark (Or.inr (Or.inl rfl)) rest) read after
    have closes : skipSpace ('\x7d' :: rest) = '\x7d' :: rest := rfl
    rw [fieldsText, readsMembers_field name value own, closes, Value.fieldsFinite,
      Value.fieldsFinite, Bool.and_true]
    constructor
    · rintro ⟨finite, ⟨same, rfl⟩ | ⟨more, others, parts, _⟩⟩
      · exact ⟨finite, rfl, (List.cons.inj same).2.symm⟩
      · cases parts
    · rintro ⟨finite, rfl, rfl⟩
      exact ⟨finite, Or.inl ⟨rfl, rfl⟩⟩
  | (name, value) :: next :: fields, _, distinct, rest, read, after => by
    have ends := noNumber_of_mark (Or.inr (Or.inr rfl))
      (' ' :: (fieldsText (next :: fields) ++ '\x7d' :: rest))
    have own := fun {read after} => @reads_valueText value distinct.1 _ ends read after
    have inside := fun {read after} =>
      @readsMembers_fieldsText (next :: fields) (List.cons_ne_nil _ _) distinct.2 rest read after
    have blanks : skipSpace (' ' :: (fieldsText (next :: fields) ++ '\x7d' :: rest)) =
        fieldsText (next :: fields) ++ '\x7d' :: rest :=
      (skipSpace_blank _).trans (skipSpace_fieldsText next fields _)
    have parts : skipSpace (',' :: ' ' :: (fieldsText (next :: fields) ++ '\x7d' :: rest)) =
        ',' :: ' ' :: (fieldsText (next :: fields) ++ '\x7d' :: rest) := rfl
    have whole := @readsMembers_field name value _ after read _ own
    simp only [fieldsText, List.append_assoc, List.cons_append, List.nil_append] at whole ⊢
    rw [whole, parts, Value.fieldsFinite, Bool.and_eq_true]
    constructor
    · rintro ⟨finite, ⟨closes, _⟩ | ⟨more, others, comma, goesOn, rfl⟩⟩
      · cases closes
      · cases comma
        rw [blanks] at goesOn
        obtain ⟨rest, rfl, rfl⟩ := inside.mp goesOn
        exact ⟨⟨finite, rest⟩, rfl, rfl⟩
    · rintro ⟨⟨finite, others⟩, rfl, rfl⟩
      refine ⟨finite, Or.inr ⟨_, _, rfl, ?_, rfl⟩⟩
      rw [blanks]
      exact inside.mpr ⟨others, rfl, rfl⟩

end

/-- What is written for a value whose names differ is a document that stands for the value, and for
nothing else, where all its numbers are finite, and is no document at all where one is not. -/
theorem document_write {value : Value} (distinct : Distinct value) (read : Value) :
    Document (write value) read ↔ value.allFinite = true ∧ read = value := by
  have reads : ∀ {after : List Char}, Reads (valueText value) read after ↔
      value.allFinite = true ∧ read = value ∧ after = [] := by
    intro after
    have whole := @reads_valueText value distinct [] (by rintro _ ⟨⟩) read after
    rwa [List.append_nil] at whole
  have start : skipSpace (valueText value) = valueText value := by
    have whole := skipSpace_valueText value []
    rwa [List.append_nil] at whole
  simp only [Document, write, String.toList_ofList, start, reads]
  constructor
  · rintro ⟨_, ⟨finite, same, rfl⟩, _⟩
    exact ⟨finite, same⟩
  · rintro ⟨finite, same⟩
    exact ⟨_, ⟨finite, same, rfl⟩, rfl⟩

end QuestionDesk.Json
