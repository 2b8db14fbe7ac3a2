import QuestionDesk.Text.Half
import QuestionDesk.Value

/-!
# Writing JSON

A value is written on one line: items and fields are parted by a comma and a blank, a name and its
value by a colon and a blank. Every character outside printable ASCII is written as an escape, one
outside the first plane as a pair of them, so that a written value never holds a line break.

The bodies of messages are written without the blanks, and with no more escapes than needed. Not
every value can be the body of a message: its numbers have to be finite, it must not nest too deep,
and its texts must have a UTF-8 form.
-/
namespace QuestionDesk.Json

/-- The escape of a code unit: a backslash, the letter u and four hexadecimal digits. -/
def unitEscape (unit : Nat) : List Char :=
  let digit (value : Nat) : Char := "0123456789abcdef".toList.getD (value % 16) '0'
  ['\\', 'u', digit (unit / 4096), digit (unit / 256), digit (unit / 16), digit unit]

/-- The written form of a character inside quotes. -/
def charText (char : Char) : List Char :=
  match char with
  | '"' => ['\\', '"']
  | '\\' => ['\\', '\\']
  | '\n' => ['\\', 'n']
  | '\r' => ['\\', 'r']
  | '\t' => ['\\', 't']
  | '\x08' => ['\\', 'b']
  | '\x0c' => ['\\', 'f']
  | _ =>
    let code := char.toNat
    if 0x20 ≤ code ∧ code < 0x7f then [char]
    else if code < 0x10000 then unitEscape code
    else
      let offset := code - 0x10000
      unitEscape (0xd800 + offset / 0x400) ++ unitEscape (0xdc00 + offset % 0x400)

/-- Whether characters begin with the second half of a pair. -/
def startsLow : List Char → Bool
  | first :: second :: _ => (Text.half? first second).any Text.isLowHalf
  | _ => false

/-- The written form of characters inside quotes. A half is written as the escape of its code unit,
but two that would be read as a pair are not written so: the first one is written as the characters
that stand for it. -/
def charsText : List Char → List Char
  | [] => []
  | [char] => charText char
  | first :: second :: rest =>
    match Text.half? first second with
    | some unit =>
      if Text.isHighHalf unit && startsLow rest then
        charText first ++ charText second ++ charsText rest
      else unitEscape unit ++ charsText rest
    | none => charText first ++ charsText (second :: rest)

/-- The written form of a text, with its quotes. -/
def quotedText (text : String) : List Char := '"' :: charsText text.toList ++ ['"']

/-- Numbers in JSON texts: as in query texts, but with the long words for special numbers. -/
def numberSpelling : Decimal.Spelling :=
  ⟨Decimal.plainSpelling.lowest, Decimal.plainSpelling.highest,
    Decimal.plainSpelling.exponentWidth, "NaN", "Infinity"⟩

mutual

/-- The written form of a value. -/
def valueText : Value → List Char
  | .null => "null".toList
  | .bool value => if value then "true".toList else "false".toList
  | .int value => (Decimal.integerText value).toList
  | .float value => (numberSpelling.text value).toList
  | .text value => quotedText value
  | .list items => '[' :: itemsText items ++ [']']
  | .object fields => '{' :: fieldsText fields ++ ['}']

/-- The written form of the items of a list. -/
def itemsText : List Value → List Char
  | [] => []
  | [item] => valueText item
  | item :: next :: rest => valueText item ++ [',', ' '] ++ itemsText (next :: rest)

/-- The written form of the fields of an object. -/
def fieldsText : List (String × Value) → List Char
  | [] => []
  | [(name, value)] => quotedText name ++ [':', ' '] ++ valueText value
  | (name, value) :: next :: rest =>
    quotedText name ++ [':', ' '] ++ valueText value ++ [',', ' '] ++ fieldsText (next :: rest)

end

/-- The JSON text of a value. -/
def write (value : Value) : String := String.ofList (valueText value)

/-! ## Bodies of messages -/

/-- The form in which a character is sent inside quotes. -/
def sentChar (char : Char) : List Char :=
  if char.toNat < 0x20 ∨ char = '"' ∨ char = '\\' then charText char else [char]

/-- The form in which a text is sent, with its quotes. -/
def sentText (text : String) : List Char := '"' :: text.toList.flatMap sentChar ++ ['"']

mutual

/-- The form in which a value is sent. -/
def sentValue : Value → List Char
  | .text value => sentText value
  | .list items => '[' :: sentItems items ++ [']']
  | .object fields => '{' :: sentFields fields ++ ['}']
  | value => valueText value

/-- The form in which the items of a list are sent. -/
def sentItems : List Value → List Char
  | [] => []
  | [item] => sentValue item
  | item :: next :: rest => sentValue item ++ [','] ++ sentItems (next :: rest)

/-- The form in which the fields of an object are sent. -/
def sentFields : List (String × Value) → List Char
  | [] => []
  | [(name, value)] => sentText name ++ [':'] ++ sentValue value
  | (name, value) :: next :: rest =>
    sentText name ++ [':'] ++ sentValue value ++ [','] ++ sentFields (next :: rest)

end

/-- Why a value cannot be sent. -/
inductive Hindrance where
  /-- A number in it is not finite. -/
  | notFinite
  /-- It nests too deep. -/
  | tooDeep
  /-- A text in it has no UTF-8 form. -/
  | unencodable (flaw : Text.Flaw)
  deriving DecidableEq, Repr

mutual

/-- What stops the writing of a value with room for so many levels of lists and objects. -/
def valueHindrance? : Nat → Value → Option Hindrance
  | _, .float value => if value.isFinite then none else some .notFinite
  | 0, .list _ | 0, .object _ => some .tooDeep
  | room + 1, .list items => itemsHindrance? room items
  | room + 1, .object fields => fieldsHindrance? room fields
  | _, _ => none

/-- What stops the writing of items, the first of them that is not written. -/
def itemsHindrance? : Nat → List Value → Option Hindrance
  | _, [] => none
  | room, item :: items => (valueHindrance? room item).or (itemsHindrance? room items)

/-- What stops the writing of fields, the first of them that is not written. -/
def fieldsHindrance? : Nat → List (String × Value) → Option Hindrance
  | _, [] => none
  | room, (_, value) :: fields => (valueHindrance? room value).or (fieldsHindrance? room fields)

end

/-- Why a value cannot be sent with room for so many levels of lists and objects. -/
def hindrance? (room : Nat) (value : Value) : Option Hindrance :=
  (valueHindrance? room value).or
    ((Text.flawAfter? 0 (sentValue value)).map .unencodable)

end QuestionDesk.Json
