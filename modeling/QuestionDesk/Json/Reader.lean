import QuestionDesk.Text.Half
import QuestionDesk.Value

/-!
# Reading JSON

A reader of JSON texts that also takes the words for not-a-number and the infinities as numbers.
Of fields with one name the last value counts. Each refusal names its problem and its place. The
reader works on characters and answers with the value it read and the characters after it; the
place of a problem is kept as the number of characters that were still to be read. Lists and objects
may nest only as deep as the reader has room for them.
-/
namespace QuestionDesk.Json

open Decimal (Double Scientific readDigits isDigit digitValue)

/-- What can be wrong with a text. -/
inductive Problem where
  /-- A value was expected. -/
  | expectingValue
  /-- Something follows the value. -/
  | extraData
  /-- The name of a field was expected. -/
  | expectingName
  /-- A colon was expected. -/
  | expectingColon
  /-- A comma was expected. -/
  | expectingComma
  /-- A quoted text does not end. -/
  | unterminated
  /-- A quoted text holds a control character. -/
  | controlCharacter
  /-- A backslash is followed by an unknown letter. -/
  | unknownEscape
  /-- A numeric escape lacks four hexadecimal digits. -/
  | numericEscape
  /-- The text starts with a byte order mark. -/
  | byteOrderMark
  deriving DecidableEq, Repr

/-- The wording of a problem. -/
def Problem.message : Problem → String
  | .expectingValue => "Expecting value"
  | .extraData => "Extra data"
  | .expectingName => "Expecting property name enclosed in double quotes"
  | .expectingColon => "Expecting ':' delimiter"
  | .expectingComma => "Expecting ',' delimiter"
  | .unterminated => "Unterminated string starting at"
  | .controlCharacter => "Invalid control character at"
  | .unknownEscape => "Invalid \\escape"
  | .numericEscape => "Invalid \\uXXXX escape"
  | .byteOrderMark => "Unexpected UTF-8 BOM (decode using utf-8-sig)"

/-- Why reading stopped. -/
inductive Stop where
  /-- The text is malformed at a place that leaves so many characters. -/
  | malformed (problem : Problem) (remaining : Nat)
  /-- An integer has too many digits. -/
  | tooLong (digits : Nat)
  /-- There is no room for another list or object inside those that are being read. -/
  | tooDeep (kind : Kind)
  deriving DecidableEq, Repr

/-- What a reader answers: a value and the characters after it. -/
abbrev Answer (α : Type) := Except Stop (α × List Char)

/-- Whether a character is white space between JSON tokens. -/
def isSpace (char : Char) : Bool :=
  char = ' ' || char = '\t' || char = '\n' || char = '\r'

/-- The characters after leading white space. -/
def skipSpace (chars : List Char) : List Char := chars.dropWhile isSpace

/-- The characters after a word, if they start with it. -/
def after? : List Char → List Char → Option (List Char)
  | [], chars => some chars
  | letter :: word, char :: chars => if letter = char then after? word chars else none
  | _ :: _, [] => none

/-- The value of a hexadecimal digit. -/
def hexValue? (char : Char) : Option Nat :=
  if isDigit char then some (digitValue char)
  else if 'a' ≤ char ∧ char ≤ 'f' then some (char.toNat - 'a'.toNat + 10)
  else if 'A' ≤ char ∧ char ≤ 'F' then some (char.toNat - 'A'.toNat + 10)
  else none

/-- The number that four hexadecimal digits denote. -/
def hexQuad? (first second third fourth : Char) : Option Nat := do
  let high ← hexValue? first
  let upper ← hexValue? second
  let lower ← hexValue? third
  let low ← hexValue? fourth
  some (((high * 16 + upper) * 16 + lower) * 16 + low)

/-- The character that a letter after a backslash stands for. -/
def escaped? : Char → Option Char
  | '"' => some '"'
  | '\\' => some '\\'
  | '/' => some '/'
  | 'b' => some '\x08'
  | 'f' => some '\x0c'
  | 'n' => some '\n'
  | 'r' => some '\r'
  | 't' => some '\t'
  | _ => none

/-- What a code unit that stands alone is read as: half of a pair stays one. -/
def loneUnit (unit : Nat) : List Char :=
  if Text.isHalf unit then Text.standIn unit else [Char.ofNat unit]

/-- The character of two code units, if they form a pair. -/
def pairedUnits? (high low : Nat) : Option Char :=
  if Text.isHighHalf high ∧ Text.isLowHalf low then
    some (Char.ofNat (0x10000 + (high - 0xd800) * 0x400 + (low - 0xdc00)))
  else none

/-- The character that a code unit forms with a numeric escape right behind it, if they pair. -/
def pairedWith? (high : Nat) : List Char → Except Stop (Option Char)
  | '\\' :: 'u' :: a :: b :: c :: d :: _ :: rest =>
    if Text.isHighHalf high then
      match hexQuad? a b c d with
      | none => .error (.malformed .numericEscape (rest.length + 6))
      | some low => .ok (pairedUnits? high low)
    else .ok none
  | _ => .ok none

/-- Characters put in front of what is read. -/
def prepend (front : List Char) : Answer (List Char) → Answer (List Char)
  | .ok (chars, rest) => .ok (front ++ chars, rest)
  | .error stop => .error stop

/-- Reads a quoted text from behind its opening quote, at which `opening` characters were left. -/
def readQuoted (opening : Nat) : List Char → Answer (List Char)
  | [] => .error (.malformed .unterminated opening)
  | '"' :: rest => .ok ([], rest)
  | '\\' :: 'u' :: a :: b :: c :: d :: next :: rest =>
    match hexQuad? a b c d with
    | none => .error (.malformed .numericEscape (rest.length + 6))
    | some high =>
      match pairedWith? high (next :: rest) with
      | .error stop => .error stop
      | .ok (some char) => prepend [char] (readQuoted opening (rest.drop 5))
      | .ok none => prepend (loneUnit high) (readQuoted opening (next :: rest))
  | '\\' :: 'u' :: rest => .error (.malformed .numericEscape (rest.length + 1))
  | '\\' :: letter :: rest =>
    match escaped? letter with
    | some char => prepend [char] (readQuoted opening rest)
    | none => .error (.malformed .unknownEscape (rest.length + 2))
  | ['\\'] => .error (.malformed .unterminated opening)
  | char :: rest =>
    if char.toNat < 0x20 then .error (.malformed .controlCharacter (rest.length + 1))
    else prepend [char] (readQuoted opening rest)
termination_by chars => chars.length
decreasing_by all_goals simp +arith

/-- The fraction after an integral part: a point and at least one digit. -/
def takeFraction : List Char → List Char × List Char
  | '.' :: rest =>
    if (rest.takeWhile isDigit).isEmpty then ([], '.' :: rest)
    else (rest.takeWhile isDigit, rest.dropWhile isDigit)
  | chars => ([], chars)

/-- The exponent after a mantissa: a letter, an optional sign and at least one digit. -/
def takeExponent : List Char → Option Int × List Char
  | letter :: rest =>
    if letter = 'e' ∨ letter = 'E' then
      let (negative, unsigned) : Bool × List Char :=
        match rest with
        | '-' :: more => (true, more)
        | '+' :: more => (false, more)
        | more => (false, more)
      let written := unsigned.takeWhile isDigit
      if written.isEmpty then (none, letter :: rest)
      else
        let size : Int := (readDigits written 0 : Nat)
        (some (if negative then -size else size), unsigned.dropWhile isDigit)
    else (none, letter :: rest)
  | [] => (none, [])

/-- The most digits an integer may have. -/
def digitLimit : Nat := 4300

/-- The number behind an optional minus sign, absent when no digit stands there. A number is an
integer unless it has a fraction or an exponent. -/
def readUnsigned? (negative : Bool) : List Char → Option (Answer Value)
  | [] => none
  | first :: rest =>
    if isDigit first then
      let (whole, afterWhole) :=
        if first = '0' then ([first], rest)
        else (first :: rest.takeWhile isDigit, rest.dropWhile isDigit)
      let (fraction, afterFraction) := takeFraction afterWhole
      let (exponent, after) := takeExponent afterFraction
      if fraction.isEmpty ∧ exponent = none then
        if digitLimit < whole.length then some (.error (.tooLong whole.length))
        else
          let size : Int := (readDigits whole 0 : Nat)
          some (.ok (.int (if negative then -size else size), after))
      else
        let coefficient := readDigits fraction (readDigits whole 0)
        let number : Scientific :=
          ⟨negative, coefficient, exponent.getD 0 - (fraction.length : Int)⟩
        some (.ok (.float number.toDouble, after))
    else none

/-- Reads a number or one of the words for special numbers. -/
def readNumber (chars : List Char) : Answer Value :=
  let refused := Except.error (.malformed .expectingValue chars.length)
  match chars with
  | 'N' :: rest =>
    match after? "aN".toList rest with
    | some after => .ok (.float .nan, after)
    | none => refused
  | 'I' :: rest =>
    match after? "nfinity".toList rest with
    | some after => .ok (.float (.infinite false), after)
    | none => refused
  | '-' :: rest =>
    match after? "Infinity".toList rest with
    | some after => .ok (.float (.infinite true), after)
    | none => (readUnsigned? true rest).getD refused
  | _ => (readUnsigned? false chars).getD refused

/-- Reads one of the words for nothing and the truth values, or a number. -/
def readAtom (chars : List Char) : Answer Value :=
  match after? "null".toList chars with
  | some after => .ok (.null, after)
  | none =>
    match after? "true".toList chars with
    | some after => .ok (.bool true, after)
    | none =>
      match after? "false".toList chars with
      | some after => .ok (.bool false, after)
      | none => readNumber chars

mutual

/-- Reads a value, with room for so many levels of lists and objects; `depth` bounds the number of
steps and is never reached when it is at least the number of characters. -/
def readValue : Nat → Nat → List Char → Answer Value
  | 0, _, chars => .error (.malformed .expectingValue chars.length)
  | depth + 1, room, chars =>
    match chars with
    | '"' :: rest =>
      match readQuoted chars.length rest with
      | .ok (text, after) => .ok (.text (String.ofList text), after)
      | .error stop => .error stop
    | '{' :: rest =>
      match room with
      | 0 => .error (.tooDeep .object)
      | room + 1 =>
        match skipSpace rest with
        | '}' :: after => .ok (.object [], after)
        | start =>
          match readMembers depth room start with
          | .ok (pairs, after) => .ok (.object (Fields.ofPairs pairs), after)
          | .error stop => .error stop
    | '[' :: rest =>
      match room with
      | 0 => .error (.tooDeep .list)
      | room + 1 =>
        match skipSpace rest with
        | ']' :: after => .ok (.list [], after)
        | start =>
          match readItems depth room start with
          | .ok (items, after) => .ok (.list items, after)
          | .error stop => .error stop
    | _ => readAtom chars

/-- Reads the items of a list up to its closing bracket. -/
def readItems : Nat → Nat → List Char → Answer (List Value)
  | 0, _, chars => .error (.malformed .expectingValue chars.length)
  | depth + 1, room, chars =>
    match readValue depth room chars with
    | .error stop => .error stop
    | .ok (item, afterItem) =>
      match skipSpace afterItem with
      | ']' :: after => .ok ([item], after)
      | ',' :: more =>
        match readItems depth room (skipSpace more) with
        | .ok (items, after) => .ok (item :: items, after)
        | .error stop => .error stop
      | other => .error (.malformed .expectingComma other.length)

/-- Reads the fields of an object up to its closing brace. -/
def readMembers : Nat → Nat → List Char → Answer (List (String × Value))
  | 0, _, chars => .error (.malformed .expectingName chars.length)
  | depth + 1, room, chars =>
    match chars with
    | '"' :: rest =>
      match readQuoted chars.length rest with
      | .error stop => .error stop
      | .ok (name, afterName) =>
        match skipSpace afterName with
        | ':' :: beforeValue =>
          match readValue depth room (skipSpace beforeValue) with
          | .error stop => .error stop
          | .ok (value, afterValue) =>
            match skipSpace afterValue with
            | '}' :: after => .ok ([(String.ofList name, value)], after)
            | ',' :: more =>
              match readMembers depth room (skipSpace more) with
              | .ok (pairs, after) => .ok ((String.ofList name, value) :: pairs, after)
              | .error stop => .error stop
            | other => .error (.malformed .expectingComma other.length)
        | other => .error (.malformed .expectingColon other.length)
    | _ => .error (.malformed .expectingName chars.length)

end

/-- Why a text is no JSON document. -/
inductive Refusal where
  /-- The text is malformed at a position, counted from zero. -/
  | malformed (problem : Problem) (line column position : Nat)
  /-- An integer has too many digits. -/
  | tooLong (digits : Nat)
  /-- Lists and objects nest too deep, one of this kind being the first beyond the limit. -/
  | tooDeep (kind : Kind)
  deriving DecidableEq, Repr

/-- The wording of a refusal. -/
def Refusal.message : Refusal → String
  | .malformed problem line column position =>
    problem.message ++ ": line " ++ Decimal.naturalText line ++ " column " ++
      Decimal.naturalText column ++ " (char " ++ Decimal.naturalText position ++ ")"
  | .tooLong digits =>
    "Exceeds the limit (" ++ Decimal.naturalText digitLimit ++
      " digits) for integer string conversion: value has " ++ Decimal.naturalText digits ++
      " digits; use sys.set_int_max_str_digits() to increase the limit"
  | .tooDeep kind =>
    "maximum recursion depth exceeded while decoding a JSON " ++
      (if kind = .object then "object" else "array") ++ " from a unicode string"

/-- The refusal of a text whose reading stopped. -/
def Stop.refusal (chars : List Char) : Stop → Refusal
  | .malformed problem remaining =>
    let position := chars.length - remaining
    let passed := chars.take position
    let line := passed.count '\n' + 1
    let column := (passed.reverse.takeWhile (· ≠ '\n')).length + 1
    .malformed problem line column position
  | .tooLong digits => .tooLong digits
  | .tooDeep kind => .tooDeep kind

/-- Reads a whole document, with white space around the value. -/
def readDocument (room : Nat) (chars : List Char) : Except Stop Value :=
  match readValue (chars.length + 1) room (skipSpace chars) with
  | .error stop => .error stop
  | .ok (value, after) =>
    match skipSpace after with
    | [] => .ok value
    | other => .error (.malformed .extraData other.length)

/-- Reads a text as a JSON document, with room for so many levels of lists and objects. -/
def readWithin (room : Nat) (text : String) : Except Refusal Value :=
  let chars := text.toList
  let answer :=
    if chars.head? = some '\ufeff' then .error (.malformed .byteOrderMark chars.length)
    else readDocument room chars
  match answer with
  | .ok value => .ok value
  | .error stop => .error (stop.refusal chars)

/-- Reads a text as a JSON document. There is as much room as any text of its length can need. -/
def read (text : String) : Except Refusal Value := readWithin text.toList.length text

/-- For how many levels of lists and objects there is room in the body of a message: the limit of
calls within one another, less those that lead to the reading or writing. -/
def nestingLimit : Nat := 950

/-- Reads the body of a message, which may start with a byte order mark. -/
def readBody (text : String) : Except Refusal Value :=
  match text.toList with
  | '\ufeff' :: rest => readWithin nestingLimit (String.ofList rest)
  | _ => readWithin nestingLimit text

end QuestionDesk.Json
