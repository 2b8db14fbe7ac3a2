import QuestionDesk.Schema.Check
import QuestionDesk.Text.Blank

/-!
# Lenient conversions

Where a document should hold an integer, a number or a truth value, other values that denote one
are taken for it: texts in the usual spellings, truth values for numbers, and integral doubles for
integers. Texts and lists are never made from anything else.
-/
namespace QuestionDesk.Schema

open Decimal (Double Scientific isDigit readDigits)

/-- The characters of a run of digits without the single underscores between them, absent when
the run is empty, holds another character or has an underscore elsewhere. -/
def digitRun? : List Char → Option (List Char)
  | [] => none
  | [char] => if isDigit char then some [char] else none
  | char :: '_' :: rest =>
    if isDigit char then (digitRun? rest).map (char :: ·) else none
  | char :: next :: rest =>
    if isDigit char then (digitRun? (next :: rest)).map (char :: ·) else none

/-- The sign of a spelling and the characters after it. -/
def splitSign : List Char → Bool × List Char
  | '-' :: rest => (true, rest)
  | '+' :: rest => (false, rest)
  | chars => (false, chars)

/-- The integer that a text denotes: an optional sign, digits, and optionally a point with zeros
after it. -/
def integerOf? (text : String) : Option Int :=
  let (negative, unsigned) := splitSign (Text.trimBoth Text.isWhiteSpace text.toList)
  let whole := unsigned.takeWhile (· ≠ '.')
  let rest := unsigned.dropWhile (· ≠ '.')
  let wholesome := rest.isEmpty || (rest.length ≥ 2 && (rest.drop 1).all (· = '0'))
  match digitRun? whole with
  | some digits =>
    if wholesome then
      let size : Int := (readDigits digits 0 : Nat)
      some (if negative then -size else size)
    else none
  | none => none

/-- A text in lower case, as far as ASCII letters go. -/
def asciiLower (chars : List Char) : List Char := chars.map Char.toLower

/-- The digits of a part of a number that may be empty. -/
def partDigits? (chars : List Char) : Option (List Char) :=
  if chars.isEmpty then some [] else digitRun? chars

/-- The decimal number that characters without a sign denote: digits with an optional point, at
least one digit in all, and an optional exponent. -/
def decimalOf? (negative : Bool) (chars : List Char) : Option Scientific := do
  let isMark (char : Char) : Bool := char = 'e' || char = 'E'
  let mantissa := chars.takeWhile (!isMark ·)
  let whole ← partDigits? (mantissa.takeWhile (· ≠ '.'))
  let fraction ← partDigits? ((mantissa.dropWhile (· ≠ '.')).drop 1)
  let exponent : Int ←
    match chars.dropWhile (!isMark ·) with
    | [] => some 0
    | _ :: written =>
      let (below, unsigned) := splitSign written
      (digitRun? unsigned).map fun digits =>
        if below then -(readDigits digits 0 : Nat) else (readDigits digits 0 : Nat)
  if whole.isEmpty && fraction.isEmpty then none
  else some ⟨negative, readDigits (whole ++ fraction) 0, exponent - (fraction.length : Int)⟩

/-- The double that a text denotes. -/
def doubleOf? (text : String) : Option Double :=
  let (negative, unsigned) := splitSign (Text.trimBoth Text.isWhiteSpace text.toList)
  let word := asciiLower unsigned
  if word = "nan".toList then some .nan
  else if word = "inf".toList ∨ word = "infinity".toList then some (.infinite negative)
  else (decimalOf? negative unsigned).map Scientific.toDouble

/-- The truth value that a text denotes. -/
def truthOf? (text : String) : Option Bool :=
  let word := String.ofList (asciiLower text.toList)
  if ["0", "off", "f", "false", "n", "no"].contains word then some false
  else if ["1", "on", "t", "true", "y", "yes"].contains word then some true
  else none

/-- The first power of two that is out of the range of integers taken from doubles. -/
def integralBound : Int := (2 ^ 63 : Nat)

/-- The most characters a text may have that is taken for an integer. -/
def integerLength : Nat := 4300

namespace Check

/-- A check of an integer. -/
def integer : Value → Check Int
  | .int value => .valid value
  | .bool value => .valid (if value then 1 else 0)
  | .float value =>
    if !value.isFinite then flawed .notFinite
    else
      match value.toInt? with
      | none => flawed .fractionalInteger
      | some whole =>
        if -integralBound < whole ∧ whole < integralBound then .valid whole
        else flawed .oversizedInteger
  | .text value =>
    if integerLength < value.length then flawed .oversizedInteger
    else
      match integerOf? value with
      | some whole => .valid whole
      | none => flawed .unreadableInteger
  | _ => flawed .notInteger

/-- A check of a number, taken as a double. -/
def number : Value → Check Double
  | .float value => .valid value
  | .int value =>
    match Double.ofInt? value with
    | some double => .valid double
    | none => flawed .notNumber
  | .bool value => .valid (Double.ofInt (if value then 1 else 0))
  | .text value =>
    match doubleOf? value with
    | some double => .valid double
    | none => flawed .unreadableNumber
  | _ => flawed .notNumber

/-- A check of a truth value. -/
def truth : Value → Check Bool
  | .bool value => .valid value
  | .int value =>
    if value = 0 then .valid false else if value = 1 then .valid true else flawed .unreadableTruth
  | .float value =>
    match value.toInt? with
    | some 0 => .valid false
    | some 1 => .valid true
    | _ => flawed .notTruth
  | .text value =>
    match truthOf? value with
    | some found => .valid found
    | none => flawed .unreadableTruth
  | _ => flawed .notTruth

end Check

end QuestionDesk.Schema
