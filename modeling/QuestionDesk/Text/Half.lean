/-!
# Halves of pairs

Outside Unicode's first plane a character is a pair of code units. A text may also hold one half of
such a pair alone, which is no character. Here two characters stand for such a half: the last one of
all, which no text that is exchanged holds, and behind it a private one that tells which half it is.
A text with a half has no UTF-8 form.
-/
namespace QuestionDesk.Text

/-- The character in front of the one that tells which half is meant. -/
def halfMark : Char := Char.ofNat 0x10ffff

/-- How far the private characters that tell halves are from the halves. -/
def halfShift : Nat := 0x800

/-- Whether a code unit is one half of a pair. -/
def isHalf (unit : Nat) : Bool := 0xd800 ≤ unit && unit < 0xe000

/-- Whether a code unit is the first half of a pair. -/
def isHighHalf (unit : Nat) : Bool := 0xd800 ≤ unit && unit < 0xdc00

/-- Whether a code unit is the second half of a pair. -/
def isLowHalf (unit : Nat) : Bool := 0xdc00 ≤ unit && unit < 0xe000

/-- The characters that stand for a half. -/
def standIn (unit : Nat) : List Char := [halfMark, Char.ofNat (unit + halfShift)]

/-- The half for which two characters stand. -/
def half? (first second : Char) : Option Nat :=
  if first = halfMark ∧ isHalf (second.toNat - halfShift) then some (second.toNat - halfShift)
  else none

/-- How many halves follow one another at the beginning of a text. -/
def halvesAhead : List Char → Nat
  | first :: second :: rest => if (half? first second).isSome then halvesAhead rest + 1 else 0
  | _ => 0

/-- Where a text has no UTF-8 form. -/
structure Flaw where
  /-- How many characters and halves are in front. -/
  position : Nat
  /-- The first half. -/
  unit : Nat
  /-- How many halves follow one another there. -/
  count : Nat
  deriving DecidableEq, Repr

/-- The first flaw of a text that stands behind others. -/
def flawAfter? (position : Nat) : List Char → Option Flaw
  | first :: second :: rest =>
    match half? first second with
    | some unit => some ⟨position, unit, halvesAhead rest + 1⟩
    | none => flawAfter? (position + 1) (second :: rest)
  | _ => none

/-- The first flaw of a text, if it has no UTF-8 form. -/
def flaw? (text : String) : Option Flaw := flawAfter? 0 text.toList

end QuestionDesk.Text
