import QuestionDesk.Text.Blank
import QuestionDesk.Text.Letter.Table

/-!
# Lower case

The full lower-case mapping of Unicode text. Every character is mapped on its own but two: the
capital I with a dot becomes two characters, and a capital sigma takes its final form after a
cased letter that no other cased letter follows, characters that are passed over aside.
-/
namespace QuestionDesk.Text

/-- Whether a run holds a code point. -/
def CaseRun.holds (run : CaseRun) (code : Nat) : Bool :=
  run.first ≤ code && code ≤ run.last && (code - run.first) % run.step == 0

/-- The simple lower-case form of a character, itself if it has no other. -/
def lowerChar (char : Char) : Char :=
  match lowerRuns.find? (·.holds char.toNat) with
  | some run => Char.ofNat ((char.toNat : Int) + run.shift).toNat
  | none => char

/-- Whether a character is cased and not passed over. -/
def isCased (char : Char) : Bool := inRanges casedRanges char

/-- Whether a character is passed over when a neighbouring cased letter is sought. -/
def isIgnorable (char : Char) : Bool := inRanges ignorableRanges char

/-- Whether the nearest character that is not passed over is cased. -/
def startsCased (chars : List Char) : Bool :=
  match chars.dropWhile isIgnorable with
  | char :: _ => isCased char
  | [] => false

/-- The capital letter sigma. -/
def capitalSigma : Char := '\u03a3'

/-- The capital letter I with a dot above. -/
def dottedCapital : Char := '\u0130'

/-- The lower-case form of a character between the characters before it, nearest first, and the
characters after it. -/
def lowerWithin (before : List Char) (char : Char) (after : List Char) : List Char :=
  if char = dottedCapital then ['i', '\u0307']
  else if char = capitalSigma then
    if startsCased before && !startsCased after then ['\u03c2'] else ['\u03c3']
  else [lowerChar char]

/-- The lower-case form of the characters that follow those given, which stand nearest first. -/
def lowerAfter (before : List Char) : List Char → List Char
  | [] => []
  | char :: after => lowerWithin before char after ++ lowerAfter (char :: before) after

/-- The lower-case form of a sequence of characters. -/
def lowerChars (chars : List Char) : List Char := lowerAfter [] chars

/-- The lower-case form of a text. -/
def lower (text : String) : String := String.ofList (lowerChars text.toList)

end QuestionDesk.Text
