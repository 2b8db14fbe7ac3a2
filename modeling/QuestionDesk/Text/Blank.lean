/-!
# Blank characters

The white space of Unicode, and removal of blanks from the ends of a text.
-/
namespace QuestionDesk.Text

/-- The white space characters, as ranges of code points with both ends included. -/
def whiteSpaceRanges : List (Nat × Nat) :=
  [(0x9, 0xd), (0x20, 0x20), (0x85, 0x85), (0xa0, 0xa0), (0x1680, 0x1680), (0x2000, 0x200a),
   (0x2028, 0x2029), (0x202f, 0x202f), (0x205f, 0x205f), (0x3000, 0x3000)]

/-- The blank characters: white space and the four information separators. -/
def blankRanges : List (Nat × Nat) := (0x1c, 0x1f) :: whiteSpaceRanges

/-- Whether a character lies in one of the ranges. -/
def inRanges (ranges : List (Nat × Nat)) (char : Char) : Bool :=
  ranges.any fun range => range.1 ≤ char.toNat && char.toNat ≤ range.2

/-- Whether a character is white space. -/
def isWhiteSpace (char : Char) : Bool := inRanges whiteSpaceRanges char

/-- Whether a character is blank. -/
def isBlank (char : Char) : Bool := inRanges blankRanges char

/-- The characters without the leading ones that satisfy a test. -/
def trimFront (test : Char → Bool) (chars : List Char) : List Char := chars.dropWhile test

/-- The characters without the trailing ones that satisfy a test. -/
def trimBack (test : Char → Bool) (chars : List Char) : List Char :=
  (chars.reverse.dropWhile test).reverse

/-- The characters without those at either end that satisfy a test. -/
def trimBoth (test : Char → Bool) (chars : List Char) : List Char :=
  trimBack test (trimFront test chars)

/-- The characters without blanks at either end. -/
def stripChars (chars : List Char) : List Char := trimBoth isBlank chars

/-- A text without blanks at either end. -/
def strip (text : String) : String := String.ofList (stripChars text.toList)

end QuestionDesk.Text
