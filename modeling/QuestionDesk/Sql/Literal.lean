import QuestionDesk.Plan.Basic
import QuestionDesk.Text.Join

/-!
# Literals

The text of an operand in a query: placeholders stand bare, texts in single quotes with every
quote inside written twice, lists in parentheses.
-/
namespace QuestionDesk.Sql

open Plan (Scalar Operand)

/-- The single quote. -/
def quoteMark : Char := '\x27'

/-- The characters of a quoted text between its quotes. -/
def doubleQuotes : List Char → List Char
  | [] => []
  | char :: rest =>
    if char = quoteMark then quoteMark :: quoteMark :: doubleQuotes rest
    else char :: doubleQuotes rest

/-- A text in single quotes. -/
def quoted (text : String) : String :=
  String.ofList (quoteMark :: doubleQuotes text.toList ++ [quoteMark])

/-- The literal of a scalar. -/
def scalarText : Scalar → String
  | .text value => quoted value
  | .bool value => if value then "TRUE" else "FALSE"
  | .null => "NULL"
  | .int value => Decimal.integerText value
  | .float value => value.text

mutual

/-- The text of an operand. -/
def operandText : Operand → String
  | .variable name => name
  | .scalar value => scalarText value
  | .list items => "(" ++ Text.joined ", " (operandTexts items) ++ ")"

/-- The texts of several operands. -/
def operandTexts : List Operand → List String
  | [] => []
  | item :: items => operandText item :: operandTexts items

end

end QuestionDesk.Sql
