import QuestionDesk.Json.Reader
import QuestionDesk.Proofs.Plan.Reader
import QuestionDesk.Proofs.Sql.Tokens
import QuestionDesk.Sql.Statement

/-!
# Literals and names

The text of a scalar is one literal token, and different scalars have different texts. The doubles
that are no numbers are the exception: their texts are bare words, which are the texts of
placeholders of those names too.
-/
namespace QuestionDesk.Sql

open Decimal (isDigit)
open Plan (Operand Root Scalar)

/-! ## Literal tokens -/

/-- Whether a token is a literal: a text, a number, or one of the words for nothing, true and false. -/
def Token.isLiteral : Token → Bool
  | .text _ | .int _ | .float _ => true
  | .keyword .nullWord | .keyword .trueWord | .keyword .falseWord => true
  | _ => false

/-- Whether a scalar is no infinite double and not not-a-number. -/
def isFiniteScalar : Scalar → Bool
  | .float value => value.isFinite
  | _ => true

/-- The literal token that stands for a scalar. -/
def literalToken : Scalar → Token
  | .null => .keyword .nullWord
  | .bool value => .keyword (if value then .trueWord else .falseWord)
  | .int value => .int value
  | .float value => .float value
  | .text value => .text value

/-- The tokens that the text of a scalar has by itself; none if it cannot be cut into tokens. -/
def scalarTokens? : Scalar → Option (List Token)
  | .float .nan => some [.name "nan"]
  | .float (.infinite false) => some [.name "inf"]
  | .float (.infinite true) => none
  | value => some [literalToken value]

/-- The token that stands for a scalar is a literal. -/
theorem isLiteral_literalToken (value : Scalar) : (literalToken value).isLiteral = true := by
  cases value with
  | bool value => cases value <;> rfl
  | _ => rfl

/-- The text of a scalar is the token that stands for it. -/
theorem lexes_scalarText {value : Scalar} (finite : isFiniteScalar value = true) :
    Lexes (scalarText value) [literalToken value] := by
  cases value with
  | null => exact lexes_keyword .nullWord
  | bool value =>
    cases value with
    | true => exact lexes_keyword .trueWord
    | false => exact lexes_keyword .falseWord
  | int value => exact lexes_integerText value
  | float value => exact lexes_double finite
  | text value => exact lexes_quoted value

/-- The tokens of the text of a scalar by itself. -/
theorem tokens?_scalarText (value : Scalar) :
    tokens? (scalarText value).toList = scalarTokens? value := by
  unfold scalarTokens?
  split
  · exact (lexes_name (by decide +kernel : isName "nan" = true)).whole
  · exact (lexes_name (by decide +kernel : isName "inf" = true)).whole
  · have none : takeToken? '-' ['i', 'n', 'f'] = none := rfl
    change tokens? ('-' :: ['i', 'n', 'f']) = _
    rw [tokens?, if_neg (by decide), none]
  · next other below above =>
    refine (lexes_scalarText ?_).whole
    cases value with
    | float value =>
      cases value with
      | nan => exact absurd rfl other
      | infinite negative =>
        cases negative
        · exact absurd rfl below
        · exact absurd rfl above
      | finite negative rank => rfl
    | _ => rfl

/-- The scalar whose text has the given tokens. -/
def scalarOf : Option (List Token) → Scalar
  | some [.keyword .trueWord] => .bool true
  | some [.keyword .falseWord] => .bool false
  | some [.int value] => .int value
  | some [.float value] => .float value
  | some [.text value] => .text value
  | some [.name name] => .float (if name = "nan" then .nan else .infinite false)
  | none => .float (.infinite true)
  | _ => .null

/-- A scalar is known by the tokens of its text. -/
theorem scalarOf_scalarTokens? (value : Scalar) : scalarOf (scalarTokens? value) = value := by
  cases value with
  | bool value => cases value <;> rfl
  | float value =>
    cases value with
    | infinite negative => cases negative <;> rfl
    | _ => rfl
  | _ => rfl

/-- Different scalars have different texts. -/
theorem scalarText_injective : Function.Injective scalarText := by
  intro first second same
  have tokens := congrArg (fun text : String => tokens? text.toList) same
  simp only [tokens?_scalarText] at tokens
  rw [← scalarOf_scalarTokens? first, tokens, scalarOf_scalarTokens?]

/-- The text of a scalar is one literal unless it is a double that is no number. -/
theorem lexes_literal_iff (value : Scalar) :
    (∃ token : Token, token.isLiteral = true ∧ Lexes (scalarText value) [token]) ↔
      isFiniteScalar value = true := by
  constructor
  · rintro ⟨token, literal, lexes⟩
    have whole := lexes.whole
    rw [tokens?_scalarText] at whole
    cases value with
    | float value =>
      cases value with
      | nan => cases whole; cases literal
      | infinite negative =>
        cases negative
        · cases whole; cases literal
        · cases whole
      | finite negative rank => rfl
    | _ => rfl
  · intro finite
    exact ⟨_, isLiteral_literalToken value, lexes_scalarText finite⟩

/-! ## Names -/

/-- A word that may name something: it starts with no digit and has only characters that may stand in
a name. It may be a keyword. -/
def isIdentifier (name : String) : Bool :=
  match name.toList with
  | [] => false
  | first :: rest => !isDigit first && (first :: rest).all isNameChar

/-- An identifier is the token of its word. -/
theorem tokens?_identifier {name : String} (identifier : isIdentifier name = true) :
    tokens? name.toList = some [wordToken name.toList] := by
  unfold isIdentifier at identifier
  split at identifier
  · cases identifier
  · next first rest chars =>
    simp only [Bool.and_eq_true, Bool.not_eq_true', List.all_eq_true] at identifier
    rw [(lexes_of_chars chars identifier.2 identifier.1).whole, chars]

/-- A word is a keyword or a name. -/
theorem wordToken_cases (word : List Char) :
    (∃ keyword, wordToken word = .keyword keyword) ∨ ∃ name, wordToken word = .name name := by
  unfold wordToken
  split
  · next keyword _ => exact Or.inl ⟨keyword, rfl⟩
  · exact Or.inr ⟨_, rfl⟩

/-- An identifier apart from the words for nothing, true and false is the text of no scalar but of
not-a-number and of infinity. -/
theorem identifier_eq_scalarText {name : String} (identifier : isIdentifier name = true)
    (other : name ∉ ["NULL", "TRUE", "FALSE"]) (value : Scalar) : name = scalarText value ↔
      (value = .float .nan ∧ name = "nan") ∨ (value = .float (.infinite false) ∧ name = "inf") := by
  constructor
  · intro same
    have tokens := tokens?_identifier identifier
    -- a word is no number and no text, so only words remain among the texts of scalars
    have number : ∀ token : Token, some [token] = some [wordToken name.toList] →
        (∃ keyword, token = .keyword keyword) ∨ ∃ name, token = .name name := by
      intro token word
      cases word
      exact wordToken_cases _
    rw [same, tokens?_scalarText, ← same] at tokens
    cases value with
    | null => exact absurd same (by rintro rfl; exact other (by decide))
    | bool value =>
      cases value <;> exact absurd same (by rintro rfl; exact other (by decide))
    | int value => rcases number _ tokens with ⟨_, word⟩ | ⟨_, word⟩ <;> cases word
    | text value => rcases number _ tokens with ⟨_, word⟩ | ⟨_, word⟩ <;> cases word
    | float value =>
      cases value with
      | nan => exact Or.inl ⟨rfl, same⟩
      | infinite negative =>
        cases negative
        · exact Or.inr ⟨rfl, same⟩
        · cases tokens
      | finite negative rank => rcases number _ tokens with ⟨_, word⟩ | ⟨_, word⟩ <;> cases word
  · rintro (⟨rfl, rfl⟩ | ⟨rfl, rfl⟩) <;> rfl

/-- The text of a scalar is one literal token, wherever it stands, exactly if the scalar is no infinite
double and not not-a-number. A placeholder whose name is an identifier apart from the words for
nothing, true and false has that text only if the scalar is not-a-number or infinity and the
placeholder has the name for it. No scalar of another kind or value has the same text. -/
theorem literals_stay_literals (value : Scalar) :
    ((∃ token : Token, token.isLiteral = true ∧ Lexes (scalarText value) [token]) ↔
      isFiniteScalar value = true) ∧
    (∀ name, isIdentifier name = true → name ∉ ["NULL", "TRUE", "FALSE"] →
      (operandText (.variable name) = operandText (.scalar value) ↔
        (value = .float .nan ∧ name = "nan") ∨
          (value = .float (.infinite false) ∧ name = "inf"))) ∧
    ∀ other, scalarText value = scalarText other → value = other :=
  ⟨lexes_literal_iff value,
    fun _ identifier other => identifier_eq_scalarText identifier other value,
    fun _ same => scalarText_injective same⟩

/-- The text `inf` is a literal, and neither a placeholder of that name nor infinity. -/
theorem literals_stay_literals_word :
    (∃ token : Token, token.isLiteral = true ∧ Lexes (scalarText (.text "inf")) [token]) ∧
    isIdentifier "inf" = true ∧
    operandText (.variable "inf") ≠ operandText (.scalar (.text "inf")) ∧
    scalarText (.text "inf") ≠ scalarText (.float (.infinite false)) := by
  obtain ⟨literal, names, others⟩ := literals_stay_literals (.text "inf")
  have identifier : isIdentifier "inf" = true := by decide
  refine ⟨literal.mpr rfl, identifier, fun same => ?_, fun same => ?_⟩
  · rcases (names "inf" identifier (by decide)).mp same with ⟨number, _⟩ | ⟨number, _⟩ <;>
      cases number
  · cases others _ same

/-- A document with a number beyond all doubles in its only filter. -/
def boundlessText : String :=
  "\x7b\"main_query\": \x7b\"table\": \"events\", \"columns\": [\"id\"], \"filters\": " ++
    "[\x7b\"column\": \"size\", \"op\": \"<\", \"value\": 1e400\x7d]\x7d\x7d"

/-- A plan with an operand in its only filter. -/
def boundedBy (operand : Operand) : Root where
  commonTables := []
  main := ⟨"events", ["id"], [.leaf "size" "<" operand], [], [], none⟩

/-- A number beyond all doubles is read from a document as infinity and accepted in a plan; its text is
a name and no literal, and the plan has the same statement as the one with the placeholder of that
name. -/
theorem boundless_literal_named : ∃ document : Value,
    Json.readBody boundlessText = .ok document ∧
    Plan.read document = .ok (boundedBy (.scalar (.float (.infinite false)))) ∧
    ({} : Rules).statementText (boundedBy (.scalar (.float (.infinite false)))) =
      .ok "SELECT id FROM events WHERE size < inf LIMIT 20" ∧
    ({} : Rules).statementText (boundedBy (.variable "inf")) =
      .ok "SELECT id FROM events WHERE size < inf LIMIT 20" ∧
    tokens? (scalarText (.float (.infinite false))).toList = some [.name "inf"] ∧
    isIdentifier "inf" = true ∧ "inf" ∉ ["NULL", "TRUE", "FALSE"] ∧
    ¬∃ token : Token, token.isLiteral = true ∧
      Lexes (scalarText (.float (.infinite false))) [token] := by
  have literal := lexes_literal_iff (.float (.infinite false))
  refine ⟨.object [("main_query", .object [("table", .text "events"), ("columns", .list [.text "id"]),
    ("filters", .list [.object [("column", .text "size"), ("op", .text "<"),
      ("value", .float (.infinite false))]])])], ?_, rfl, by decide +kernel, by decide +kernel,
    tokens?_scalarText _, by decide, by decide, fun lexes => ?_⟩
  · decide +kernel
  · cases literal.mp lexes

end QuestionDesk.Sql
