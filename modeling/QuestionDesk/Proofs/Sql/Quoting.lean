import QuestionDesk.Proofs.Sql.Faults
import QuestionDesk.Proofs.Sql.Tokens

/-!
# Quoted texts

No text of a plan gets out of its quotes. A statement is cut at its quotes into code and quoted
texts, a quote written twice inside a text being the only escape. Plans that differ in nothing but
the contents of their texts have statements with the same code around the same number of texts, and
the contents of those are the texts of the plan.
-/
namespace QuestionDesk

namespace Plan

/-! ## The texts and the names of a plan -/

/-- A scalar with an empty text for every text. -/
def Scalar.blanked : Scalar → Scalar
  | .text _ => .text ""
  | other => other

/-- The text that a scalar is, if it is one. -/
def Scalar.text? : Scalar → Option String
  | .text value => some value
  | _ => none

mutual

/-- An operand with an empty text for every text. -/
def Operand.blanked : Operand → Operand
  | .variable name => .variable name
  | .scalar value => .scalar value.blanked
  | .list items => .list (operandsBlanked items)

/-- Operands with an empty text for every text. -/
def operandsBlanked : List Operand → List Operand
  | [] => []
  | item :: items => item.blanked :: operandsBlanked items

end

/-- What is no list is none with empty texts either. -/
theorem Operand.blanked_ne_list {operand : Operand} (single : ∀ items, operand ≠ .list items) :
    ∀ items, operand.blanked ≠ .list items := by
  intro items same
  cases operand with
  | list items => exact single items rfl
  | _ => cases same

mutual

/-- The texts in an operand in order. -/
def Operand.texts : Operand → List String
  | .variable _ => []
  | .scalar value => value.text?.toList
  | .list items => operandsTexts items

/-- The texts in several operands in order. -/
def operandsTexts : List Operand → List String
  | [] => []
  | item :: items => item.texts ++ operandsTexts items

end

mutual

/-- The names of the placeholders in an operand. -/
def Operand.placeholders : Operand → List String
  | .variable name => [name]
  | .scalar _ => []
  | .list items => operandsPlaceholders items

/-- The names of the placeholders in several operands. -/
def operandsPlaceholders : List Operand → List String
  | [] => []
  | item :: items => item.placeholders ++ operandsPlaceholders items

end

mutual

/-- A filter with an empty text for every text. -/
def Filter.blanked : Filter → Filter
  | .group junction parts => .group junction (forestBlanked parts)
  | .leaf column operator operand => .leaf column operator operand.blanked
  | .stray kind => .stray kind

/-- Filters with an empty text for every text. -/
def forestBlanked : List Filter → List Filter
  | [] => []
  | filter :: filters => filter.blanked :: forestBlanked filters

end

/-- A leaf with an empty text for every text. -/
def leafBlanked : Comparison → Comparison
  | (column, operator, operand) => (column, operator, operand.blanked)

/-- The names in a leaf: its column, its operator and its placeholders. -/
def leafNames : Comparison → List String
  | (column, operator, operand) => column :: operator :: operand.placeholders

/-- The texts in a leaf in order. -/
def leafTexts : Comparison → List String
  | (_, _, operand) => operand.texts

/-- A query with an empty text for every text in its filters. -/
def Query.blanked (query : Query) : Query := { query with filters := forestBlanked query.filters }

/-- The names in a query. -/
def Query.names (query : Query) : List String :=
  query.table :: query.columns ++ query.groupBy ++ query.orderBy.map SortKey.column ++
    (forestLeaves query.filters).flatMap leafNames

/-- The texts in a query in order. -/
def Query.texts (query : Query) : List String := (forestLeaves query.filters).flatMap leafTexts

/-- A common table with an empty text for every text in its filters. -/
def CommonTable.blanked (table : CommonTable) : CommonTable :=
  { table with query := table.query.blanked }

/-- A plan with an empty text for every text in its filters. -/
def Root.blanked (plan : Root) : Root :=
  ⟨plan.commonTables.map CommonTable.blanked, plan.main.blanked⟩

/-- The names in a plan. -/
def Root.names (plan : Root) : List String :=
  (plan.commonTables.flatMap fun table => table.name :: table.query.names) ++ plan.main.names

/-- The texts in a plan in the order in which they are written: those of the common tables, then those
of the main query. -/
def Root.texts (plan : Root) : List String :=
  (plan.commonTables.flatMap fun table => table.query.texts) ++ plan.main.texts

mutual

/-- The placeholders of an operand do not depend on its texts. -/
theorem Operand.placeholders_blanked : (operand : Operand) →
    operand.blanked.placeholders = operand.placeholders
  | .variable _ => rfl
  | .scalar _ => rfl
  | .list items => operandsPlaceholders_blanked items

/-- The placeholders of several operands do not depend on their texts. -/
theorem operandsPlaceholders_blanked : (items : List Operand) →
    operandsPlaceholders (operandsBlanked items) = operandsPlaceholders items
  | [] => rfl
  | item :: items => congrArg₂ (· ++ ·) item.placeholders_blanked (operandsPlaceholders_blanked items)

end

mutual

/-- The leaves of a filter with empty texts. -/
theorem Filter.leaves_blanked : (filter : Filter) →
    filter.blanked.leaves = filter.leaves.map leafBlanked
  | .group _ parts => forestLeaves_blanked parts
  | .leaf _ _ _ => rfl
  | .stray _ => rfl

/-- The leaves of several filters with empty texts. -/
theorem forestLeaves_blanked : (filters : List Filter) →
    forestLeaves (forestBlanked filters) = (forestLeaves filters).map leafBlanked
  | [] => rfl
  | filter :: filters => by
    rw [forestBlanked, forestLeaves, forestLeaves, List.map_append, filter.leaves_blanked,
      forestLeaves_blanked filters]

end

/-- The names in a query do not depend on its texts. -/
theorem Query.names_blanked (query : Query) : query.blanked.names = query.names := by
  have leaf : ∀ leaf : Comparison, leafNames (leafBlanked leaf) = leafNames leaf := by
    rintro ⟨column, operator, operand⟩
    rw [leafBlanked, leafNames, operand.placeholders_blanked]
    rfl
  simp only [names, blanked, forestLeaves_blanked, List.flatMap_map, leaf]

/-- The names in a plan do not depend on its texts. -/
theorem Root.names_blanked (plan : Root) : plan.blanked.names = plan.names := by
  simp only [names, blanked, List.flatMap_map, CommonTable.blanked, Query.names_blanked]

end Plan

namespace Sql

open Plan (CommonTable Filter Operand Query Root Scalar SortKey forestBlanked forestLeaves leafNames
  leafTexts operandsBlanked operandsPlaceholders operandsTexts)

/-! ## Cutting at the quotes -/

/-- What a statement is cut into at its quotes. -/
inductive Piece where
  /-- A character outside all quotes. -/
  | code (char : Char)
  /-- A quoted text. -/
  | text (content : String)
  deriving DecidableEq, Repr

/-- A piece with an empty text for a text. -/
def Piece.blanked : Piece → Piece
  | .code char => .code char
  | .text _ => .text ""

/-- The content of a quoted text. -/
def Piece.content? : Piece → Option String
  | .code _ => none
  | .text content => some content

/-- What is left behind a quoted text is shorter. -/
theorem takeText?_shorter {chars content after : List Char}
    (taken : takeText? chars = some (content, after)) : after.length < chars.length := by
  fun_induction takeText? chars generalizing content with
  | case1 => cases taken
  | case2 => cases taken; exact Nat.succ_pos _
  | case3 => cases taken
  | case4 rest ih =>
    obtain ⟨⟨inner, left⟩, more, same⟩ := Option.map_eq_some_iff.mp taken
    cases same
    exact Nat.lt_succ_of_lt (Nat.lt_succ_of_lt (ih more))
  | case5 second rest => cases taken; exact Nat.lt_succ_self _
  | case6 first second rest _ ih =>
    obtain ⟨⟨inner, left⟩, more, same⟩ := Option.map_eq_some_iff.mp taken
    cases same
    exact Nat.lt_succ_of_lt (ih more)

/-- The pieces of a statement; none if a quoted text has no end. -/
def pieces? : List Char → Option (List Piece)
  | [] => some []
  | first :: rest =>
    if first = quoteMark then
      match taken : takeText? rest with
      | some (content, after) =>
        have : after.length < rest.length := takeText?_shorter taken
        (pieces? after).map (.text (String.ofList content) :: ·)
      | none => none
    else (pieces? rest).map (.code first :: ·)
termination_by chars => chars.length

/-- What a statement is lexed into: tokens of code, and quoted texts. -/
inductive Lexeme (α : Type) where
  /-- A token of the code between texts. -/
  | code (token : α)
  /-- A quoted text. -/
  | text (content : String)
  deriving DecidableEq, Repr

variable {α : Type}

/-- A lexeme with an empty text for a text. -/
def Lexeme.blanked : Lexeme α → Lexeme α
  | .code token => .code token
  | .text _ => .text ""

/-- The content of a quoted text. -/
def Lexeme.content? : Lexeme α → Option String
  | .code _ => none
  | .text content => some content

/-- The lexemes of pieces behind some code, which is cut into tokens up to the next text. -/
def lexemes (cut : List Char → List α) : List Char → List Piece → List (Lexeme α)
  | pending, [] => (cut pending).map .code
  | pending, .code char :: pieces => lexemes cut (pending ++ [char]) pieces
  | pending, .text content :: pieces =>
    (cut pending).map .code ++ .text content :: lexemes cut [] pieces

/-- The lexemes of a statement, its code being cut into tokens as given; none if a quoted text has no
end. -/
def lexemes? (cut : List Char → List α) (sql : String) : Option (List (Lexeme α)) :=
  (pieces? sql.toList).map (lexemes cut [])

/-- The lexemes of pieces with empty texts. -/
theorem lexemes_blanked {cut : List Char → List α} (pending : List Char) (pieces : List Piece) :
    lexemes cut pending (pieces.map Piece.blanked) =
      (lexemes cut pending pieces).map Lexeme.blanked := by
  have kept : ∀ code, ((cut code).map Lexeme.code).map Lexeme.blanked = (cut code).map .code := by
    intro code
    rw [List.map_map]
    rfl
  induction pieces generalizing pending with
  | nil => exact (kept pending).symm
  | cons piece pieces ih =>
    cases piece with
    | code char => exact ih _
    | text content =>
      rw [List.map_cons, Piece.blanked, lexemes, lexemes, List.map_append, List.map_cons, ih,
        kept]
      rfl

/-- The contents of the texts among the lexemes are those among the pieces. -/
theorem lexemes_contents {cut : List Char → List α} (pending : List Char) (pieces : List Piece) :
    (lexemes cut pending pieces).filterMap Lexeme.content? =
      pieces.filterMap Piece.content? := by
  have none : ∀ code, ((cut code).map Lexeme.code).filterMap Lexeme.content? = [] := by
    intro code
    simp [Lexeme.content?, Function.comp_def]
  induction pieces generalizing pending with
  | nil => exact none pending
  | cons piece pieces ih =>
    cases piece with
    | code char => exact ih _
    | text content =>
      rw [lexemes, List.filterMap_append, none, List.nil_append]
      exact congrArg (content :: ·) (ih [])

/-- The words of code: characters of names that stand together, and every other character but blanks
by itself. -/
def codeWords (code : List Char) : List String :=
  ((code.splitBy fun left right => isNameChar left && isNameChar right).filter fun word =>
    !word.all Json.isSpace).map String.ofList

/-! ## What is read from a text -/

/-- A text without quotes. -/
def Unquoted (text : String) : Prop := quoteMark ∉ text.toList

instance (text : String) : Decidable (Unquoted text) := inferInstanceAs (Decidable (¬_))

/-- A text reads as the given pieces, wherever it stands without a quote behind it. -/
def Spells (text : String) (pieces : List Piece) : Prop :=
  ∀ rest, rest.head? ≠ some quoteMark →
    pieces? (text.toList ++ rest) = (pieces? rest).map (pieces ++ ·)

/-- A text reads as the pieces of another, apart from its quoted texts, which have the given contents
while those of the other are empty. -/
def Masks (text blank : String) (contents : List String) : Prop :=
  ∃ pieces, Spells text pieces ∧ Spells blank (pieces.map Piece.blanked) ∧
    pieces.filterMap Piece.content? = contents

/-- The pieces of characters without quotes are those characters. -/
theorem pieces?_code {code : List Char} (unquoted : quoteMark ∉ code) (rest : List Char) :
    pieces? (code ++ rest) = (pieces? rest).map (code.map .code ++ ·) := by
  induction code with
  | nil => simp
  | cons char code ih =>
    rw [List.mem_cons, not_or] at unquoted
    rw [List.cons_append, pieces?, if_neg (Ne.symm unquoted.1), ih unquoted.2, Option.map_map]
    rfl

/-- A text in quotes is one piece. -/
theorem spells_quoted (text : String) : Spells (quoted text) [.text text] := by
  intro rest apart
  have single : ∀ char ∈ rest.head?, char ≠ quoteMark := by
    rintro char first rfl
    exact apart first
  rw [quoted_append, pieces?, if_pos rfl]
  split
  · next content after taken =>
    rw [takeText?_doubleQuotes _ single] at taken
    cases taken
    rw [String.ofList_toList]
    rfl
  · next none =>
    rw [takeText?_doubleQuotes _ single] at none
    cases none

/-- A text without quotes reads as its characters. -/
theorem spells_unquoted {code : String} (unquoted : Unquoted code) :
    Spells code (code.toList.map .code) := fun rest _ => pieces?_code unquoted rest

/-- Code in front of a text. -/
theorem Spells.behind {code text : String} {pieces : List Piece} (spells : Spells text pieces)
    (unquoted : Unquoted code) : Spells (code ++ text) (code.toList.map .code ++ pieces) := by
  intro rest apart
  rw [String.toList_append, List.append_assoc, pieces?_code unquoted, spells rest apart,
    Option.map_map]
  simp [Function.comp_def]

/-- A text with another behind it that does not start with a quote. -/
theorem Spells.append {left right : String} {first second : List Piece}
    (before : Spells left first) (after : Spells right second)
    (apart : right.toList.head? ≠ some quoteMark) :
    Spells (left ++ right) (first ++ second) := by
  intro rest ends
  have next : (right.toList ++ rest).head? ≠ some quoteMark := by
    cases chars : right.toList with
    | nil => exact ends
    | cons char more => rwa [chars] at apart
  rw [String.toList_append, List.append_assoc, before _ next, after rest ends, Option.map_map]
  simp [Function.comp_def]

/-! ## Texts with other contents -/

/-- A text without quotes does not start with one. -/
theorem head?_of_unquoted {code : String} (unquoted : Unquoted code) :
    code.toList.head? ≠ some quoteMark :=
  fun first => unquoted (List.mem_of_head? first)

/-- Code is itself. -/
theorem masks_unquoted {code : String} (unquoted : Unquoted code) : Masks code code [] := by
  refine ⟨_, spells_unquoted unquoted, ?_, ?_⟩
  · rw [List.map_map]
    exact spells_unquoted unquoted
  · simp [Piece.content?, Function.comp_def]

/-- A text in quotes is one with the empty text in quotes. -/
theorem masks_quoted (text : String) : Masks (quoted text) (quoted "") [text] :=
  ⟨[.text text], spells_quoted text, spells_quoted "", rfl⟩

/-- The pieces of code have no contents. -/
theorem contents_code (code : List Char) : (code.map Piece.code).filterMap Piece.content? = [] := by
  simp [Piece.content?, Function.comp_def]

/-- The pieces of code stay as they are. -/
theorem blanked_code (code : List Char) :
    (code.map Piece.code).map Piece.blanked = code.map .code := List.map_map

variable {code text blank : String} {contents : List String}

/-- Code in front. -/
theorem Masks.behind (masks : Masks text blank contents) (unquoted : Unquoted code) :
    Masks (code ++ text) (code ++ blank) contents := by
  obtain ⟨pieces, spells, masked, rfl⟩ := masks
  refine ⟨_, spells.behind unquoted, ?_, ?_⟩
  · rw [List.map_append, blanked_code]
    exact masked.behind unquoted
  · rw [List.filterMap_append, contents_code, List.nil_append]

/-- Code at the end. -/
theorem Masks.before (masks : Masks text blank contents) (unquoted : Unquoted code) :
    Masks (text ++ code) (blank ++ code) contents := by
  obtain ⟨pieces, spells, masked, rfl⟩ := masks
  have apart := head?_of_unquoted unquoted
  refine ⟨_, spells.append (spells_unquoted unquoted) apart, ?_, ?_⟩
  · rw [List.map_append, blanked_code]
    exact masked.append (spells_unquoted unquoted) apart
  · rw [List.filterMap_append, contents_code, List.append_nil]

/-- Two with code in between. -/
theorem Masks.parted {next blankNext : String} {more : List String}
    (masks : Masks text blank contents) (unquoted : Unquoted code) (filled : code ≠ "")
    (others : Masks next blankNext more) :
    Masks (text ++ code ++ next) (blank ++ code ++ blankNext) (contents ++ more) := by
  obtain ⟨pieces, spells, masked, rfl⟩ := masks
  obtain ⟨later, spellsNext, maskedNext, rfl⟩ := others
  -- without the code in between, a closing quote and the next opening one would read as an escape
  have apart : ∀ tail : String, (code ++ tail).toList.head? ≠ some quoteMark := by
    intro tail
    rw [String.toList_append]
    cases chars : code.toList with
    | nil => exact absurd (String.toList_eq_nil_iff.mp chars) filled
    | cons char rest =>
      have first := head?_of_unquoted unquoted
      rwa [chars] at first
  rw [String.append_assoc, String.append_assoc]
  refine ⟨_, spells.append (spellsNext.behind unquoted) (apart next), ?_, ?_⟩
  · rw [List.map_append, List.map_append, blanked_code]
    exact masked.append (maskedNext.behind unquoted) (apart blankNext)
  · rw [List.filterMap_append, List.filterMap_append, contents_code, List.nil_append]

/-- Several texts that read as the pieces of others, with the contents of them all in order. -/
inductive MasksAll : List String → List String → List String → Prop where
  /-- No texts. -/
  | nil : MasksAll [] [] []
  /-- One text in front of others. -/
  | cons {text blank : String} {texts blanks contents more : List String} :
    Masks text blank contents → MasksAll texts blanks more →
      MasksAll (text :: texts) (blank :: blanks) (contents ++ more)

/-- Texts with code between neighbours. -/
theorem MasksAll.joined {separator : String} (unquoted : Unquoted separator)
    (filled : separator ≠ "") {texts blanks contents : List String}
    (masks : MasksAll texts blanks contents) :
    Masks (Text.joined separator texts) (Text.joined separator blanks) contents := by
  induction masks with
  | nil => exact @masks_unquoted "" (by decide)
  | cons first others ih =>
    cases others with
    | nil =>
      rw [List.append_nil]
      exact first
    | cons next rest => exact first.parted unquoted filled ih

/-! ## Code -/

/-- Code behind code. -/
theorem Unquoted.append {left right : String} (before : Unquoted left) (after : Unquoted right) :
    Unquoted (left ++ right) := by
  rw [Unquoted, String.toList_append, List.mem_append, not_or]
  exact ⟨before, after⟩

/-- Code with code between neighbours. -/
theorem Unquoted.joined {separator : String} (parted : Unquoted separator) {codes : List String}
    (unquoted : ∀ code ∈ codes, Unquoted code) : Unquoted (Text.joined separator codes) := by
  fun_induction Text.joined separator codes with
  | case1 => decide
  | case2 only => exact unquoted only List.mem_cons_self
  | case3 first next rest ih =>
    exact ((unquoted first List.mem_cons_self).append parted).append
      (ih fun code member => unquoted code (List.mem_cons_of_mem _ member))

/-- A clause of code is code. -/
theorem unquoted_clauseText {keyword : String} (word : Unquoted keyword) {items : List String}
    (unquoted : ∀ item ∈ items, Unquoted item) : Unquoted (clauseText keyword items) := by
  unfold clauseText
  split
  · decide
  · have blank : Unquoted " " := by decide
    exact ((blank.append word).append blank).append (.joined (by decide) unquoted)

/-- The text of an integer is code. -/
theorem unquoted_integerText (value : Int) : Unquoted (Decimal.integerText value) := by
  rw [Unquoted, Json.integerText_chars, List.mem_append, not_or]
  constructor
  · split <;> decide
  · intro member
    cases Decimal.isDigit_of_mem_digits member

/-- The text of a double is code. -/
theorem unquoted_double (value : Decimal.Double) : Unquoted value.text := by
  intro member
  rcases Decimal.mem_text (by decide : Decimal.plainSpelling.highest ≤ 16) member with digit | word
  · cases digit
  · exact absurd word (by decide)

/-- The text of a column to order by is code. -/
theorem unquoted_sortKeyText {key : SortKey} (unquoted : Unquoted key.column) :
    Unquoted (sortKeyText key) := by
  unfold sortKeyText
  split
  · next direction _ =>
    refine (unquoted.append (by decide)).append ?_
    cases direction <;> decide
  · exact unquoted

/-! ## Operands and filters -/

/-- The literal of a scalar. -/
theorem masks_scalarText (value : Scalar) :
    Masks (scalarText value) (scalarText value.blanked) value.text?.toList := by
  cases value with
  | null => exact masks_unquoted (by decide)
  | bool value => cases value <;> exact masks_unquoted (by decide)
  | int value => exact masks_unquoted (unquoted_integerText value)
  | float value => exact masks_unquoted (unquoted_double value)
  | text value => exact masks_quoted value

mutual

/-- The text of an operand. -/
theorem masks_operandText : (operand : Operand) → (∀ name ∈ operand.placeholders, Unquoted name) →
    Masks (operandText operand) (operandText operand.blanked) operand.texts
  | .variable name, unquoted => by
    rw [Operand.blanked, Operand.texts]
    exact masks_unquoted (unquoted name (by simp [Operand.placeholders]))
  | .scalar value, _ => masks_scalarText value
  | .list items, unquoted => by
    have parts := masks_operandTexts items (by simpa [Operand.placeholders] using unquoted)
    exact ((parts.joined (by decide) (by decide)).behind (by decide)).before (by decide)

/-- The texts of several operands. -/
theorem masks_operandTexts : (items : List Operand) →
    (∀ name ∈ operandsPlaceholders items, Unquoted name) →
      MasksAll (operandTexts items) (operandTexts (operandsBlanked items)) (operandsTexts items)
  | [], _ => .nil
  | item :: items, unquoted => by
    simp only [operandsPlaceholders, List.mem_append] at unquoted
    exact .cons (masks_operandText item fun name member => unquoted name (Or.inl member))
      (masks_operandTexts items fun name member => unquoted name (Or.inr member))

end

variable {rules : Rules}

/-- The text of a leaf. -/
theorem masks_leafText {column operator : String} {operand : Operand}
    (unquoted : ∀ name ∈ leafNames (column, operator, operand), Unquoted name)
    (written : rules.leafText column operator operand = .ok text) :
    ∃ blank, rules.leafText column operator operand.blanked = .ok blank ∧
      Masks text blank operand.texts := by
  simp only [leafNames, List.forall_mem_cons] at unquoted
  obtain ⟨columns, operators, placeholders⟩ := unquoted
  have whole := masks_operandText operand placeholders
  have space : Unquoted " " := by decide
  have named := ((columns.append space).append operators).append space
  unfold Rules.leafText at written ⊢
  split at written
  · cases written
  · next allowed =>
    rw [if_neg allowed]
    split at written
    · next range =>
      rw [if_pos range]
      split at written
      · next low high =>
        cases written
        simp only [Operand.placeholders, operandsPlaceholders, List.append_nil,
          List.mem_append] at placeholders
        have first := masks_operandText low fun name member => placeholders name (Or.inl member)
        have second := masks_operandText high fun name member => placeholders name (Or.inr member)
        refine ⟨_, rfl, ?_⟩
        simp only [Operand.texts, operandsTexts, List.append_nil]
        exact (first.behind (columns.append (by decide))).parted (by decide) (by decide) second
      · cases written
    · next range =>
      rw [if_neg range]
      split at written
      · next items =>
        cases written
        exact ⟨_, rfl, whole.behind named⟩
      · cases written
      · next noMember single =>
        cases written
        refine ⟨_, ?_, whole.behind named⟩
        split
        · next items same => exact absurd same (Operand.blanked_ne_list single items)
        · exact absurd rfl noMember
        · rfl

mutual

/-- The text of a filter. -/
theorem masks_filterText : (filter : Filter) → {text : String} →
    (∀ name ∈ filter.leaves.flatMap leafNames, Unquoted name) →
      rules.filterText filter = .ok text →
        ∃ blank, rules.filterText filter.blanked = .ok blank ∧
          Masks text blank (filter.leaves.flatMap leafTexts)
  | .group _ [], _, _, written => by cases written
  | .group junction (part :: parts), text, unquoted, written => by
    rw [Rules.filterText] at written
    split at written
    · next texts others =>
      cases written
      obtain ⟨blanks, rest, masks⟩ := masks_filterTexts (part :: parts) unquoted others
      rw [forestBlanked] at rest
      refine ⟨_, by rw [Filter.blanked, forestBlanked, Rules.filterText, rest], ?_⟩
      have word : Unquoted (" " ++ junction.word ++ " ") := by cases junction <;> decide
      have filled : " " ++ junction.word ++ " " ≠ "" := by cases junction <;> decide
      exact ((masks.joined word filled).behind (by decide)).before (by decide)
    · cases written
  | .leaf column operator operand, text, unquoted, written => by
    rw [Filter.leaves, List.flatMap_singleton] at unquoted ⊢
    exact masks_leafText unquoted written
  | .stray _, _, _, written => by cases written

/-- The texts of several filters. -/
theorem masks_filterTexts : (filters : List Filter) → {texts : List String} →
    (∀ name ∈ (forestLeaves filters).flatMap leafNames, Unquoted name) →
      rules.filterTexts filters = .ok texts →
        ∃ blanks, rules.filterTexts (forestBlanked filters) = .ok blanks ∧
          MasksAll texts blanks ((forestLeaves filters).flatMap leafTexts)
  | [], _, _, written => by
    cases written
    exact ⟨[], rfl, .nil⟩
  | filter :: filters, _, unquoted, written => by
    simp only [forestLeaves, List.flatMap_append, List.mem_append] at unquoted
    rw [Rules.filterTexts] at written
    split at written
    · cases written
    · next text one =>
      split at written
      · next texts others =>
        cases written
        obtain ⟨blank, first, masks⟩ := masks_filterText filter
          (fun name member => unquoted name (Or.inl member)) one
        obtain ⟨blanks, rest, more⟩ := masks_filterTexts filters
          (fun name member => unquoted name (Or.inr member)) others
        refine ⟨blank :: blanks, by rw [forestBlanked, Rules.filterTexts, first, rest], ?_⟩
        rw [forestLeaves, List.flatMap_append]
        exact .cons masks more
      · cases written

end

/-! ## Statements -/

/-- The text of the condition of a query. -/
theorem masks_condition {filters : List Filter}
    (unquoted : ∀ name ∈ (forestLeaves filters).flatMap leafNames, Unquoted name)
    (written : (if filters.isEmpty then .ok "1=1" else rules.conditionText filters) = .ok text) :
    ∃ blank, (if (forestBlanked filters).isEmpty then .ok "1=1"
      else rules.conditionText (forestBlanked filters)) = .ok blank ∧
        Masks text blank ((forestLeaves filters).flatMap leafTexts) := by
  cases filters with
  | nil =>
    cases written
    exact ⟨_, rfl, masks_unquoted (by decide)⟩
  | cons filter filters =>
    simp only [List.isEmpty_cons, Bool.false_eq_true, if_false, Rules.conditionText] at written
    split at written
    · next texts others =>
      cases written
      obtain ⟨blanks, rest, masks⟩ := masks_filterTexts (filter :: filters) unquoted others
      refine ⟨Text.joined " AND " blanks, ?_, masks.joined (by decide) (by decide)⟩
      rw [Rules.conditionText, rest]
      rfl
    · cases written

/-- The text of a query. -/
theorem masks_queryText {role : Role} {query : Query}
    (unquoted : ∀ name ∈ query.names, Unquoted name)
    (written : rules.queryText role query = .ok text) :
    ∃ blank, rules.queryText role query.blanked = .ok blank ∧ Masks text blank query.texts := by
  simp only [Query.names, List.forall_mem_cons, List.forall_mem_append, List.forall_mem_map]
    at unquoted
  obtain ⟨⟨⟨⟨table, columns⟩, groups⟩, keys⟩, filters⟩ := unquoted
  have front : Unquoted ("SELECT " ++ Text.joined ", " query.columns ++ " FROM " ++ query.table ++
      " WHERE ") :=
    (((Unquoted.append (by decide) (.joined (by decide) columns)).append (by decide)).append
      table).append (by decide)
  have grouping : Unquoted (clauseText "GROUP BY" query.groupBy) :=
    unquoted_clauseText (by decide) groups
  have ordering : Unquoted (clauseText "ORDER BY" (query.orderBy.map sortKeyText)) := by
    refine unquoted_clauseText (by decide) fun item member => ?_
    obtain ⟨key, listed, rfl⟩ := List.mem_map.mp member
    exact unquoted_sortKeyText (keys key listed)
  unfold Rules.queryText at written ⊢
  split at written
  · cases written
  · next selects =>
    rw [Query.blanked, if_neg selects]
    simp only at written ⊢
    split at written
    · cases written
    · next condition one =>
      cases written
      obtain ⟨blank, same, masks⟩ := masks_condition filters one
      rw [same]
      refine ⟨_, rfl, ?_⟩
      refine (((masks.behind front).before grouping).before ordering).before ?_
      split
      · exact Unquoted.append (by decide) (unquoted_integerText _)
      · decide

/-- The texts of common tables. -/
theorem masks_commonTableTexts {tables : List CommonTable} {texts : List String}
    (unquoted : ∀ table ∈ tables, ∀ name ∈ table.name :: table.query.names, Unquoted name)
    (written : rules.commonTableTexts tables = .ok texts) :
    ∃ blanks, rules.commonTableTexts (tables.map CommonTable.blanked) = .ok blanks ∧
      MasksAll texts blanks (tables.flatMap fun table => table.query.texts) := by
  induction tables generalizing texts with
  | nil =>
    cases written
    exact ⟨[], rfl, .nil⟩
  | cons table tables ih =>
    obtain ⟨first, others⟩ := List.forall_mem_cons.mp unquoted
    obtain ⟨name, names⟩ := List.forall_mem_cons.mp first
    rw [Rules.commonTableTexts] at written
    split at written
    · cases written
    · next text one =>
      split at written
      · cases written
      · next texts rest =>
        cases written
        obtain ⟨blank, query, masks⟩ := masks_queryText names one
        obtain ⟨blanks, queries, more⟩ := ih others rest
        refine ⟨(table.name ++ " AS (" ++ blank ++ ")") :: blanks, ?_, ?_⟩
        · rw [List.map_cons, Rules.commonTableTexts, CommonTable.blanked, query, queries]
        · exact .cons ((masks.behind (name.append (by decide))).before (by decide)) more

/-- The text of a plan. -/
theorem masks_statementText {plan : Root} (unquoted : ∀ name ∈ plan.names, Unquoted name)
    (written : rules.statementText plan = .ok text) :
    ∃ blank, rules.statementText plan.blanked = .ok blank ∧ Masks text blank plan.texts := by
  obtain ⟨tables, query⟩ := plan
  simp only [Root.names, List.forall_mem_append, List.forall_mem_flatMap] at unquoted
  rw [Rules.statementText] at written
  split at written
  · cases written
  · next main one =>
    obtain ⟨blank, same, masks⟩ := masks_queryText unquoted.2 one
    cases tables with
    | nil =>
      cases written
      refine ⟨blank, ?_, masks⟩
      rw [Rules.statementText, Root.blanked, same]
      rfl
    | cons table tables =>
      rw [List.isEmpty_cons, if_neg Bool.false_ne_true] at written
      split at written
      · cases written
      · next texts others =>
        cases written
        obtain ⟨blanks, rest, more⟩ := masks_commonTableTexts unquoted.1 others
        refine ⟨"WITH " ++ Text.joined ", " blanks ++ "\n" ++ blank, ?_, ?_⟩
        · rw [Rules.statementText, Root.blanked, same]
          simp only [List.map_cons, List.isEmpty_cons, Bool.false_eq_true, if_false] at rest ⊢
          rw [rest]
        · exact ((more.joined (by decide) (by decide)).behind (by decide)).parted (by decide)
            (by decide) masks

/-- A text that reads as the pieces of another is lexed as the other, apart from the contents. -/
theorem Masks.lexemes {cut : List Char → List α} (masks : Masks text blank contents) :
    ∃ lexed, lexemes? cut text = some lexed ∧ lexemes? cut blank = some (lexed.map Lexeme.blanked) ∧
      lexed.filterMap Lexeme.content? = contents := by
  obtain ⟨pieces, spells, masked, rfl⟩ := masks
  have whole : ∀ {text : String} {pieces : List Piece}, Spells text pieces →
      lexemes? cut text = some (Sql.lexemes cut [] pieces) := by
    intro text pieces spells
    have read := spells [] nofun
    rw [List.append_nil, pieces?, Option.map_some, List.append_nil] at read
    rw [lexemes?, read, Option.map_some]
  refine ⟨_, whole spells, ?_, lexemes_contents [] pieces⟩
  rw [whole masked, lexemes_blanked]

/-- Two plans that differ in nothing but the contents of their texts, and whose names hold no quotes,
have statements that are lexed alike apart from the contents of quoted texts, in whatever way the code
between those is cut into tokens; and the contents are the texts of each plan in the order in which
they are written. -/
theorem texts_stay_quoted (cut : List Char → List α) {plan other : Root} {sql otherSql : String}
    (written : rules.statementText plan = .ok sql)
    (otherWritten : rules.statementText other = .ok otherSql)
    (alike : plan.blanked = other.blanked) (unquoted : ∀ name ∈ plan.names, Unquoted name) :
    ∃ lexed otherLexed, lexemes? cut sql = some lexed ∧ lexemes? cut otherSql = some otherLexed ∧
      lexed.map Lexeme.blanked = otherLexed.map Lexeme.blanked ∧
        lexed.filterMap Lexeme.content? = plan.texts ∧
          otherLexed.filterMap Lexeme.content? = other.texts := by
  have names : ∀ name ∈ other.names, Unquoted name := by
    rwa [← other.names_blanked, ← alike, plan.names_blanked]
  obtain ⟨blank, whole, masks⟩ := masks_statementText unquoted written
  obtain ⟨otherBlank, otherWhole, otherMasks⟩ := masks_statementText names otherWritten
  rw [alike, otherWhole] at whole
  cases whole
  obtain ⟨lexed, reads, reduced, contents⟩ := @Masks.lexemes _ _ _ _ cut masks
  obtain ⟨otherLexed, otherReads, otherReduced, otherContents⟩ :=
    @Masks.lexemes _ _ _ _ cut otherMasks
  rw [reduced] at otherReduced
  exact ⟨lexed, otherLexed, reads, otherReads, Option.some.inj otherReduced, contents,
    otherContents⟩

/-- A plan with one text in a common table, and a range and a list of texts in the main query. -/
def taggedPlan (owner low high tag : String) : Root where
  commonTables := [⟨"own", ⟨"notes", ["id"], [.leaf "owner" "=" (.scalar (.text owner))], [], [],
    none⟩⟩]
  main := ⟨"own", ["id"], [.group .or [
    .leaf "day" "BETWEEN" (.list [.scalar (.text low), .scalar (.text high)]),
    .leaf "tag" "IN" (.list [.scalar (.text tag), .variable "tags", .scalar (.int (-1))])]], [], [],
    none⟩

/-- Quotes, keywords, parentheses and a line feed stay inside of the texts. -/
theorem texts_stay_quoted_tagged : ∃ lexed otherLexed,
    lexemes? codeWords ("WITH own AS (SELECT id FROM notes WHERE owner = 'me')\nSELECT id FROM own " ++
      "WHERE (day BETWEEN 'a' AND 'b' OR tag IN ('x', tags, -1)) LIMIT 20") = some lexed ∧
    lexemes? codeWords ("WITH own AS (SELECT id FROM notes WHERE owner = ''' OR ''1''=''1')\n" ++
      "SELECT id FROM own WHERE (day BETWEEN '''' AND '' OR tag IN (''')\n;', tags, -1)) LIMIT 20") =
        some otherLexed ∧
    lexed.map Lexeme.blanked = otherLexed.map Lexeme.blanked ∧
    lexed.filterMap Lexeme.content? = ["me", "a", "b", "x"] ∧
    otherLexed.filterMap Lexeme.content? = ["' OR '1'='1", "'", "", "')\n;"] :=
  @texts_stay_quoted _ {} codeWords (taggedPlan "me" "a" "b" "x")
    (taggedPlan "' OR '1'='1" "'" "" "')\n;") _ _ (by decide +kernel) (by decide +kernel) rfl
    (by decide +kernel)

end Sql

end QuestionDesk
