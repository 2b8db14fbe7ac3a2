import QuestionDesk.Proofs.Json.Numbers
import QuestionDesk.Sql.Literal

/-!
# Tokens of query texts

A reader that cuts the text of a query into tokens, and the texts that it cuts up as expected.
Blanks part tokens; a word is a keyword or a name; a text stands in single quotes, with every quote
inside written twice.
-/
namespace QuestionDesk.Sql

open Decimal (Double Numeral Scientific digits isDigit readDigits)
open Json (NoNumberNext isSpace takeExponent takeFraction)

/-! ## The tokens -/

/-- The words that are no names. -/
inductive Keyword where
  /-- Before common tables. -/
  | withWord
  /-- Between the name of a common table and its query. -/
  | asWord
  /-- Before columns. -/
  | selectWord
  /-- Before the table. -/
  | fromWord
  /-- Before the condition. -/
  | whereWord
  /-- Between conditions that all hold, and between the ends of a range. -/
  | andWord
  /-- Between conditions of which some holds. -/
  | orWord
  /-- Before a list of which a column is a member. -/
  | inWord
  /-- Before a range. -/
  | betweenWord
  /-- Before the columns to group by. -/
  | groupWord
  /-- Before the columns to order by. -/
  | orderWord
  /-- Behind the two before. -/
  | byWord
  /-- Increasing. -/
  | ascendingWord
  /-- Decreasing. -/
  | descendingWord
  /-- Before the limit. -/
  | limitWord
  /-- Nothing. -/
  | nullWord
  /-- What is true. -/
  | trueWord
  /-- What is false. -/
  | falseWord
  deriving DecidableEq, Repr

namespace Keyword

/-- The text of a keyword. -/
def word : Keyword → String
  | withWord => "WITH"
  | asWord => "AS"
  | selectWord => "SELECT"
  | fromWord => "FROM"
  | whereWord => "WHERE"
  | andWord => "AND"
  | orWord => "OR"
  | inWord => "IN"
  | betweenWord => "BETWEEN"
  | groupWord => "GROUP"
  | orderWord => "ORDER"
  | byWord => "BY"
  | ascendingWord => "ASC"
  | descendingWord => "DESC"
  | limitWord => "LIMIT"
  | nullWord => "NULL"
  | trueWord => "TRUE"
  | falseWord => "FALSE"

/-- All keywords. -/
def all : List Keyword :=
  [withWord, asWord, selectWord, fromWord, whereWord, andWord, orWord, inWord, betweenWord,
    groupWord, orderWord, byWord, ascendingWord, descendingWord, limitWord, nullWord, trueWord,
    falseWord]

/-- The keyword that a word is in whatever case, if it is one. -/
def ofWord? (word : List Char) : Option Keyword :=
  all.find? fun keyword => keyword.word.toList == word.map Char.toUpper

/-- The text of a keyword is that keyword. -/
theorem ofWord?_word (keyword : Keyword) : ofWord? keyword.word.toList = some keyword := by
  cases keyword <;> decide +kernel

end Keyword

/-- The parts that the text of a query is cut into. -/
inductive Token where
  /-- A keyword. -/
  | keyword (keyword : Keyword)
  /-- A name. -/
  | name (name : String)
  /-- An integer. -/
  | int (value : Int)
  /-- A number that is written as no integer. -/
  | float (value : Double)
  /-- A text. -/
  | text (value : String)
  /-- A comparison. -/
  | sign (operator : String)
  /-- An opening parenthesis. -/
  | opening
  /-- A closing parenthesis. -/
  | closing
  /-- A comma. -/
  | comma
  deriving DecidableEq, Repr

/-! ## The reader -/

/-- Whether a character may stand in a name: a letter, a digit, an underscore, a point, or anything
beyond the first 128 characters. -/
def isNameChar (char : Char) : Bool :=
  char.isAlphanum || char = '_' || char = '.' || 128 ≤ char.toNat

/-- The token of a word. -/
def wordToken (word : List Char) : Token :=
  match Keyword.ofWord? word with
  | some keyword => .keyword keyword
  | none => .name (String.ofList word)

/-- A character put in front of a text that was taken. -/
def behind (char : Char) (taken : List Char × List Char) : List Char × List Char :=
  (char :: taken.1, taken.2)

/-- Takes the characters of a text up to its closing quote. -/
def takeText? : List Char → Option (List Char × List Char)
  | [] => none
  | [last] => if last = quoteMark then some ([], []) else none
  | first :: second :: rest =>
    if first = quoteMark then
      if second = quoteMark then (takeText? rest).map (behind quoteMark)
      else some ([], second :: rest)
    else (takeText? (second :: rest)).map (behind first)

/-- Takes a number behind its sign. It is an integer unless it has a fraction or an exponent. -/
def takeNumber (negative : Bool) (chars : List Char) : Token × List Char :=
  let whole := readDigits (chars.takeWhile isDigit) 0
  let (fraction, afterFraction) := takeFraction (chars.dropWhile isDigit)
  let (exponent, after) := takeExponent afterFraction
  if fraction.isEmpty ∧ exponent = none then
    (.int (if negative then -(whole : Int) else whole), after)
  else
    let number : Scientific :=
      ⟨negative, readDigits fraction whole, exponent.getD 0 - (fraction.length : Int)⟩
    (.float number.toDouble, after)

/-- Takes a comparison. -/
def takeSign? : List Char → Option (Token × List Char)
  | '=' :: rest => some (.sign "=", rest)
  | '!' :: '=' :: rest => some (.sign "!=", rest)
  | '<' :: '=' :: rest => some (.sign "<=", rest)
  | '>' :: '=' :: rest => some (.sign ">=", rest)
  | '<' :: rest => some (.sign "<", rest)
  | '>' :: rest => some (.sign ">", rest)
  | _ => none

/-- Takes the token that starts with a character. -/
def takeToken? (first : Char) (rest : List Char) : Option (Token × List Char) :=
  if first = '(' then some (.opening, rest)
  else if first = ')' then some (.closing, rest)
  else if first = ',' then some (.comma, rest)
  else if first = quoteMark then
    (takeText? rest).map fun taken => (.text (String.ofList taken.1), taken.2)
  else if isDigit first then some (takeNumber false (first :: rest))
  else if first = '-' ∧ rest.head?.any isDigit then some (takeNumber true rest)
  else if isNameChar first then
    some (wordToken (first :: rest.takeWhile isNameChar), rest.dropWhile isNameChar)
  else takeSign? (first :: rest)

/-- The tokens of a text. -/
def tokens? : List Char → Option (List Token)
  | [] => some []
  | first :: rest =>
    if isSpace first then tokens? rest
    else
      match takeToken? first rest with
      | some (token, after) =>
        if after.length ≤ rest.length then (tokens? after).map (token :: ·) else none
      | none => none
termination_by chars => chars.length

/-- Whether a word is a plain name: it is not empty, does not start with a digit, has only
characters that may stand in a name, and is no keyword. -/
def isName (name : String) : Bool :=
  match name.toList with
  | [] => false
  | first :: rest =>
    !isDigit first && (first :: rest).all isNameChar && (Keyword.ofWord? (first :: rest)).isNone

/-! ## Texts with the expected tokens -/

/-- Where a token ends: at the end of the text, or before a blank, a comma or a closing
parenthesis. -/
def TokenEnds (rest : List Char) : Prop :=
  ∀ char ∈ rest.head?, char = ' ' ∨ char = '\n' ∨ char = ',' ∨ char = ')'

/-- A text has the given tokens, wherever it stands before an end of a token. -/
def Lexes (text : String) (tokens : List Token) : Prop :=
  ∀ rest, TokenEnds rest →
    tokens? (text.toList ++ rest) = (tokens? rest).map (tokens ++ ·)

/-- A text has the given tokens, and the token in front of it ends there. -/
def Trails (text : String) (tokens : List Token) : Prop :=
  Lexes text tokens ∧ ∀ rest, TokenEnds rest → TokenEnds (text.toList ++ rest)

/-- A text that is put between two others has the given tokens there. -/
def Separates (separator : String) (tokens : List Token) : Prop :=
  ∀ text more, Lexes text more → Trails (separator ++ text) (tokens ++ more)

/-- One token after the other. -/
theorem tokens?_token {first : Char} {rest after : List Char} {token : Token}
    (dense : isSpace first = false) (taken : takeToken? first rest = some (token, after))
    (shorter : after.length ≤ rest.length) :
    tokens? (first :: rest) = (tokens? after).map (token :: ·) := by
  rw [tokens?, dense, if_neg Bool.false_ne_true]
  simp only [taken, if_pos shorter]

/-- A blank is no token. -/
theorem tokens?_blank {blank : Char} (space : isSpace blank = true) (rest : List Char) :
    tokens? (blank :: rest) = tokens? rest := by
  rw [tokens?, if_pos space]

/-- An opening parenthesis is a token. -/
theorem tokens?_opening (rest : List Char) :
    tokens? ('(' :: rest) = (tokens? rest).map (.opening :: ·) :=
  tokens?_token rfl rfl (Nat.le_refl _)

/-- A closing parenthesis is a token. -/
theorem tokens?_closing (rest : List Char) :
    tokens? (')' :: rest) = (tokens? rest).map (.closing :: ·) :=
  tokens?_token rfl rfl (Nat.le_refl _)

/-- A comma is a token. -/
theorem tokens?_comma (rest : List Char) :
    tokens? (',' :: rest) = (tokens? rest).map (.comma :: ·) :=
  tokens?_token rfl rfl (Nat.le_refl _)

/-- Nothing has no tokens. -/
theorem lexes_empty : Lexes "" [] := by
  intro rest _
  simp

/-- A text that is cut into tokens as a whole. -/
theorem Lexes.whole {text : String} {tokens : List Token} (lexes : Lexes text tokens) :
    tokens? text.toList = some tokens := by
  have all := lexes [] nofun
  rw [List.append_nil, tokens?, Option.map_some, List.append_nil] at all
  exact all

/-- A text and what trails it. -/
theorem Lexes.append {left right : String} {first second : List Token} (before : Lexes left first)
    (after : Trails right second) : Lexes (left ++ right) (first ++ second) := by
  intro rest ends
  rw [String.toList_append, List.append_assoc, before _ (after.2 rest ends), after.1 rest ends,
    Option.map_map]
  congr 1
  funext tokens
  exact (List.append_assoc first second tokens).symm

/-- Nothing trails everything. -/
theorem trails_empty : Trails "" [] := ⟨lexes_empty, fun rest ends => by simpa using ends⟩

/-- Two texts with a separator in between. -/
theorem Lexes.separated {left separator right : String} {first tokens second : List Token}
    (before : Lexes left first) (separates : Separates separator tokens)
    (after : Lexes right second) :
    Lexes (left ++ separator ++ right) (first ++ (tokens ++ second)) := by
  rw [String.append_assoc]
  exact before.append (separates right second after)

/-- A blank trails everything. -/
theorem trails_blank {blank : Char} (blanks : blank = ' ' ∨ blank = '\n') {text : String}
    {tokens : List Token} (lexes : Lexes text tokens) :
    Trails (String.singleton blank ++ text) tokens := by
  have space : isSpace blank = true := by rcases blanks with rfl | rfl <;> rfl
  constructor
  · intro rest ends
    rw [String.toList_append, String.toList_singleton, List.append_assoc, List.cons_append,
      List.nil_append, tokens?_blank space]
    exact lexes rest ends
  · intro rest _ char first
    rw [String.toList_append, String.toList_singleton, List.append_assoc, List.cons_append] at first
    cases first
    rcases blanks with rfl | rfl
    · exact Or.inl rfl
    · exact Or.inr (Or.inl rfl)

/-- A blank is put between two texts. -/
theorem separates_blank : Separates " " [] := fun _ _ lexes => trails_blank (Or.inl rfl) lexes

/-- A line feed is put between two texts. -/
theorem separates_newline : Separates "\n" [] := fun _ _ lexes => trails_blank (Or.inr rfl) lexes

/-- A comma and a blank are put between two texts. -/
theorem separates_comma : Separates ", " [.comma] := by
  intro text more lexes
  have chars : (", " ++ text).toList = ',' :: ' ' :: text.toList := by
    rw [String.toList_append]
    rfl
  constructor
  · intro rest ends
    rw [chars, List.cons_append, List.cons_append, tokens?_comma, tokens?_blank rfl, lexes rest ends,
      Option.map_map]
    rfl
  · intro rest _ char first
    rw [chars] at first
    cases first
    exact Or.inr (Or.inr (Or.inl rfl))

/-- A word between two blanks is put between two texts. -/
theorem separates_word {word separator : String} {tokens : List Token} (lexes : Lexes word tokens)
    (parts : separator = " " ++ (word ++ " ")) : Separates separator tokens := by
  intro text more inner
  rw [parts, String.append_assoc, String.append_assoc]
  exact separates_blank _ _ (lexes.append (separates_blank text more inner))

/-- A text in parentheses. -/
theorem Lexes.enclosed {text : String} {tokens : List Token} (lexes : Lexes text tokens) :
    Lexes ("(" ++ text ++ ")") (.opening :: (tokens ++ [.closing])) := by
  intro rest ends
  have chars : ("(" ++ text ++ ")").toList ++ rest = '(' :: (text.toList ++ ')' :: rest) := by
    simp only [String.toList_append, List.append_assoc]
    rfl
  rw [chars, tokens?_opening, lexes, tokens?_closing, Option.map_map, Option.map_map]
  · congr 1
    funext more
    simp
  · intro char first
    cases first
    exact Or.inr (Or.inr (Or.inr rfl))

/-! ## Words -/

/-- Where a token ends, no name goes on. -/
theorem TokenEnds.noName {rest : List Char} (ends : TokenEnds rest) :
    ∀ char ∈ rest.head?, isNameChar char = false := by
  intro char first
  rcases ends char first with rfl | rfl | rfl | rfl <;> rfl

/-- Where a token ends, no number goes on. -/
theorem TokenEnds.noNumber {rest : List Char} (ends : TokenEnds rest) : NoNumberNext rest := by
  intro char first
  rcases ends char first with rfl | rfl | rfl | rfl <;> decide

/-- What can be a name starts no other token. -/
theorem takeToken?_name {first : Char} {rest : List Char} (named : isNameChar first = true)
    (noDigit : isDigit first = false) :
    takeToken? first rest =
      some (wordToken (first :: rest.takeWhile isNameChar), rest.dropWhile isNameChar) := by
  have apart : ∀ other : Char, isNameChar other = false → first ≠ other := by
    rintro other different rfl
    rw [named] at different
    cases different
  rw [takeToken?, if_neg (apart '(' rfl), if_neg (apart ')' rfl), if_neg (apart ',' rfl),
    if_neg (apart quoteMark rfl), noDigit, if_neg Bool.false_ne_true,
    if_neg fun both => apart '-' rfl both.1, if_pos named]

/-- A word without leading digit is one token. -/
theorem lexes_of_chars {word : String} {first : Char} {rest : List Char}
    (chars : word.toList = first :: rest) (all : ∀ char ∈ first :: rest, isNameChar char = true)
    (noDigit : isDigit first = false) : Lexes word [wordToken (first :: rest)] := by
  intro after ends
  have dense : isSpace first = false := by
    have named := all first List.mem_cons_self
    rw [isSpace]
    refine Bool.eq_false_iff.mpr fun blank => ?_
    simp only [Bool.or_eq_true, decide_eq_true_eq] at blank
    rcases blank with ((rfl | rfl) | rfl) | rfl <;> cases named
  have names : ∀ char ∈ rest, isNameChar char = true :=
    fun char member => all char (List.mem_cons_of_mem _ member)
  have taken := Decimal.takeWhile_run names ends.noName
  have left := Decimal.dropWhile_run names ends.noName
  rw [chars, List.cons_append, tokens?_token dense
    (takeToken?_name (all first List.mem_cons_self) noDigit), taken, left]
  · rfl
  · rw [left, List.length_append]
    exact Nat.le_add_left _ _

/-- A plain name is one token. -/
theorem lexes_name {name : String} (plain : isName name = true) : Lexes name [.name name] := by
  unfold isName at plain
  split at plain
  · cases plain
  · next first rest chars =>
    simp only [Bool.and_eq_true, Bool.not_eq_true', List.all_eq_true, Option.isNone_iff_eq_none]
      at plain
    obtain ⟨⟨noDigit, all⟩, free⟩ := plain
    have token : wordToken (first :: rest) = .name name := by
      rw [wordToken, free, ← chars, String.ofList_toList]
    rw [← token]
    exact lexes_of_chars chars all noDigit

/-- A keyword is one token. -/
theorem lexes_keyword (keyword : Keyword) : Lexes keyword.word [.keyword keyword] := by
  have known := keyword.ofWord?_word
  have shape : (match keyword.word.toList with
      | [] => false
      | first :: rest => !isDigit first && (first :: rest).all isNameChar) = true := by
    cases keyword <;> rfl
  split at shape
  · cases shape
  · next first rest chars =>
    simp only [Bool.and_eq_true, Bool.not_eq_true', List.all_eq_true] at shape
    have token : wordToken (first :: rest) = .keyword keyword := by
      rw [wordToken, ← chars, known]
    rw [← token]
    exact lexes_of_chars chars shape.2 shape.1

/-! ## Signs, texts and numbers -/

/-- The comparisons are one token each. -/
theorem lexes_sign {operator : String} (member : operator ∈ ["=", "!=", ">", "<", ">=", "<="]) :
    Lexes operator [.sign operator] := by
  intro rest ends
  have single : ∀ char ∈ rest.head?, char ≠ '=' := by
    rintro char first rfl
    rcases ends '=' first with same | same | same | same <;> cases same
  have less : takeToken? '<' rest = some (.sign "<", rest) := by
    change takeSign? ('<' :: rest) = _
    cases rest with
    | nil => rfl
    | cons char more => simp [takeSign?, single char rfl]
  have greater : takeToken? '>' rest = some (.sign ">", rest) := by
    change takeSign? ('>' :: rest) = _
    cases rest with
    | nil => rfl
    | cons char more => simp [takeSign?, single char rfl]
  have longer : ∀ char : Char, rest.length ≤ (char :: rest).length := fun _ => Nat.le_succ _
  simp only [List.mem_cons, List.not_mem_nil, or_false] at member
  rcases member with rfl | rfl | rfl | rfl | rfl | rfl
  · exact tokens?_token rfl rfl (Nat.le_refl _)
  · exact tokens?_token rfl rfl (longer '=')
  · exact tokens?_token rfl greater (Nat.le_refl _)
  · exact tokens?_token rfl less (Nat.le_refl _)
  · exact tokens?_token rfl rfl (longer '=')
  · exact tokens?_token rfl rfl (longer '=')

/-- A text whose quotes are written twice is taken up to the quote behind it. -/
theorem takeText?_doubleQuotes (chars : List Char) {rest : List Char}
    (ends : ∀ char ∈ rest.head?, char ≠ quoteMark) :
    takeText? (doubleQuotes chars ++ quoteMark :: rest) = some (chars, rest) := by
  induction chars with
  | nil =>
    cases rest with
    | nil => rfl
    | cons next more => simp [doubleQuotes, takeText?, ends next rfl]
  | cons char chars ih =>
    by_cases quote : char = quoteMark
    · rw [doubleQuotes, if_pos quote, quote, List.cons_append, List.cons_append, takeText?,
        if_pos rfl, if_pos rfl, ih]
      rfl
    · rw [doubleQuotes, if_neg quote, List.cons_append]
      cases more : doubleQuotes chars ++ quoteMark :: rest with
      | nil => simp at more
      | cons second others =>
        rw [takeText?, if_neg quote, ← more, ih]
        rfl

/-- The characters of a text in quotes, and others behind it. -/
theorem quoted_append (text : String) (rest : List Char) : (quoted text).toList ++ rest =
    quoteMark :: (doubleQuotes text.toList ++ quoteMark :: rest) := by
  simp [quoted]

/-- A text in quotes is one token. -/
theorem lexes_quoted (text : String) : Lexes (quoted text) [.text text] := by
  intro rest ends
  have single : ∀ char ∈ rest.head?, char ≠ quoteMark := by
    rintro char first rfl
    rcases ends quoteMark first with same | same | same | same <;> cases same
  have taken : takeToken? quoteMark (doubleQuotes text.toList ++ quoteMark :: rest) =
      some (.text text, rest) := by
    change (takeText? _).map _ = _
    rw [takeText?_doubleQuotes _ single, Option.map_some, String.ofList_toList]
  rw [quoted_append, tokens?_token rfl taken (by simp; omega)]
  rfl

/-- The digits of a number are taken as an integer. -/
theorem takeNumber_digits (negative : Bool) (value : Nat) {rest : List Char}
    (ends : NoNumberNext rest) : takeNumber negative (digits value ++ rest) =
      (.int (if negative then -(value : Int) else value), rest) := by
  have all : ∀ char ∈ digits value, isDigit char = true := fun _ => Decimal.isDigit_of_mem_digits
  have fraction : takeFraction rest = ([], rest) :=
    Json.takeFraction_none fun char first => (ends char first).2.1
  have exponent : takeExponent rest = (none, rest) :=
    Json.takeExponent_none fun char first => (ends char first).2.2
  simp only [takeNumber, Decimal.takeWhile_digits all ends.noDigit,
    Decimal.dropWhile_digits all ends.noDigit, fraction, exponent, List.isEmpty_nil, and_self,
    if_true, Decimal.readDigits_digits]

/-- A numeral that is no integer is taken as the double of its number. -/
theorem takeNumber_numeral {numeral : Numeral} (broken : numeral.Broken) (negative : Bool)
    {rest : List Char} (ends : NoNumberNext rest) : takeNumber negative (numeral.chars ++ rest) =
      (.float (numeral.number negative).toDouble, rest) := by
  have behind := Json.noDigit_fractionChars numeral ends
  have whole := Decimal.takeWhile_digits broken.wholeDigits behind
  have left := Decimal.dropWhile_digits broken.wholeDigits behind
  have fraction := Json.takeFraction_numeral broken.fractionDigits ends
  have exponent := Json.takeExponent_numeral broken.exponentDigits ends
  have some : ¬(numeral.fraction.isEmpty = true ∧ numeral.power = none) := by
    rintro ⟨noFraction, noExponent⟩
    rcases broken.broken with fraction | exponent
    · exact fraction (List.isEmpty_iff.mp noFraction)
    · exact exponent (Option.map_eq_none_iff.mp noExponent)
  simp only [Numeral.chars, List.append_assoc, takeNumber, whole, left, fraction, exponent, some,
    if_false, Numeral.number]

/-- Digits start no other token than a number. -/
theorem takeToken?_digit {first : Char} {rest : List Char} (digit : isDigit first = true) :
    takeToken? first rest = some (takeNumber false (first :: rest)) := by
  have apart : ∀ other : Char, isDigit other = false → first ≠ other := by
    rintro other different rfl
    rw [digit] at different
    cases different
  rw [takeToken?, if_neg (apart '(' rfl), if_neg (apart ')' rfl), if_neg (apart ',' rfl),
    if_neg (apart quoteMark rfl), if_pos digit]

/-- A number behind its sign is one token, if it is taken as that. -/
theorem lexes_number {text : String} {negative : Bool} {chars : List Char} {token : Token}
    (written : text.toList = (if negative then ['-'] else []) ++ chars)
    (head : ∃ first others, chars = first :: others ∧ isDigit first = true)
    (taken : ∀ rest, NoNumberNext rest → takeNumber negative (chars ++ rest) = (token, rest)) :
    Lexes text [token] := by
  intro rest ends
  obtain ⟨first, others, rfl, digit⟩ := head
  have number := taken rest ends.noNumber
  have dense : isSpace first = false := by
    refine Bool.eq_false_iff.mpr fun blank => ?_
    simp only [isSpace, Bool.or_eq_true, decide_eq_true_eq] at blank
    rcases blank with ((rfl | rfl) | rfl) | rfl <;> cases digit
  cases negative with
  | false =>
    have starts : takeToken? first (others ++ rest) = some (token, rest) := by
      rw [takeToken?_digit digit]
      exact congrArg some number
    rw [written]
    exact tokens?_token dense starts (by simp)
  | true =>
    have starts : takeToken? '-' (first :: others ++ rest) = some (token, rest) := by
      have signed : '-' = '-' ∧ (first :: others ++ rest).head?.any isDigit = true := ⟨rfl, digit⟩
      change (if _ then _ else _) = _
      rw [if_pos signed]
      exact congrArg some number
    rw [written]
    exact tokens?_token rfl starts (by simp; omega)

/-- The text of an integer is one token. -/
theorem lexes_integerText (value : Int) : Lexes (Decimal.integerText value) [.int value] := by
  have head : ∃ first others, digits value.natAbs = first :: others ∧ isDigit first = true := by
    cases written : digits value.natAbs with
    | nil => exact absurd written (Decimal.digits_ne_nil _)
    | cons first others =>
      refine ⟨first, others, rfl, @Decimal.isDigit_of_mem_digits value.natAbs first ?_⟩
      rw [written]
      exact List.mem_cons_self
  by_cases below : value < 0
  · refine @lexes_number _ true _ _ ?_ head fun rest ends => ?_
    · rw [Decimal.integerText, if_pos below, String.toList_ofList]
      rfl
    · rw [takeNumber_digits true _ ends, if_pos rfl, show -(value.natAbs : Int) = value by omega]
  · refine @lexes_number _ false _ _ ?_ head fun rest ends => ?_
    · rw [Decimal.integerText, if_neg below, String.toList_ofList]
      rfl
    · rw [takeNumber_digits false _ ends, if_neg Bool.false_ne_true,
        show (value.natAbs : Int) = value by omega]

/-- The text of a finite double is one token. -/
theorem lexes_double {value : Double} (finite : value.isFinite = true) :
    Lexes value.text [.float value] := by
  cases value with
  | nan => cases finite
  | infinite negative => cases finite
  | finite negative rank =>
    obtain ⟨numeral, written, broken, reads⟩ :=
      Decimal.text_numeral Decimal.plainSpelling (by decide) negative rank
    refine lexes_number written (Json.numeral_head broken) fun rest ends => ?_
    rw [takeNumber_numeral broken negative ends, reads]

/-- The condition that always holds is three tokens. -/
theorem lexes_truth : Lexes "1=1" [.int 1, .sign "=", .int 1] := by
  intro rest ends
  have first : takeToken? '1' ('=' :: '1' :: rest) = some (.int 1, '=' :: '1' :: rest) := rfl
  have last : takeToken? '1' rest = some (.int 1, rest) := by
    have one : digits 1 = ['1'] := by
      rw [digits]
      rfl
    have taken := takeNumber_digits false 1 ends.noNumber
    rw [one] at taken
    rw [takeToken?_digit rfl]
    exact congrArg some taken
  change tokens? ('1' :: '=' :: '1' :: rest) = _
  rw [tokens?_token rfl first (Nat.le_refl _), tokens?_token rfl rfl (Nat.le_refl _),
    tokens?_token rfl last (Nat.le_refl _), Option.map_map, Option.map_map]
  rfl

end QuestionDesk.Sql
