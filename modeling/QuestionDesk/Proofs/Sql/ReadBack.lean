import Mathlib.Data.List.Forall2
import QuestionDesk.Proofs.Sql.Grammar
import QuestionDesk.Proofs.Sql.Limit

/-!
# Reading query texts back

The text of a plan whose names are plain and whose doubles are finite is read back as the plan, with
every limit replaced by the one that is in force and every group with a single part by the same
group under one junction. So plans with the same text say the same.
-/
namespace QuestionDesk.Sql

open Plan (CommonTable Direction Filter Junction Operand Query Root Scalar SortKey)

/-! ## Texts and readers -/

/-- Tokens begin with an allowed one, if with any. -/
def Heads (allowed : Token → Prop) (tokens : List Token) : Prop :=
  ∀ token ∈ tokens.head?, allowed token

/-- A reader reads a value from tokens, whatever stands behind them that may stand there. -/
def Reads {α : Type} (reader : Reader α) (stops : Token → Prop) (tokens : List Token) (value : α) :
    Prop :=
  ∀ rest, Heads stops rest → reader (tokens ++ rest) = some (value, rest)

/-- A text is cut into tokens from which a reader with enough fuel reads a value. -/
def Written {α : Type} (reader : Nat → Reader α) (stops : Token → Prop) (text : String) (value : α) :
    Prop :=
  ∃ tokens, Lexes text tokens ∧
    ∀ fuel, tokens.length < fuel → Reads (reader fuel) stops tokens value

/-- Whatever may stand behind. -/
def Anything (_ : Token) : Prop := True

section Separated

variable {α : Type} {reader : Nat → Reader α} {stops : Token → Prop} {separator : String}
  {token : Token}

/-- Items with separators in between are read one after the other, as many as there are steps. -/
theorem lexes_joined (own : stops token) (separates : Separates separator [token])
    {texts : List String} {values : List α} (some : texts ≠ [])
    (all : List.Forall₂ (Written reader stops) texts values) :
    ∃ tokens, Lexes (Text.joined separator texts) tokens ∧
      ∀ fuel steps, tokens.length < fuel → tokens.length < steps →
        Reads (readSeparated token (reader fuel) steps) (fun next => stops next ∧ next ≠ token)
          tokens values := by
  induction all with
  | nil => exact absurd rfl some
  | @cons text value texts values first others ih =>
    obtain ⟨tokens, lexes, reads⟩ := first
    cases others with
    | nil =>
      refine ⟨tokens, lexes, fun fuel steps enough more rest ends => ?_⟩
      obtain ⟨steps, rfl⟩ := Nat.exists_eq_add_of_lt (Nat.zero_lt_of_lt more)
      rw [Nat.zero_add, readSeparated,
        reads fuel enough rest fun next first => (ends next first).1]
      cases rest with
      | nil => rfl
      | cons next rest => simp only [if_neg (ends next rfl).2]
    | @cons text' value' texts values second others =>
      -- The separator ends the first item, and a step is left for each token behind it.
      obtain ⟨behind, lexed, later⟩ := ih (List.cons_ne_nil _ _)
      refine ⟨tokens ++ ([token] ++ behind), lexes.separated separates lexed,
        fun fuel steps enough more rest ends => ?_⟩
      simp only [List.length_append, List.length_singleton] at enough more
      obtain ⟨steps, rfl⟩ := Nat.exists_eq_add_of_lt (Nat.zero_lt_of_lt more)
      have head : Heads stops ([token] ++ behind ++ rest) := by
        intro next first
        cases first
        exact own
      rw [Nat.zero_add, readSeparated, List.append_assoc, reads fuel (by omega) _ head]
      simp only [List.cons_append, List.nil_append, if_true]
      rw [later fuel steps (by omega) (by omega) rest ends]
      rfl

/-- Joined texts of items are read as the items. -/
theorem written_joined (own : stops token) (separates : Separates separator [token])
    {texts : List String} {values : List α} (some : texts ≠ [])
    (all : List.Forall₂ (Written reader stops) texts values) :
    Written (fun fuel => readSeparated token (reader fuel) fuel)
      (fun next => stops next ∧ next ≠ token) (Text.joined separator texts) values := by
  obtain ⟨tokens, lexes, reads⟩ := lexes_joined own separates some all
  exact ⟨tokens, lexes, fun fuel enough => reads fuel fuel enough enough⟩

end Separated

/-! ## Operands -/

/-- A text with a single token is read by a reader that takes the token. -/
theorem written_token {text : String} {token : Token} (lexes : Lexes text [token])
    {α : Type} {reader : Nat → Reader α} {value : α}
    (takes : ∀ fuel rest, reader (fuel + 1) (token :: rest) = some (value, rest)) :
    Written reader Anything text value := by
  refine ⟨[token], lexes, fun fuel enough rest _ => ?_⟩
  obtain ⟨fuel, rfl⟩ := Nat.exists_eq_add_of_lt (Nat.zero_lt_of_lt enough)
  rw [Nat.zero_add]
  exact takes fuel rest

/-- A literal is read as its value. -/
theorem written_scalar {scalar : Scalar} (plain : (Operand.scalar scalar).isPlain = true) :
    Written readOperand Anything (scalarText scalar) (.scalar scalar) := by
  cases scalar with
  | null => exact written_token (lexes_keyword .nullWord) fun _ _ => rfl
  | bool value =>
    cases value with
    | true => exact written_token (lexes_keyword .trueWord) fun _ _ => rfl
    | false => exact written_token (lexes_keyword .falseWord) fun _ _ => rfl
  | int value => exact written_token (lexes_integerText value) fun _ _ => rfl
  | float value =>
    exact written_token (lexes_double (by simpa only [Operand.isPlain] using plain)) fun _ _ => rfl
  | text value => exact written_token (lexes_quoted value) fun _ _ => rfl

/-- A list in parentheses is read as the list of its items. -/
theorem written_list {texts : List String} {items : List Operand}
    (all : List.Forall₂ (Written readOperand Anything) texts items) :
    Written readOperand Anything ("(" ++ Text.joined ", " texts ++ ")") (.list items) := by
  cases texts with
  | nil =>
    cases all
    refine ⟨_, lexes_empty.enclosed, fun fuel enough rest _ => ?_⟩
    obtain ⟨fuel, rfl⟩ := Nat.exists_eq_add_of_lt (Nat.zero_lt_of_lt enough)
    have none : readSeparated .comma (readOperand fuel) fuel (.closing :: rest) = none := by
      cases fuel with
      | zero => rfl
      | succ fuel => rfl
    simp only [Nat.zero_add, List.nil_append, List.cons_append, readOperand, none]
  | cons first others =>
    obtain ⟨tokens, lexes, reads⟩ :=
      @written_joined _ readOperand Anything _ _ trivial separates_comma _ _
        (List.cons_ne_nil first others) all
    refine ⟨_, lexes.enclosed, fun fuel enough rest _ => ?_⟩
    simp only [List.length_cons, List.length_append] at enough
    obtain ⟨fuel, rfl⟩ := Nat.exists_eq_add_of_lt (Nat.zero_lt_of_lt enough)
    have closes : Heads (fun next => Anything next ∧ next ≠ .comma) (.closing :: rest) := by
      intro next first
      cases first
      exact ⟨trivial, nofun⟩
    have inner := reads fuel (by omega) (.closing :: rest) closes
    simp only [Nat.zero_add, List.cons_append, List.append_assoc, List.nil_append, readOperand, inner]

mutual

/-- An operand is read back from its text. -/
theorem written_operand : ∀ operand : Operand, operand.isPlain = true →
    Written readOperand Anything (operandText operand) operand
  | .variable name, plain => by
    rw [Operand.isPlain] at plain
    rw [operandText]
    exact written_token (lexes_name plain) fun _ _ => rfl
  | .scalar scalar, plain => by
    rw [operandText]
    exact written_scalar plain
  | .list items, plain => by
    rw [Operand.isPlain] at plain
    rw [operandText]
    exact written_list (written_operands items plain)

/-- Several operands are read back from their texts. -/
theorem written_operands : ∀ items : List Operand, Plan.allPlain items = true →
    List.Forall₂ (Written readOperand Anything) (operandTexts items) items
  | [], _ => by
    rw [operandTexts]
    exact .nil
  | item :: items, plain => by
    rw [Plan.allPlain, Bool.and_eq_true] at plain
    rw [operandTexts]
    exact .cons (written_operand item plain.1) (written_operands items plain.2)

end

/-! ## Conditions -/

/-- The word of a junction is put between two texts. -/
theorem separates_junction (junction : Junction) :
    Separates (" " ++ junction.word ++ " ")
      [.keyword (match junction with | .and => .andWord | .or => .orWord)] := by
  cases junction with
  | and => exact separates_word (lexes_keyword .andWord) rfl
  | or => exact separates_word (lexes_keyword .orWord) rfl

/-- Joined conditions that all hold are read as one alternative. -/
theorem written_conjunction {texts : List String} {parts : List Filter} (some : texts ≠ [])
    (all : List.Forall₂ (Written readFilter Anything) texts parts) :
    Written (fun fuel => readAlternatives (readFilter fuel) fuel)
      (fun next => (Anything next ∧ next ≠ .keyword .andWord) ∧ next ≠ .keyword .orWord)
      (Text.joined " AND " texts) [parts] := by
  have whole := written_joined (show Anything (.keyword .andWord) from trivial)
    (separates_junction .and) some all
  exact @written_joined _ (fun fuel => readSeparated (.keyword .andWord) (readFilter fuel) fuel) _ _ _
    ⟨trivial, nofun⟩ (separates_junction .or) [Text.joined " AND " texts] [parts]
    (List.cons_ne_nil _ _) (.cons whole .nil)

/-- Joined conditions of which some holds are read as one alternative each. -/
theorem written_disjunction {texts : List String} {parts : List Filter} (some : texts ≠ [])
    (all : List.Forall₂ (Written readFilter Anything) texts parts) :
    Written (fun fuel => readAlternatives (readFilter fuel) fuel)
      (fun next => (Anything next ∧ next ≠ .keyword .andWord) ∧ next ≠ .keyword .orWord)
      (Text.joined " OR " texts) (parts.map ([·])) := by
  refine @written_joined _ (fun fuel => readSeparated (.keyword .andWord) (readFilter fuel) fuel) _ _ _
    ⟨trivial, nofun⟩ (separates_junction .or) texts _ some ?_
  rw [List.forall₂_map_right_iff]
  exact all.imp fun text part written =>
    written_joined (show Anything (.keyword .andWord) from trivial) (separates_junction .and)
      (List.cons_ne_nil _ _) (.cons written .nil)

/-- Alternatives in parentheses are read as one condition. -/
theorem written_grouped {text : String} {alternatives : List (List Filter)}
    (written : Written (fun fuel => readAlternatives (readFilter fuel) fuel)
      (fun next => (Anything next ∧ next ≠ .keyword .andWord) ∧ next ≠ .keyword .orWord)
      text alternatives) :
    Written readFilter Anything ("(" ++ text ++ ")") (grouped alternatives) := by
  obtain ⟨tokens, lexes, reads⟩ := written
  refine ⟨_, lexes.enclosed, fun fuel enough rest _ => ?_⟩
  simp only [List.length_cons, List.length_append] at enough
  obtain ⟨fuel, rfl⟩ := Nat.exists_eq_add_of_lt (Nat.zero_lt_of_lt enough)
  have closes : Heads (fun next => (Anything next ∧ next ≠ .keyword .andWord) ∧
      next ≠ .keyword .orWord) (.closing :: rest) := by
    intro next first
    cases first
    exact ⟨⟨trivial, nofun⟩, nofun⟩
  have inner := reads fuel (by omega) (.closing :: rest) closes
  simp only [Nat.zero_add, List.cons_append, List.append_assoc, List.nil_append, readFilter, inner]

/-- A group in parentheses is read as the group; with a single part, under one junction. -/
theorem written_group (junction : Junction) {texts : List String} {parts : List Filter}
    (some : texts ≠ []) (all : List.Forall₂ (Written readFilter Anything) texts parts) :
    Written readFilter Anything ("(" ++ Text.joined (" " ++ junction.word ++ " ") texts ++ ")")
      (.group (if parts.length = 1 then .and else junction) parts) := by
  cases junction with
  | and =>
    rw [ite_self]
    exact written_grouped (written_conjunction some all)
  | or =>
    have written := written_grouped (written_disjunction some all)
    have same : grouped (parts.map ([·])) =
        .group (if parts.length = 1 then .and else .or) parts := by
      cases parts with
      | nil => rfl
      | cons part parts =>
        cases parts with
        | nil => rfl
        | cons next parts =>
          have many : (part :: next :: parts).length ≠ 1 := by simp
          rw [if_neg many]
          change Filter.group .or _ = _
          simp [Function.comp_def, conjunction]
    rw [← same]
    exact written

/-- A comparison by a sign is read back from its text. -/
theorem written_signed {column operator : String} {operand : Operand} (named : isName column = true)
    (member : operator ∈ ["=", "!=", ">", "<", ">=", "<="]) (plain : operand.isPlain = true) :
    Written readFilter Anything (column ++ " " ++ operator ++ " " ++ operandText operand)
      (.leaf column operator operand) := by
  obtain ⟨tokens, lexes, reads⟩ := written_operand operand plain
  refine ⟨_, ((lexes_name named).separated separates_blank (lexes_sign member)).separated
    separates_blank lexes, fun fuel enough rest ends => ?_⟩
  simp only [List.length_append, List.length_singleton, List.length_nil] at enough
  obtain ⟨fuel, rfl⟩ := Nat.exists_eq_add_of_lt (Nat.zero_lt_of_lt enough)
  have inner := reads fuel (by omega) rest ends
  simp only [Nat.zero_add, List.nil_append, List.cons_append, readFilter, readComparison, inner,
    Option.map_some]

/-- A membership test is read back from its text. -/
theorem written_member {column : String} {items : List Operand} (named : isName column = true)
    (plain : (Operand.list items).isPlain = true) :
    Written readFilter Anything (column ++ " " ++ "IN" ++ " " ++ operandText (.list items))
      (.leaf column "IN" (.list items)) := by
  obtain ⟨tokens, lexes, reads⟩ := written_operand (.list items) plain
  refine ⟨_, ((lexes_name named).separated separates_blank (lexes_keyword .inWord)).separated
    separates_blank lexes, fun fuel enough rest ends => ?_⟩
  simp only [List.length_append, List.length_singleton, List.length_nil] at enough
  obtain ⟨fuel, rfl⟩ := Nat.exists_eq_add_of_lt (Nat.zero_lt_of_lt enough)
  have inner := reads fuel (by omega) rest ends
  simp only [Nat.zero_add, List.nil_append, List.cons_append, readFilter, readComparison, inner]

/-- A range is read back from its text, with the word between its ends. -/
theorem written_range {column : String} {low high : Operand} (named : isName column = true)
    (first : low.isPlain = true) (last : high.isPlain = true) :
    Written readFilter Anything
      (column ++ " BETWEEN " ++ operandText low ++ " AND " ++ operandText high)
      (.leaf column "BETWEEN" (.list [low, high])) := by
  obtain ⟨lower, lexesLow, readsLow⟩ := written_operand low first
  obtain ⟨upper, lexesHigh, readsHigh⟩ := written_operand high last
  refine ⟨_, ((lexes_name named).separated (separates_word (lexes_keyword .betweenWord) rfl)
    lexesLow).separated (separates_word (lexes_keyword .andWord) rfl) lexesHigh,
    fun fuel enough rest ends => ?_⟩
  simp only [List.length_append, List.length_singleton] at enough
  obtain ⟨fuel, rfl⟩ := Nat.exists_eq_add_of_lt (Nat.zero_lt_of_lt enough)
  have lowRead := readsLow fuel (by omega) (.keyword .andWord :: (upper ++ rest)) fun _ _ => trivial
  have highRead := readsHigh fuel (by omega) rest ends
  simp only [Nat.zero_add, List.nil_append, List.cons_append, List.append_assoc, readFilter,
    readComparison, lowRead, highRead, Option.map_some]

/-- A comparison is read back from its text. -/
theorem written_leaf {column operator text : String} {operand : Operand}
    (rendered : ({} : Rules).leafText column operator operand = .ok text)
    (named : isName column = true) (plain : operand.isPlain = true) :
    Written readFilter Anything text (.leaf column operator operand) := by
  unfold Rules.leafText at rendered
  split at rendered
  · cases rendered
  · next allowed =>
    split at rendered
    · next range =>
      split at rendered
      · next low high =>
        cases rendered
        simp only [Operand.isPlain, Plan.allPlain, Bool.and_true, Bool.and_eq_true] at plain
        rw [range]
        exact written_range named plain.1 plain.2
      · cases rendered
    · next other =>
      have member : operator ∈ ["=", "!=", ">", "<", ">=", "<="] ∨ operator = "IN" := by
        simp only [Bool.not_eq_true', Bool.not_eq_false, List.contains_iff_mem] at allowed
        simp only [List.mem_cons, List.not_mem_nil, or_false] at allowed ⊢
        tauto
      split at rendered
      · next items =>
        cases rendered
        rcases member with sign | rfl
        · exact written_signed named sign plain
        · exact written_member named plain
      · cases rendered
      · next out single =>
        cases rendered
        exact written_signed named (member.resolve_right out) plain

mutual

/-- A condition is read back from its text. -/
theorem written_filter : ∀ (filter : Filter) {text : String},
    ({} : Rules).filterText filter = .ok text → filter.isPlain = true →
      Written readFilter Anything text filter.relabelled
  | .group junction [], _, rendered, _ => by cases rendered
  | .group junction (part :: parts), text, rendered, plain => by
    rw [Rules.filterText] at rendered
    rw [Filter.isPlain] at plain
    cases inner : ({} : Rules).filterTexts (part :: parts) with
    | error fault =>
      rw [inner] at rendered
      cases rendered
    | ok texts =>
      rw [inner] at rendered
      cases rendered
      have all := written_filters (part :: parts) inner plain
      have some : texts ≠ [] := by
        rintro rfl
        cases all
      rw [Filter.relabelled, ← Plan.length_relabelledAll]
      exact written_group junction some all
  | .leaf column operator operand, text, rendered, plain => by
    rw [Filter.isPlain, Bool.and_eq_true] at plain
    rw [Rules.filterText] at rendered
    exact written_leaf rendered plain.1 plain.2
  | .stray kind, _, rendered, _ => by cases rendered

/-- Several conditions are read back from their texts. -/
theorem written_filters : ∀ (filters : List Filter) {texts : List String},
    ({} : Rules).filterTexts filters = .ok texts → Plan.forestPlain filters = true →
      List.Forall₂ (Written readFilter Anything) texts (Plan.relabelledAll filters)
  | [], _, rendered, _ => by
    cases rendered
    exact .nil
  | filter :: filters, texts, rendered, plain => by
    rw [Rules.filterTexts] at rendered
    rw [Plan.forestPlain, Bool.and_eq_true] at plain
    cases first : ({} : Rules).filterText filter with
    | error fault =>
      rw [first] at rendered
      cases rendered
    | ok text =>
      cases others : ({} : Rules).filterTexts filters with
      | error fault =>
        rw [first, others] at rendered
        cases rendered
      | ok more =>
        rw [first, others] at rendered
        cases rendered
        exact .cons (written_filter filter first plain.1) (written_filters filters others plain.2)

end

/-- The condition of a query is read back from its text; the condition that always holds is none. -/
theorem written_condition {filters : List Filter} {text : String}
    (rendered : (if filters.isEmpty then .ok "1=1" else ({} : Rules).conditionText filters) = .ok text)
    (plain : Plan.forestPlain filters = true) :
    Written readCondition
      (fun next => (Anything next ∧ next ≠ .keyword .andWord) ∧ next ≠ .keyword .orWord)
      text (Plan.relabelledAll filters) := by
  cases filters with
  | nil =>
    cases rendered
    refine ⟨_, lexes_truth, fun fuel enough rest _ => ?_⟩
    obtain ⟨fuel, rfl⟩ := Nat.exists_eq_add_of_lt (Nat.zero_lt_of_lt enough)
    rw [Nat.zero_add]
    rfl
  | cons filter filters =>
    change ({} : Rules).conditionText (filter :: filters) = .ok text at rendered
    rw [Rules.conditionText] at rendered
    cases inner : ({} : Rules).filterTexts (filter :: filters) with
    | error fault =>
      rw [inner] at rendered
      cases rendered
    | ok texts =>
      rw [inner] at rendered
      cases rendered
      have all := written_filters (filter :: filters) inner plain
      have some : texts ≠ [] := by
        rintro rfl
        cases all
      obtain ⟨tokens, lexes, reads⟩ := written_conjunction some all
      refine ⟨tokens, lexes, fun fuel enough rest ends => ?_⟩
      have read := reads fuel enough rest ends
      simp only [readCondition, read, conditions]

/-! ## Queries -/

/-- Tokens one after the other begin with allowed ones. -/
theorem Heads.append {allowed : Token → Prop} {left right : List Token} (first : Heads allowed left)
    (second : Heads allowed right) : Heads allowed (left ++ right) := by
  cases left with
  | nil => exact second
  | cons token left => exact first

/-- Tokens that begin with an allowed one begin with allowed ones. -/
theorem Heads.of_token {allowed : Token → Prop} {token : Token} {tokens : List Token}
    (heads : Heads (· = token) tokens) (fits : allowed token) : Heads allowed tokens := by
  intro next first
  rw [heads next first]
  exact fits

/-- Names are read back from their texts. -/
theorem written_names {names : List String} (plain : names.all isName = true) :
    List.Forall₂ (Written (fun _ => readName) Anything) names names := by
  refine List.forall₂_same.mpr fun name member => ?_
  exact written_token (lexes_name (List.all_eq_true.mp plain name member)) fun _ _ => rfl

/-- What a direction is not. -/
def NoDirection (next : Token) : Prop :=
  next ≠ .keyword .ascendingWord ∧ next ≠ .keyword .descendingWord

/-- A column to order by is read back from its text. -/
theorem written_sortKey {key : SortKey} (named : isName key.column = true) :
    Written (fun _ => readSortKey) NoDirection (sortKeyText key) key := by
  obtain ⟨column, direction⟩ := key
  have lexes := lexes_name named
  cases direction with
  | none =>
    refine ⟨_, lexes, fun fuel _ rest ends => ?_⟩
    cases rest with
    | nil => rfl
    | cons next rest =>
      obtain ⟨noRise, noFall⟩ := ends next rfl
      simp only [List.cons_append, List.nil_append]
      unfold readSortKey
      split
      · next same =>
        cases same
        exact absurd rfl noRise
      · next same =>
        cases same
        exact absurd rfl noFall
      · next same =>
        cases same
        rfl
      · next out => exact absurd rfl (out _ _)
  | some direction =>
    cases direction with
    | ascending =>
      exact ⟨_, lexes.separated separates_blank (lexes_keyword .ascendingWord), fun _ _ _ _ => rfl⟩
    | descending =>
      exact ⟨_, lexes.separated separates_blank (lexes_keyword .descendingWord), fun _ _ _ _ => rfl⟩

/-- A text that trails another is cut into tokens, which begin with a keyword if there are any, and
from which a reader with enough fuel reads a value. -/
def Trailing {α : Type} (reader : Nat → Reader α) (keyword : Keyword) (stops : Token → Prop)
    (text : String) (value : α) : Prop :=
  ∃ tokens, Trails text tokens ∧ Heads (· = .keyword keyword) tokens ∧
    ∀ fuel, tokens.length < fuel →
      Reads (reader fuel) (fun next => stops next ∧ next ≠ .keyword keyword) tokens value

/-- A clause is read back from its text, also when it is absent. -/
theorem trailing_clause {α : Type} {keyword : Keyword} {word : String}
    (lexes : Lexes word [.keyword keyword, .keyword .byWord]) {reader : Reader α}
    {stops : Token → Prop} (own : stops .comma) {texts : List String} {values : List α}
    (all : List.Forall₂ (Written (fun _ => reader) stops) texts values) :
    Trailing (fun fuel => readClause keyword (readSeparated .comma reader fuel)) keyword
      (fun next => stops next ∧ next ≠ .comma) (clauseText word texts) values := by
  cases texts with
  | nil =>
    cases all
    refine ⟨[], trails_empty, nofun, fun fuel _ rest ends => ?_⟩
    rw [List.nil_append]
    change readClause keyword _ rest = _
    unfold readClause
    split
    · next first rest =>
      rw [if_neg]
      rintro rfl
      exact (ends _ rfl).2 rfl
    · rfl
  | cons text texts =>
    obtain ⟨tokens, inner, reads⟩ := @written_joined _ (fun _ => reader) _ _ _ own separates_comma
      _ _ (List.cons_ne_nil text texts) all
    have whole := lexes.separated separates_blank inner
    refine ⟨[.keyword keyword, .keyword .byWord] ++ ([] ++ tokens), ?_, ?_,
      fun fuel enough rest ends => ?_⟩
    · rw [clauseText, List.isEmpty_cons, if_neg Bool.false_ne_true, String.append_assoc,
        String.append_assoc]
      rw [String.append_assoc] at whole
      exact separates_blank _ _ whole
    · intro token first
      cases first
      rfl
    · simp only [List.length_append, List.length_cons] at enough
      have read := reads fuel (by omega) rest fun next first => (ends next first).1
      simp only [List.nil_append, List.cons_append, readClause, if_true]
      exact read

/-- The columns to group by are read back from their clause. -/
theorem trailing_groupBy {names : List String} (plain : names.all isName = true) :
    Trailing (fun fuel => readClause .groupWord (readSeparated .comma readName fuel)) .groupWord
      (fun next => Anything next ∧ next ≠ .comma) (clauseText "GROUP BY" names) names :=
  trailing_clause ((lexes_keyword .groupWord).append (separates_blank _ _ (lexes_keyword .byWord)))
    trivial (written_names plain)

/-- The columns to order by are read back from their clause. -/
theorem trailing_orderBy {keys : List SortKey}
    (plain : (keys.all fun key => isName key.column) = true) :
    Trailing (fun fuel => readClause .orderWord (readSeparated .comma readSortKey fuel)) .orderWord
      (fun next => NoDirection next ∧ next ≠ .comma)
      (clauseText "ORDER BY" (keys.map sortKeyText)) keys := by
  refine trailing_clause ((lexes_keyword .orderWord).append
    (separates_blank _ _ (lexes_keyword .byWord))) ⟨nofun, nofun⟩ ?_
  rw [List.forall₂_map_left_iff]
  exact List.forall₂_same.mpr fun key member =>
    written_sortKey (List.all_eq_true.mp plain key member)

/-- The limit of a query is read back from its text, also when there is none. -/
theorem trailing_limit (limit : Option Int) :
    Trailing (fun _ => readLimit) .limitWord Anything
      (match limit with
        | some limit => " LIMIT " ++ Decimal.integerText limit
        | none => "") limit := by
  cases limit with
  | none =>
    refine ⟨[], trails_empty, nofun, fun fuel _ rest ends => ?_⟩
    rw [List.nil_append]
    change readLimit rest = _
    unfold readLimit
    split
    · exact absurd rfl (ends _ rfl).2
    · rfl
  | some limit =>
    refine ⟨[.keyword .limitWord, .int limit], ?_, ?_, fun _ _ _ _ => rfl⟩
    · exact separates_word (lexes_keyword .limitWord) rfl _ _ (lexes_integerText limit)
    · intro token first
      cases first
      rfl

/-- A query is read back from its text. -/
theorem written_query {role : Role} {query : Query} {text : String}
    (rendered : ({} : Rules).queryText role query = .ok text) (plain : query.isPlain = true) :
    Written readQuery (· = .closing) text (query.effective role) := by
  simp only [Query.isPlain, Bool.and_eq_true] at plain
  obtain ⟨⟨⟨⟨named, columns⟩, forest⟩, groupBy⟩, orderBy⟩ := plain
  unfold Rules.queryText at rendered
  split at rendered
  · cases rendered
  next valid =>
  have some : query.columns ≠ [] := by
    intro empty
    rw [empty] at valid
    exact valid rfl
  cases found : (if query.filters.isEmpty then .ok "1=1"
      else ({} : Rules).conditionText query.filters) with
  | error fault =>
    simp only [found] at rendered
    cases rendered
  | ok condition =>
  simp only [found, Plan.effectiveLimit_eq] at rendered
  cases rendered
  obtain ⟨first, lexesFirst, readsFirst⟩ := @written_joined _ (fun _ => readName) Anything _ _ trivial
    separates_comma _ _ some (written_names columns)
  obtain ⟨second, lexesSecond, readsSecond⟩ := written_condition found forest
  obtain ⟨third, trailsThird, headsThird, readsThird⟩ := trailing_groupBy groupBy
  obtain ⟨fourth, trailsFourth, headsFourth, readsFourth⟩ := trailing_orderBy orderBy
  obtain ⟨fifth, trailsFifth, headsFifth, readsFifth⟩ :=
    trailing_limit (Plan.limitInForce role query.limit)
  have lexes := (((((((lexes_keyword .selectWord).separated separates_blank lexesFirst).separated
    (separates_word (lexes_keyword .fromWord) rfl) (lexes_name named)).separated
    (separates_word (lexes_keyword .whereWord) rfl) lexesSecond).append trailsThird).append
    trailsFourth).append trailsFifth)
  refine ⟨_, lexes, fun fuel enough rest ends => ?_⟩
  simp only [List.length_append, List.length_singleton, List.length_nil] at enough
  have readFifth := readsFifth fuel (by omega) rest (ends.of_token ⟨trivial, nofun⟩)
  have readFourth := readsFourth fuel (by omega) (fifth ++ rest)
    ((headsFifth.of_token ⟨⟨⟨nofun, nofun⟩, nofun⟩, nofun⟩).append
      (ends.of_token ⟨⟨⟨nofun, nofun⟩, nofun⟩, nofun⟩))
  have readThird := readsThird fuel (by omega) (fourth ++ (fifth ++ rest))
    ((headsFourth.of_token ⟨⟨trivial, nofun⟩, nofun⟩).append
      ((headsFifth.of_token ⟨⟨trivial, nofun⟩, nofun⟩).append
        (ends.of_token ⟨⟨trivial, nofun⟩, nofun⟩)))
  have readSecond := readsSecond fuel (by omega) (third ++ (fourth ++ (fifth ++ rest)))
    ((headsThird.of_token ⟨⟨trivial, nofun⟩, nofun⟩).append
      ((headsFourth.of_token ⟨⟨trivial, nofun⟩, nofun⟩).append
        ((headsFifth.of_token ⟨⟨trivial, nofun⟩, nofun⟩).append
          (ends.of_token ⟨⟨trivial, nofun⟩, nofun⟩))))
  have from_ : Heads (fun next => Anything next ∧ next ≠ .comma) (.keyword .fromWord ::
      (.name query.table :: .keyword .whereWord ::
        (second ++ (third ++ (fourth ++ (fifth ++ rest)))))) := by
    intro next head
    cases head
    exact ⟨trivial, nofun⟩
  have readFirst := readsFirst fuel (by omega) _ from_
  simp only [List.nil_append, List.cons_append, List.append_assoc, readQuery, expect, if_true, bind,
    Option.bind_some, readFirst, readName, readSecond, readThird, readFourth, readFifth]
  rfl

/-! ## Statements -/

/-- A common table is read back from its text. -/
theorem written_commonTable {table : CommonTable} {text : String}
    (rendered : ({} : Rules).queryText .common table.query = .ok text)
    (named : isName table.name = true) (plain : table.query.isPlain = true) :
    Written readCommonTable Anything (table.name ++ " AS (" ++ text ++ ")")
      table.effective := by
  obtain ⟨tokens, lexes, reads⟩ := written_query rendered plain
  have parts : table.name ++ " AS (" ++ text ++ ")" =
      table.name ++ " AS " ++ ("(" ++ text ++ ")") := by
    rw [show " AS (" = " AS " ++ "(" from rfl]
    simp only [String.append_assoc]
  rw [parts]
  refine ⟨_, (lexes_name named).separated (separates_word (lexes_keyword .asWord) rfl) lexes.enclosed,
    fun fuel enough rest _ => ?_⟩
  simp only [List.length_append, List.length_cons] at enough
  have closes : Heads (· = .closing) (.closing :: rest) := by
    intro next first
    cases first
    rfl
  have read := reads fuel (by omega) _ closes
  simp only [List.nil_append, List.cons_append, List.append_assoc, readCommonTable, readName, expect,
    if_true, bind, Option.bind_some, read]
  rfl

/-- Common tables are read back from their texts. -/
theorem written_commonTables {tables : List CommonTable} {texts : List String}
    (rendered : ({} : Rules).commonTableTexts tables = .ok texts)
    (plain : (tables.all fun table => isName table.name && table.query.isPlain) = true) :
    List.Forall₂ (Written readCommonTable Anything) texts (tables.map CommonTable.effective) := by
  induction tables generalizing texts with
  | nil =>
    cases rendered
    exact .nil
  | cons table tables ih =>
    simp only [List.all_cons, Bool.and_eq_true] at plain
    rw [Rules.commonTableTexts] at rendered
    cases first : ({} : Rules).queryText .common table.query with
    | error fault =>
      rw [first] at rendered
      cases rendered
    | ok text =>
      cases others : ({} : Rules).commonTableTexts tables with
      | error fault =>
        rw [first, others] at rendered
        cases rendered
      | ok more =>
        rw [first, others] at rendered
        cases rendered
        exact .cons (written_commonTable first plain.1.1 plain.1.2) (ih others plain.2)

/-- What is read as a query begins with the word for it. -/
theorem heads_of_readQuery {fuel : Nat} {tokens : List Token} {read : Query × List Token}
    (found : readQuery fuel tokens = some read) : Heads (· = .keyword .selectWord) tokens := by
  cases tokens with
  | nil => nofun
  | cons first rest =>
    intro token head
    cases head
    refine Classical.byContradiction fun other => ?_
    simp only [readQuery, expect, if_neg other, bind, Option.bind_none] at found
    cases found

/-- A plan is read back from its statement. -/
theorem readStatement_statementText {plan : Root} {sql : String}
    (rendered : ({} : Rules).statementText plan = .ok sql) (plain : plan.isPlain = true) :
    readStatement sql = some plan.effective := by
  obtain ⟨tables, main⟩ := plan
  simp only [Root.isPlain, Bool.and_eq_true] at plain
  cases last : ({} : Rules).queryText .main main with
  | error fault =>
    rw [Rules.statementText, last] at rendered
    cases rendered
  | ok text =>
    obtain ⟨behind, lexesMain, readsMain⟩ := written_query last plain.1
    have reads : ∀ fuel, behind.length < fuel →
        readQuery fuel behind = some (main.effective .main, []) := by
      intro fuel enough
      have read := readsMain fuel enough [] nofun
      rwa [List.append_nil] at read
    have heads := heads_of_readQuery (reads _ (Nat.lt_succ_self _))
    rw [Rules.statementText, last] at rendered
    cases tables with
    | nil =>
      cases rendered
      have none : readCommonTables (behind.length + 1) behind = some ([], behind) := by
        unfold readCommonTables
        split
        · cases heads _ rfl
        · rfl
      simp only [readStatement, lexesMain.whole, bind, Option.bind_some, none,
        reads _ (Nat.lt_succ_self _), if_true]
      rfl
    | cons table tables =>
      cases inner : ({} : Rules).commonTableTexts (table :: tables) with
      | error fault =>
        rw [inner] at rendered
        cases rendered
      | ok texts =>
        rw [inner] at rendered
        cases rendered
        have all := written_commonTables inner plain.2
        have some : texts ≠ [] := by
          rintro rfl
          cases all
        obtain ⟨tokens, lexesTables, readsTables⟩ := @written_joined _ readCommonTable Anything _ _
          trivial separates_comma _ _ some all
        have lexes := ((lexes_keyword .withWord).separated separates_blank lexesTables).separated
          separates_newline lexesMain
        have whole := lexes.whole
        simp only [List.nil_append, List.cons_append] at whole
        have enough : tokens.length < (tokens ++ behind).length + 2 := by
          rw [List.length_append]
          omega
        have read := readsTables _ enough behind (heads.of_token ⟨trivial, nofun⟩)
        have readMain := reads ((tokens ++ behind).length + 2) (by
          rw [List.length_append]
          omega)
        change readStatement (Keyword.withWord.word ++ " " ++ Text.joined ", " texts ++ "\n" ++ text) = _
        simp only [readStatement, whole, bind, Option.bind_some, List.length_cons, readCommonTables,
          read, readMain, if_true]
        rfl

/-- The statement of a plan with plain names and finite doubles is read back as the plan with the
limits in force and every group with a single part under one junction. So any two such plans with
the same statement say the same. -/
theorem statement_determines_plan {plan : Root} {sql : String}
    (rendered : ({} : Rules).statementText plan = .ok sql) (plain : plan.isPlain = true) :
    readStatement sql = some plan.effective ∧
      ∀ other : Root, ({} : Rules).statementText other = .ok sql → other.isPlain = true →
        other.effective = plan.effective := by
  have reads := readStatement_statementText rendered plain
  refine ⟨reads, fun other same plainOther => ?_⟩
  have readsOther := readStatement_statementText same plainOther
  rw [reads] at readsOther
  exact (Option.some.inj readsOther).symm

/-- A plan with a common table, groups within groups, a range next to other conditions, quotes and
keywords within a text, and numbers of both kinds. -/
def busyPlan : Root where
  commonTables := [⟨"recent", {
    table := "events"
    columns := ["repo.name", "size"]
    filters := [.leaf "day" "BETWEEN" (.list [.variable "since", .scalar (.text "it's AND OR (")])]
    groupBy := ["repo.name"]
    orderBy := []
    limit := some 0 }⟩]
  main := {
    table := "recent"
    columns := ["size"]
    filters := [.group .or [.group .or [.leaf "size" ">=" (.scalar (.int (-3)))],
      .leaf "ratio" "IN" (.list [.scalar (.float (.finite true 4609434218613702656)), .scalar .null])],
      .leaf "open" "=" (.scalar (.bool true))]
    groupBy := []
    orderBy := [⟨"size", some .descending⟩, ⟨"day", none⟩]
    limit := some 500 }

/-- The busy plan is read back from its statement. -/
theorem statement_determines_busyPlan : ∃ sql,
    ({} : Rules).statementText busyPlan = .ok sql ∧ busyPlan.isPlain = true ∧
      readStatement sql = some busyPlan.effective := by
  have rendered : (({} : Rules).statementText busyPlan).toOption.isSome = true := by decide +kernel
  have plain : busyPlan.isPlain = true := by decide +kernel
  cases text : ({} : Rules).statementText busyPlan with
  | error fault =>
    rw [text] at rendered
    cases rendered
  | ok sql => exact ⟨sql, rfl, plain, (statement_determines_plan text plain).1⟩

end QuestionDesk.Sql
