import QuestionDesk.Json.Reader
import QuestionDesk.Json.Writer

/-!
# Quoted texts

Every character is written so that the reader of quoted texts takes exactly its written form and
goes on behind it, and so is a half that stands alone. So a text of any characters is read back from
its quoted form.
-/
namespace QuestionDesk.Json

open Text (halfMark half? isHalf isHighHalf isLowHalf standIn)

/-- The hexadecimal digit of a number, of which only the last one counts. -/
theorem hexValue?_digit (value : Nat) :
    hexValue? ("0123456789abcdef".toList.getD (value % 16) '0') = some (value % 16) := by
  have all : ∀ digit < 16, hexValue? ("0123456789abcdef".toList.getD digit '0') = some digit := by
    decide
  exact all _ (Nat.mod_lt _ (by decide))

/-- The escape of a code unit is a backslash, a letter and four digits that denote the unit. -/
theorem unitEscape_eq {unit : Nat} (small : unit < 0x10000) : ∃ a b c d,
    unitEscape unit = ['\\', 'u', a, b, c, d] ∧ hexQuad? a b c d = some unit := by
  refine ⟨_, _, _, _, rfl, ?_⟩
  simp only [hexQuad?, hexValue?_digit, bind, Option.bind, Option.some.injEq]
  omega

/-- A code unit that is not the first half of a pair pairs with nothing. -/
theorem pairedWith?_single {unit : Nat} (single : isHighHalf unit = false) (chars : List Char) :
    pairedWith? unit chars = .ok none := by
  unfold pairedWith?
  split
  · rw [single]
    rfl
  · rfl

/-- A code unit that is not the second half of a pair pairs with nothing. -/
theorem pairedWith?_escape (high : Nat) {unit : Nat} (small : unit < 0x10000)
    (single : isLowHalf unit = false) (next : Char) (rest : List Char) :
    pairedWith? high (unitEscape unit ++ next :: rest) = .ok none := by
  obtain ⟨a, b, c, d, written, reads⟩ := unitEscape_eq small
  rw [written]
  simp only [List.cons_append, List.nil_append, pairedWith?, reads, pairedUnits?, single,
    Bool.false_eq_true, and_false, if_false, ite_self]

/-- The code of a character is no half of a pair. -/
theorem single_toNat (char : Char) : isHalf char.toNat = false ∧ isHighHalf char.toNat = false ∧
    isLowHalf char.toNat = false := by
  have valid : char.toNat < 0xd800 ∨ 0xdfff < char.toNat ∧ char.toNat < 0x110000 := char.valid
  simp only [isHalf, isHighHalf, isLowHalf, Bool.and_eq_false_iff, decide_eq_false_iff_not]
  omega

/-- The escape of a code unit that pairs with nothing is read as what stands for it alone. -/
theorem readQuoted_unit (opening : Nat) {unit : Nat} (small : unit < 0x10000) {next : Char}
    {rest : List Char} (alone : pairedWith? unit (next :: rest) = .ok none) :
    readQuoted opening (unitEscape unit ++ next :: rest) =
      prepend (loneUnit unit) (readQuoted opening (next :: rest)) := by
  obtain ⟨a, b, c, d, written, reads⟩ := unitEscape_eq small
  rw [written]
  simp only [List.cons_append, List.nil_append, readQuoted, reads, alone]

/-- The escape of a character of the first plane is read as the character. -/
theorem readQuoted_small (opening : Nat) {char : Char} (small : char.toNat < 0x10000) {next : Char}
    {rest : List Char} : readQuoted opening (unitEscape char.toNat ++ next :: rest) =
      prepend [char] (readQuoted opening (next :: rest)) := by
  obtain ⟨single, high, -⟩ := single_toNat char
  rw [readQuoted_unit opening small (pairedWith?_single high _), loneUnit, single,
    if_neg Bool.false_ne_true, Char.ofNat_toNat]

/-- Two halves of a pair that denote a character are read as the character. -/
theorem readQuoted_halves (opening : Nat) {high low : Nat} {char : Char}
    (first : isHighHalf high = true) (smallHigh : high < 0x10000) (smallLow : low < 0x10000)
    (paired : pairedUnits? high low = some char) {next : Char} {rest : List Char} :
    readQuoted opening (unitEscape high ++ (unitEscape low ++ next :: rest)) =
      prepend [char] (readQuoted opening (next :: rest)) := by
  obtain ⟨a, b, c, d, front, readsHigh⟩ := unitEscape_eq smallHigh
  obtain ⟨e, f, g, h, back, readsLow⟩ := unitEscape_eq smallLow
  rw [front, back]
  simp only [List.cons_append, List.nil_append, readQuoted, readsHigh, pairedWith?, first, if_true,
    readsLow, paired, List.drop_succ_cons, List.drop_zero]

/-- The two halves of a character beyond the first plane. -/
theorem halves_of_large {char : Char} (large : 0x10000 ≤ char.toNat) :
    isHighHalf (0xd800 + (char.toNat - 0x10000) / 0x400) = true ∧
      isLowHalf (0xdc00 + (char.toNat - 0x10000) % 0x400) = true ∧
      pairedUnits? (0xd800 + (char.toNat - 0x10000) / 0x400)
        (0xdc00 + (char.toNat - 0x10000) % 0x400) = some char := by
  have most : char.toNat < 0x110000 := by
    have valid : char.toNat < 0xd800 ∨ 0xdfff < char.toNat ∧ char.toNat < 0x110000 := char.valid
    omega
  generalize offsets : char.toNat - 0x10000 = offset
  have first : isHighHalf (0xd800 + offset / 0x400) = true := by
    simp only [isHighHalf, Bool.and_eq_true, decide_eq_true_eq]
    omega
  have second : isLowHalf (0xdc00 + offset % 0x400) = true := by
    simp only [isLowHalf, Bool.and_eq_true, decide_eq_true_eq]
    omega
  have code : 0x10000 + (0xd800 + offset / 0x400 - 0xd800) * 0x400 +
      (0xdc00 + offset % 0x400 - 0xdc00) = char.toNat := by omega
  exact ⟨first, second, by rw [pairedUnits?, if_pos ⟨first, second⟩, code, Char.ofNat_toNat]⟩

/-- A half has few digits. -/
theorem small_of_half {unit : Nat} (half : isHighHalf unit = true ∨ isLowHalf unit = true) :
    unit < 0x10000 := by
  simp only [isHighHalf, isLowHalf, Bool.and_eq_true, decide_eq_true_eq] at half
  omega

/-- The escapes of the two halves of a character beyond the first plane are read as the
character. -/
theorem readQuoted_pair (opening : Nat) {char : Char} (large : 0x10000 ≤ char.toNat) {next : Char}
    {rest : List Char} : readQuoted opening
        (unitEscape (0xd800 + (char.toNat - 0x10000) / 0x400) ++
          (unitEscape (0xdc00 + (char.toNat - 0x10000) % 0x400) ++ next :: rest)) =
      prepend [char] (readQuoted opening (next :: rest)) := by
  obtain ⟨first, second, paired⟩ := halves_of_large large
  exact readQuoted_halves opening first (small_of_half (Or.inl first))
    (small_of_half (Or.inr second)) paired

/-- A printable character is read as itself. -/
theorem readQuoted_plain (opening : Nat) {char : Char} (printable : 0x20 ≤ char.toNat)
    (quote : char ≠ '"') (backslash : char ≠ '\\') (rest : List Char) :
    readQuoted opening (char :: rest) = prepend [char] (readQuoted opening rest) := by
  have visible : ¬char.toNat < 0x20 := by omega
  rw [readQuoted]
  · rw [if_neg visible]
  all_goals
    intros
    simp_all

/-- The written form of a character is read as the character. -/
theorem readQuoted_charText (opening : Nat) (char : Char) {next : Char} {rest : List Char} :
    readQuoted opening (charText char ++ next :: rest) =
      prepend [char] (readQuoted opening (next :: rest)) := by
  unfold charText
  split
  case h_8 char quote backslash _ _ _ _ _ =>
    dsimp only
    split
    · next printable =>
      exact readQuoted_plain opening printable.1 (fun same => quote same)
        (fun same => backslash same) _
    · split
      · next small => exact readQuoted_small opening small
      · next large =>
        rw [List.append_assoc]
        exact readQuoted_pair opening (by omega)
  all_goals simp [readQuoted, escaped?]

/-! ## Halves that stand alone -/

/-- Two characters that stand for a half are those that stand for it. -/
theorem standIn_of_half {first second : Char} {unit : Nat} (half : half? first second = some unit) :
    isHalf unit = true ∧ standIn unit = [first, second] := by
  unfold half? at half
  split at half
  · next stands =>
    have same : second.toNat - Text.halfShift = unit := Option.some.inj half
    rw [same] at stands
    have inside := stands.2
    have back : unit + Text.halfShift = second.toNat := by
      simp only [isHalf, Text.halfShift, Bool.and_eq_true, decide_eq_true_eq] at inside same ⊢
      omega
    exact ⟨inside, by rw [standIn, back, Char.ofNat_toNat, stands.1]⟩
  · cases half

/-- How the written form of a character begins: with no escape of a code unit, or with that of one
that is not the second half of a pair. -/
theorem charText_head (char : Char) :
    (∃ first others, charText char = first :: others ∧ first ≠ '\\') ∨
      (∃ letter others, charText char = '\\' :: letter :: others ∧ letter ≠ 'u') ∨
        ∃ unit others, charText char = unitEscape unit ++ others ∧ unit < 0x10000 ∧
          isLowHalf unit = false := by
  unfold charText
  split
  case h_8 _ backslash _ _ _ _ _ =>
    dsimp only
    split
    · exact Or.inl ⟨_, [], rfl, fun same => backslash same⟩
    · split
      · next small =>
        exact Or.inr (Or.inr ⟨_, [], (List.append_nil _).symm, small, (single_toNat _).2.2⟩)
      · next large =>
        obtain ⟨first, -, -⟩ := halves_of_large (Nat.le_of_not_lt large)
        refine Or.inr (Or.inr ⟨_, _, rfl, small_of_half (Or.inl first), ?_⟩)
        simp only [isHighHalf, isLowHalf, Bool.and_eq_true, decide_eq_true_eq,
          Bool.and_eq_false_iff, decide_eq_false_iff_not] at first ⊢
        omega
  all_goals exact Or.inr (Or.inl ⟨_, _, rfl, by decide⟩)

/-- The written form of a character is not empty. -/
theorem charText_ne_nil (char : Char) : charText char ≠ [] := by
  rcases charText_head char with ⟨first, others, written, -⟩ | ⟨letter, others, written, -⟩ |
      ⟨unit, others, written, -⟩ <;>
    rw [written] <;> exact List.cons_ne_nil _ _

/-- No code unit pairs with the beginning of the written form of a character. -/
theorem pairedWith?_charText (high : Nat) (char next : Char) (rest : List Char) :
    pairedWith? high (charText char ++ next :: rest) = .ok none := by
  rcases charText_head char with ⟨first, others, written, plain⟩ |
    ⟨letter, others, written, other⟩ | ⟨unit, others, written, small, single⟩
  · rw [written, List.cons_append, pairedWith?]
    intro _ _ _ _ _ _ begins
    exact plain (List.cons.inj begins).1
  · rw [written, List.cons_append, List.cons_append, pairedWith?]
    intro _ _ _ _ _ _ begins
    exact other (List.cons.inj (List.cons.inj begins).2).1
  · rw [written, List.append_assoc]
    cases others with
    | nil => exact pairedWith?_escape high small single next rest
    | cons more others => exact pairedWith?_escape high small single more _

/-- What stands in front of a quote goes on. -/
theorem exists_cons_append (chars : List Char) (mark : Char) (rest : List Char) :
    ∃ next others, chars ++ mark :: rest = next :: others := by
  cases chars with
  | nil => exact ⟨mark, rest, rfl⟩
  | cons next others => exact ⟨next, _, rfl⟩

/-- A first half pairs with nothing that is written for characters that do not begin with a second
half. -/
theorem pairedWith?_charsText {high : Nat} {chars : List Char}
    (apart : (isHighHalf high && startsLow chars) = false) (rest : List Char) :
    pairedWith? high (charsText chars ++ '"' :: rest) = .ok none := by
  cases first : isHighHalf high with
  | false => exact pairedWith?_single first _
  | true =>
    rw [first, Bool.true_and] at apart
    match chars, apart with
    | [], _ => rfl
    | [char], _ => exact pairedWith?_charText high char '"' rest
    | first :: second :: others, apart =>
      simp only [charsText]
      split
      · next unit half =>
        rw [startsLow, half] at apart
        split
        · rw [List.append_assoc, List.append_assoc]
          obtain ⟨next, more, goes⟩ := exists_cons_append
            (charText second ++ charsText others) '"' rest
          rw [← List.append_assoc (charText second), goes]
          exact pairedWith?_charText high first next more
        · rw [List.append_assoc]
          obtain ⟨next, more, goes⟩ := exists_cons_append (charsText others) '"' rest
          rw [goes]
          refine pairedWith?_escape high ?_ apart next more
          have inside := (standIn_of_half half).1
          simp only [isHalf, Bool.and_eq_true, decide_eq_true_eq] at inside
          omega
      · rw [List.append_assoc]
        obtain ⟨next, more, goes⟩ := exists_cons_append (charsText (second :: others)) '"' rest
        rw [goes]
        exact pairedWith?_charText high first next more

/-- A quoted text is read back from its characters. -/
theorem readQuoted_chars (opening : Nat) (chars rest : List Char) :
    readQuoted opening (charsText chars ++ '"' :: rest) = .ok (chars, rest) := by
  -- The reader looks one character beyond an escape, and the closing quote is there at least.
  have behind : ∀ (char : Char) (written : List Char) {answer : Answer (List Char)},
      readQuoted opening (written ++ '"' :: rest) = answer →
        readQuoted opening (charText char ++ (written ++ '"' :: rest)) = prepend [char] answer := by
    rintro char written _ rfl
    obtain ⟨next, others, more⟩ := exists_cons_append written '"' rest
    rw [more]
    exact readQuoted_charText opening char
  fun_induction charsText chars with
  | case1 => simp [readQuoted]
  | case2 char =>
    have reads : readQuoted opening ([] ++ '"' :: rest) = .ok ([], rest) := by simp [readQuoted]
    exact behind char [] reads
  | case3 first second others unit half high reads =>
    have inner := behind second (charsText others) reads
    rw [← List.append_assoc] at inner
    rw [List.append_assoc, List.append_assoc, ← List.append_assoc (charText second)]
    exact behind first _ inner
  | case4 first second others unit half apart reads =>
    obtain ⟨inside, stands⟩ := standIn_of_half half
    have alone := pairedWith?_charsText (Bool.not_eq_true _ ▸ apart) rest
    have small : unit < 0x10000 := by
      simp only [isHalf, Bool.and_eq_true, decide_eq_true_eq] at inside
      omega
    rw [List.append_assoc]
    obtain ⟨next, more, goes⟩ := exists_cons_append (charsText others) '"' rest
    rw [goes] at reads alone ⊢
    rw [readQuoted_unit opening small alone, reads, loneUnit, if_pos inside, stands]
    rfl
  | case5 first second others none reads =>
    rw [List.append_assoc]
    exact behind first _ reads

end QuestionDesk.Json
