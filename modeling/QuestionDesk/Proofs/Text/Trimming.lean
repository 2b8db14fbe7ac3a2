import Mathlib.Data.List.TakeWhile
import QuestionDesk.Fingerprint
import QuestionDesk.Proofs.Text.Letters

/-!
# Trimming

A text is what is left of it without blanks at its ends, between blanks. Lower-casing keeps this
division: a blank stays one, no letter becomes one, and blanks at the ends of a text make no
difference to the letters between them. So it does not matter which of the two is done first.
-/
namespace QuestionDesk.Text

section Ends

variable {test : Char → Bool} {front core back chars : List Char}

/-- Neither the first nor the last character satisfies a test. -/
structure Bounded (test : Char → Bool) (chars : List Char) : Prop where
  /-- The first one does not. -/
  first : ∀ char ∈ chars.head?, test char = false
  /-- The last one does not. -/
  last : ∀ char ∈ chars.getLast?, test char = false

/-- Nothing is trimmed where the first character stays. -/
theorem trimFront_eq_self (first : ∀ char ∈ chars.head?, test char = false) :
    trimFront test chars = chars := by
  cases chars with
  | nil => rfl
  | cons char rest => rw [trimFront, List.dropWhile_cons, first char rfl, if_neg nofun]

/-- Nothing is trimmed where the last character stays. -/
theorem trimBack_eq_self (last : ∀ char ∈ chars.getLast?, test char = false) :
    trimBack test chars = chars := by
  rw [trimBack, ← trimFront, trimFront_eq_self fun char member => ?_, List.reverse_reverse]
  exact last char (by rwa [List.head?_reverse] at member)

/-- Nothing is trimmed where both stay. -/
theorem Bounded.trimBoth_eq (bounded : Bounded test chars) : trimBoth test chars = chars := by
  rw [trimBoth, trimFront_eq_self bounded.first, trimBack_eq_self bounded.last]

/-- What is between characters that are trimmed is what is left. -/
theorem trimBoth_between (leading : ∀ char ∈ front, test char = true)
    (trailing : ∀ char ∈ back, test char = true) (bounded : Bounded test core) :
    trimBoth test (front ++ core ++ back) = core := by
  have behind : trimBack test (core ++ back) = core := by
    rw [trimBack, List.reverse_append,
      List.dropWhile_append_of_pos fun char member => trailing char (List.mem_reverse.mp member)]
    exact trimBack_eq_self bounded.last
  rw [trimBoth, trimFront, List.append_assoc, List.dropWhile_append_of_pos leading]
  cases core with
  | nil =>
    rw [List.nil_append, List.dropWhile_eq_nil_iff.mpr trailing]
    rfl
  | cons char rest =>
    rw [List.cons_append, List.dropWhile_cons, bounded.first char rfl, if_neg nofun]
    exact behind

/-- What is left stands behind characters that are trimmed. -/
theorem exists_front (test : Char → Bool) (chars : List Char) :
    ∃ front, (∀ char ∈ front, test char = true) ∧ chars = front ++ trimFront test chars :=
  ⟨chars.takeWhile test, fun char => List.all_eq_true.mp List.all_takeWhile char,
    List.takeWhile_append_dropWhile.symm⟩

/-- What is left stands before characters that are trimmed. -/
theorem exists_back (test : Char → Bool) (chars : List Char) :
    ∃ back, (∀ char ∈ back, test char = true) ∧ chars = trimBack test chars ++ back := by
  obtain ⟨front, trimmed, whole⟩ := exists_front test chars.reverse
  refine ⟨front.reverse, fun char member => trimmed char (List.mem_reverse.mp member), ?_⟩
  rw [trimBack, ← trimFront, ← List.reverse_append, ← whole, List.reverse_reverse]

/-- What is left stands between characters that are trimmed. -/
theorem exists_between (test : Char → Bool) (chars : List Char) : ∃ front back,
    (∀ char ∈ front, test char = true) ∧ (∀ char ∈ back, test char = true) ∧
      chars = front ++ trimBoth test chars ++ back := by
  obtain ⟨front, leading, whole⟩ := exists_front test chars
  obtain ⟨back, trailing, rest⟩ := exists_back test (trimFront test chars)
  exact ⟨front, back, leading, trailing, by rw [trimBoth, List.append_assoc, ← rest, ← whole]⟩

/-- Characters that are trimmed do not come first. -/
theorem head?_trimFront (test : Char → Bool) (chars : List Char) :
    ∀ char ∈ (trimFront test chars).head?, test char = false := by
  intro char first
  have stops := List.head?_dropWhile_not test chars
  rw [← trimFront, Option.mem_def.mp first] at stops
  exact stops

/-- What is left is bounded. -/
theorem bounded_trimBoth (test : Char → Bool) (chars : List Char) :
    Bounded test (trimBoth test chars) where
  first char first := by
    obtain ⟨back, -, rest⟩ := exists_back test (trimFront test chars)
    refine head?_trimFront test chars char ?_
    rw [rest, List.head?_append, ← trimBoth, Option.mem_def.mp first]
    rfl
  last char last := by
    refine head?_trimFront test (trimFront test chars).reverse char ?_
    rwa [trimBoth, trimBack, List.getLast?_reverse] at last

end Ends

/-! ## Blanks at the ends of a text -/

/-- Blanks at the ends of characters make no difference to what is left. -/
theorem stripChars_around {front back : List Char} (chars : List Char)
    (leading : ∀ char ∈ front, isBlank char = true)
    (trailing : ∀ char ∈ back, isBlank char = true) :
    stripChars (front ++ chars ++ back) = stripChars chars := by
  obtain ⟨before, after, blank, white, whole⟩ := exists_between isBlank chars
  have longer : front ++ chars ++ back =
      (front ++ before) ++ trimBoth isBlank chars ++ (after ++ back) := calc
    front ++ chars ++ back = front ++ (before ++ trimBoth isBlank chars ++ after) ++ back := by
      rw [← whole]
    _ = _ := by simp only [List.append_assoc]
  rw [longer]
  refine trimBoth_between ?_ ?_ (bounded_trimBoth isBlank chars)
  · exact fun char member => (List.mem_append.mp member).elim (leading char) (blank char)
  · exact fun char member => (List.mem_append.mp member).elim (white char) (trailing char)

/-- Blanks before the characters that precede others make no difference to those. -/
theorem lowerAfter_append_left (before chars : List Char) {blanks : List Char}
    (blank : ∀ char ∈ blanks, isBlank char = true) :
    lowerAfter (before ++ blanks) chars = lowerAfter before chars := by
  induction chars generalizing before with
  | nil => rfl
  | cons char rest ih =>
    rw [lowerAfter, lowerAfter, lowerWithin_append_left blank, ← List.cons_append, ih]

/-- Blanks behind characters stay, and make no difference to those. -/
theorem lowerAfter_append_right (before chars : List Char) {blanks : List Char}
    (blank : ∀ char ∈ blanks, isBlank char = true) :
    lowerAfter before (chars ++ blanks) = lowerAfter before chars ++ blanks := by
  induction chars generalizing before with
  | nil => exact lowerAfter_settled (fun char member => settled_of_blank (blank char member)) before
  | cons char rest ih =>
    rw [List.cons_append, lowerAfter, lowerAfter, lowerWithin_append_right blank, ih,
      List.append_assoc]

/-- Settled characters before others stay. -/
theorem lowerAfter_settled_append {front : List Char} (settled : ∀ char ∈ front, Settled char)
    (before chars : List Char) :
    lowerAfter before (front ++ chars) = front ++ lowerAfter (front.reverse ++ before) chars := by
  induction front generalizing before with
  | nil => rfl
  | cons char rest ih =>
    rw [List.cons_append, lowerAfter, lowerWithin_settled (settled char List.mem_cons_self),
      ih fun other among => settled other (List.mem_cons_of_mem _ among)]
    simp

/-- What the last of some characters becomes comes last. -/
theorem lowerAfter_concat (before init : List Char) (char : Char) : ∃ front,
    lowerAfter before (init ++ [char]) = front ++ lowerWithin (init.reverse ++ before) char [] := by
  induction init generalizing before with
  | nil => exact ⟨[], List.append_nil _⟩
  | cons first rest ih =>
    obtain ⟨front, parts⟩ := ih (first :: before)
    refine ⟨lowerWithin before first (rest ++ [char]) ++ front, ?_⟩
    rw [List.cons_append, lowerAfter, parts, List.reverse_cons, List.append_assoc,
      List.append_assoc]
    rfl

/-- Blanks around characters stay, and make no difference to those. -/
theorem lowerChars_around {front back : List Char} (chars : List Char)
    (leading : ∀ char ∈ front, isBlank char = true)
    (trailing : ∀ char ∈ back, isBlank char = true) :
    lowerChars (front ++ chars ++ back) = front ++ lowerChars chars ++ back := by
  have behind : ∀ char ∈ front.reverse, isBlank char = true :=
    fun char member => leading char (List.mem_reverse.mp member)
  rw [lowerChars, lowerAfter_append_right _ _ trailing,
    lowerAfter_settled_append (fun char member => settled_of_blank (leading char member)),
    List.append_nil, ← List.nil_append front.reverse, lowerAfter_append_left _ _ behind, lowerChars]

/-- What characters become is bounded where they are. -/
theorem Bounded.lowerChars {chars : List Char} (bounded : Bounded isBlank chars) :
    Bounded isBlank (lowerChars chars) where
  first := by
    cases chars with
    | nil =>
      intro other first
      cases first
    | cons char rest =>
      intro other first
      rw [Text.lowerChars, lowerAfter, List.head?_append,
        Option.or_of_isSome (List.isSome_head?.mpr (lowerWithin_ne_nil _ _ _))] at first
      rw [isBlank_of_mem (List.mem_of_mem_head? first)]
      exact bounded.first char rfl
  last := by
    rcases chars.eq_nil_or_concat with rfl | ⟨init, char, rfl⟩
    · intro other last
      cases last
    · rw [List.concat_eq_append] at bounded ⊢
      intro other last
      obtain ⟨front, parts⟩ := lowerAfter_concat [] init char
      rw [Text.lowerChars, parts, List.getLast?_append,
        List.getLast?_eq_some_getLast (lowerWithin_ne_nil _ _ _), Option.some_or,
        Option.mem_some_iff] at last
      rw [isBlank_of_mem (last ▸ List.getLast_mem (lowerWithin_ne_nil _ _ _))]
      exact bounded.last char (List.getLast?_concat)

/-- Trimming and lower-casing can be done in either order. -/
theorem stripChars_lowerChars (chars : List Char) :
    stripChars (lowerChars chars) = lowerChars (stripChars chars) := by
  obtain ⟨front, back, leading, trailing, whole⟩ := exists_between isBlank chars
  calc stripChars (lowerChars chars)
      = stripChars (lowerChars (front ++ stripChars chars ++ back)) := congrArg _ (congrArg _ whole)
    _ = stripChars (front ++ lowerChars (stripChars chars) ++ back) := by
        rw [lowerChars_around _ leading trailing]
    _ = lowerChars (stripChars chars) :=
        trimBoth_between leading trailing (bounded_trimBoth isBlank chars).lowerChars

/-! ## Texts -/

/-- Trimming and lower-casing can be done in either order. -/
theorem strip_lower (text : String) : strip (lower text) = lower (strip text) := by
  rw [strip, lower, lower, strip, String.toList_ofList, String.toList_ofList, stripChars_lowerChars]

-- The blank behind the last sigma keeps nobody from seeing that the word ends there.
example : lower (strip " ΟΔΟΣ\n") = "οδος" ∧ strip (lower " ΟΔΟΣ\n") = "οδος" := by decide +kernel

/-- A text of blanks. -/
def AllBlank (text : String) : Prop := ∀ char ∈ text.toList, isBlank char = true

/-- Blanks around a text make no difference to what is left. -/
theorem strip_around {before after : String} (leading : AllBlank before) (text : String)
    (trailing : AllBlank after) : strip (before ++ text ++ after) = strip text := by
  rw [strip, strip, String.toList_append, String.toList_append,
    stripChars_around _ leading trailing]

/-- Trimming twice is trimming once. -/
theorem strip_strip (text : String) : strip (strip text) = strip text := by
  rw [strip, strip, String.toList_ofList]
  exact congrArg String.ofList (bounded_trimBoth isBlank text.toList).trimBoth_eq

end QuestionDesk.Text

namespace QuestionDesk

/-! ## Prompts -/

/-- What becomes of a prompt before its fingerprint is taken. -/
structure Normalizes (prompt : String) : Prop where
  /-- Doing so again makes no difference. -/
  again : normalizedPrompt (normalizedPrompt prompt) = normalizedPrompt prompt
  /-- It may be put in lower case first, or trimmed first. -/
  order : Text.strip (Text.lower prompt) = Text.lower (Text.strip prompt)
  /-- Blanks around it do not count. -/
  around : ∀ before after, Text.AllBlank before → Text.AllBlank after →
    promptFingerprint (before ++ prompt ++ after) = promptFingerprint prompt

/-- A prompt that was trimmed has the same fingerprint. -/
theorem promptFingerprint_strip (prompt : String) :
    promptFingerprint (Text.strip prompt) = promptFingerprint prompt := by
  rw [promptFingerprint, promptFingerprint, normalizedPrompt, normalizedPrompt, Text.strip_strip]

/-- This becomes of every prompt. -/
theorem normalizes (prompt : String) : Normalizes prompt where
  again := by
    rw [normalizedPrompt, normalizedPrompt, Text.strip_lower, Text.lower_lower, Text.strip_strip]
  order := Text.strip_lower prompt
  around before after leading trailing := by
    rw [promptFingerprint, promptFingerprint, normalizedPrompt, normalizedPrompt,
      Text.strip_around leading prompt trailing]

end QuestionDesk
