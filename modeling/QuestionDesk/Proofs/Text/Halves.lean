import Mathlib.Data.List.Chain
import QuestionDesk.Proofs.Text.Trimming
import QuestionDesk.Text.Half

/-!
# Texts that have a UTF-8 form

A text has a UTF-8 form exactly if no two characters that follow one another in it stand for half
of a pair. Neither blanks at the ends nor capital letters stand for anything, so a prompt with a
UTF-8 form has a fingerprint.
-/
namespace QuestionDesk

namespace Text

/-- No two characters that follow one another stand for a half. -/
def Whole (chars : List Char) : Prop :=
  chars.IsChain fun first second => half? first second = none

/-- Characters have no flaw, wherever they stand, exactly if no two of them stand for a half. -/
theorem flawAfter?_eq_none_iff {position : Nat} {chars : List Char} :
    flawAfter? position chars = none ↔ Whole chars := by
  unfold Whole
  fun_induction flawAfter? position chars with
  | case1 position first second rest unit half =>
    simp only [List.isChain_cons_cons, half, reduceCtorEq, false_and]
  | case2 position first second rest none same =>
    rw [List.isChain_cons_cons, same]
    exact (and_iff_right none).symm
  | case3 chars position short =>
    match chars, short with
    | [], _ => simp
    | [_], _ => simp
    | first :: second :: rest, short => exact absurd rfl (short first second rest)

/-- A text has no flaw exactly if no two of its characters stand for a half. -/
theorem flaw?_eq_none_iff {text : String} : flaw? text = none ↔ Whole text.toList :=
  flawAfter?_eq_none_iff

/-- Where the characters that stand for halves lie. -/
def halfRanges : List (Nat × Nat) := [(0xe000, 0xe7ff), (0x10ffff, 0x10ffff)]

/-- Two characters that stand for a half lie where such characters do. -/
theorem inRanges_of_half {first second : Char} (half : half? first second ≠ none) :
    inRanges halfRanges first = true ∧ inRanges halfRanges second = true := by
  unfold half? at half
  split at half
  · next stands =>
    obtain ⟨mark, tells⟩ := stands
    have code : first.toNat = 0x10ffff := by
      rw [mark]
      rfl
    have shifted : second.toNat - halfShift = second.toNat - 0x800 := rfl
    generalize second.toNat - halfShift = unit at shifted tells
    simp only [isHalf, Bool.and_eq_true, decide_eq_true_eq] at tells
    simp only [inRanges, halfRanges, List.any_cons, List.any_nil, Bool.or_false, Bool.or_eq_true,
      Bool.and_eq_true, decide_eq_true_eq]
    omega
  · exact absurd rfl half

/-! ## Blanks and capital letters -/

/-- What is left of whole characters without blanks at the ends is whole. -/
theorem Whole.stripChars {chars : List Char} (whole : Whole chars) : Whole (stripChars chars) := by
  obtain ⟨front, back, -, -, between⟩ := exists_between isBlank chars
  exact List.IsChain.infix whole ⟨front, back, between.symm⟩

/-- Neither the characters of the runs nor their lower-case forms stand for halves. -/
theorem lowerRuns_whole :
    rangesApart halfRanges (lowerRuns.map fun run => (run.first, run.last)) = true ∧
      rangesApart halfRanges
        (lowerRuns.map fun run => (run.moved run.first, run.moved run.last)) = true := by
  decide +kernel

/-- What becomes of a character in lower case stands for a half only if it is the character. -/
theorem eq_of_mem_lowerWithin {before after : List Char} {char other : Char}
    (member : other ∈ lowerWithin before char after) (stands : inRanges halfRanges other = true) :
    other = char := by
  rcases mem_lowerWithin member with ⟨-, rfl⟩ | ⟨-, special⟩
  · rcases lowerChar_cases char with ⟨-, same⟩ | ⟨run, among, holds, moved⟩
    · exact same
    · -- The form of a run lies in the range of the forms, which is apart from those of halves.
      have apart := inRanges_of_apart lowerRuns_whole.2 stands
      have within := List.any_eq_false.mp apart _ (List.mem_map_of_mem among)
      obtain ⟨least, most, -⟩ := CaseRun.holds_iff.mp holds
      simp only [Bool.and_eq_true, decide_eq_true_eq, moved] at within
      unfold CaseRun.moved at within
      omega
  · have every : (specialForms.all fun form => !inRanges halfRanges form) = true := by
      decide +kernel
    have away := List.all_eq_true.mp every other special
    simp [stands] at away

/-- The first of some characters in lower case comes from the first of them. -/
theorem of_head?_lowerAfter {before chars : List Char} {first : Char}
    (head : first ∈ (lowerAfter before chars).head?) : ∃ char rest, chars = char :: rest ∧
      first ∈ lowerWithin before char rest := by
  cases chars with
  | nil => cases head
  | cons char rest =>
    refine ⟨char, rest, rfl, ?_⟩
    rw [lowerAfter, List.head?_append_of_ne_nil _ (lowerWithin_ne_nil before char rest)] at head
    exact List.mem_of_mem_head? head

/-- Whole characters are whole in lower case. -/
theorem Whole.lowerAfter {chars : List Char} (whole : Whole chars) (before : List Char) :
    Whole (lowerAfter before chars) := by
  induction chars generalizing before with
  | nil => exact List.IsChain.nil
  | cons char rest ih =>
    obtain ⟨joint, later⟩ := List.isChain_cons.mp whole
    refine List.IsChain.append ?_ (ih later (char :: before)) fun last ends first starts => ?_
    · unfold lowerWithin
      repeat' split
      · exact List.isChain_pair.mpr (by decide)
      all_goals exact List.IsChain.singleton _
    · -- Two that stand for a half come from two characters that follow one another and do so, too.
      obtain ⟨next, behind, rfl, from_⟩ := of_head?_lowerAfter starts
      by_contra half
      obtain ⟨tellsLast, tellsFirst⟩ := inRanges_of_half half
      rw [eq_of_mem_lowerWithin (List.mem_of_mem_getLast? ends) tellsLast,
        eq_of_mem_lowerWithin from_ tellsFirst] at half
      exact half (joint next rfl)

end Text

/-- A normalised prompt has a UTF-8 form if the prompt has one. -/
theorem flaw?_normalizedPrompt {prompt : String} (whole : Text.flaw? prompt = none) :
    Text.flaw? (normalizedPrompt prompt) = none := by
  rw [Text.flaw?_eq_none_iff] at whole ⊢
  rw [normalizedPrompt, Text.lower, Text.strip, String.toList_ofList, String.toList_ofList]
  exact whole.stripChars.lowerAfter []

/-- A prompt with a UTF-8 form has a fingerprint. -/
theorem promptKey_eq_ok {prompt : String} (whole : Text.flaw? prompt = none) :
    promptKey prompt = .ok (promptFingerprint prompt) := by
  rw [promptKey, flaw?_normalizedPrompt whole]

end QuestionDesk
