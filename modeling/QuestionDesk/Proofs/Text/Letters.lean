import QuestionDesk.Text.Lowercase

/-!
# Letters in lower case

A character in lower case stays as it is in lower case, wherever it stands, and is blank exactly if
the character is that it comes from. Blanks are neither cased nor passed over.
-/
namespace QuestionDesk.Text

/-! ## Tables -/

/-- No range overlaps another one. -/
def rangesApart (ranges others : List (Nat × Nat)) : Bool :=
  ranges.all fun range => others.all fun other => range.2 < other.1 || other.2 < range.1

/-- A character that lies in one of some ranges lies in none that is apart from them. -/
theorem inRanges_of_apart {ranges others : List (Nat × Nat)}
    (apart : rangesApart ranges others = true) {char : Char}
    (inside : inRanges ranges char = true) : inRanges others char = false := by
  obtain ⟨range, member, within⟩ := List.any_eq_true.mp inside
  refine List.any_eq_false.mpr fun other among => ?_
  have beside := List.all_eq_true.mp (List.all_eq_true.mp apart range member) other among
  simp only [Bool.and_eq_true, Bool.or_eq_true, decide_eq_true_eq] at within beside ⊢
  omega

namespace CaseRun

/-- The code point at the distance of a run. -/
def moved (run : CaseRun) (code : Nat) : Nat := ((code : Int) + run.shift).toNat

/-- The lower-case forms of a run lie beside another run or between its characters. -/
def misses (run other : CaseRun) : Bool :=
  run.moved run.last < other.first || other.last < run.moved run.first ||
    ((run.first == run.last || run.step % other.step == 0) &&
      (run.moved run.first - other.first) % other.step != 0)

variable {run other : CaseRun} {code : Nat}

/-- What it means that a run holds a code point. -/
theorem holds_iff : run.holds code = true ↔
    run.first ≤ code ∧ code ≤ run.last ∧ (code - run.first) % run.step = 0 := by
  simp [holds, and_assoc]

/-- A run that the lower-case forms of another one miss holds none of them. -/
theorem holds_moved (misses : run.misses other = true) (holds : run.holds code = true) :
    other.holds (run.moved code) = false := by
  obtain ⟨least, most, even⟩ := holds_iff.mp holds
  have above : run.moved run.first ≤ run.moved code := by
    unfold moved
    omega
  have below : run.moved code ≤ run.moved run.last := by
    unfold moved
    omega
  refine Bool.eq_false_iff.mpr fun held => ?_
  obtain ⟨low, high, multiple⟩ := holds_iff.mp held
  simp only [CaseRun.misses, Bool.or_eq_true, Bool.and_eq_true, decide_eq_true_eq, beq_iff_eq,
    bne_iff_ne] at misses
  rcases misses with (before | after) | ⟨alike, apart⟩
  · omega
  · omega
  · rcases alike with single | ratio
    · exact apart (by rwa [show run.first = code by omega])
    · -- Both distances are multiples of the step of the other run, so their difference is one, too.
      have beyond : run.moved run.first - other.first ≠ 0 := by
        intro none
        exact apart (by rw [none, Nat.zero_mod])
      have split : run.moved code - other.first =
          (code - run.first) + (run.moved run.first - other.first) := by
        unfold moved at beyond ⊢
        omega
      have steps : other.step ∣ code - run.first :=
        Nat.dvd_trans (Nat.dvd_of_mod_eq_zero ratio) (Nat.dvd_of_mod_eq_zero even)
      rw [split] at multiple
      exact apart (Nat.mod_eq_zero_of_dvd
        ((Nat.dvd_add_right steps).mp (Nat.dvd_of_mod_eq_zero multiple)))

end CaseRun

/-- The lower-case forms of all runs miss all runs and the capital I with a dot. -/
theorem lowerRuns_miss : (lowerRuns.all fun run =>
    (⟨0x130, 0x130, 1, 0⟩ :: lowerRuns).all fun other => run.misses other) = true := by
  decide +kernel

/-- The lower-case forms of all runs are characters. -/
theorem lowerRuns_valid : (lowerRuns.all fun run => run.moved run.last < 0xd800 ||
    (0xdfff < run.moved run.first && run.moved run.last < 0x110000)) = true := by
  decide +kernel

/-- Neither the characters of the runs nor their lower-case forms are blank. -/
theorem lowerRuns_solid :
    rangesApart blankRanges (lowerRuns.map fun run => (run.first, run.last)) = true ∧
      rangesApart blankRanges
        (lowerRuns.map fun run => (run.moved run.first, run.moved run.last)) = true := by
  decide +kernel

/-- Blanks are neither cased nor passed over. -/
theorem blankRanges_neutral : rangesApart blankRanges casedRanges = true ∧
    rangesApart blankRanges ignorableRanges = true := by
  decide +kernel

/-! ## Characters -/

/-- The code point of the character at a code point. -/
theorem toNat_ofNat {code : Nat} (valid : code < 0xd800 ∨ 0xdfff < code ∧ code < 0x110000) :
    (Char.ofNat code).toNat = code := by
  rw [Char.ofNat, dif_pos valid]
  rfl

/-- A character has no lower-case form but itself, or it lies in a run and is moved by its distance.
-/
theorem lowerChar_cases (char : Char) :
    ((∀ run ∈ lowerRuns, run.holds char.toNat = false) ∧ lowerChar char = char) ∨
      ∃ run ∈ lowerRuns, run.holds char.toNat = true ∧
        (lowerChar char).toNat = run.moved char.toNat := by
  unfold lowerChar
  cases found : lowerRuns.find? (·.holds char.toNat) with
  | none =>
    refine Or.inl ⟨fun run member => ?_, rfl⟩
    exact Bool.eq_false_iff.mpr (List.find?_eq_none.mp found run member)
  | some run =>
    have member := List.mem_of_find?_eq_some found
    have holds := List.find?_some found
    refine Or.inr ⟨run, member, holds, ?_⟩
    have valid := List.all_eq_true.mp lowerRuns_valid run member
    obtain ⟨least, most, -⟩ := CaseRun.holds_iff.mp holds
    simp only [Bool.or_eq_true, Bool.and_eq_true, decide_eq_true_eq] at valid
    unfold CaseRun.moved at valid
    refine toNat_ofNat ?_
    omega

/-- A character that stays as it is in lower case, wherever it stands. -/
structure Settled (char : Char) : Prop where
  /-- It is not the capital I with a dot. -/
  undotted : char ≠ dottedCapital
  /-- It is not the capital sigma. -/
  notSigma : char ≠ capitalSigma
  /-- It has no other form. -/
  same : lowerChar char = char

/-- Whether a character stays as it is in lower case can be told. -/
instance (char : Char) : Decidable (Settled char) :=
  decidable_of_iff (char ≠ dottedCapital ∧ char ≠ capitalSigma ∧ lowerChar char = char)
    ⟨fun ⟨undotted, notSigma, same⟩ => ⟨undotted, notSigma, same⟩,
      fun settled => ⟨settled.undotted, settled.notSigma, settled.same⟩⟩

/-- A character that lies in no run is no capital sigma. -/
theorem ne_sigma_of_holds {char : Char}
    (free : ∀ run ∈ lowerRuns, run.holds char.toNat = false) : char ≠ capitalSigma := by
  rintro rfl
  exact absurd free (by decide +kernel)

/-- The simple lower-case form of a character other than the capital I with a dot is settled. -/
theorem settled_lowerChar {char : Char} (undotted : char ≠ dottedCapital) :
    Settled (lowerChar char) := by
  rcases lowerChar_cases char with ⟨free, same⟩ | ⟨run, member, holds, moved⟩
  · rw [same]
    exact ⟨undotted, ne_sigma_of_holds free, same⟩
  · have misses := List.all_eq_true.mp (List.all_eq_true.mp lowerRuns_miss run member)
    have free : ∀ other ∈ lowerRuns, other.holds (lowerChar char).toNat = false := by
      intro other among
      rw [moved]
      exact CaseRun.holds_moved (misses other (List.mem_cons_of_mem _ among)) holds
    refine ⟨fun dotted => ?_, ne_sigma_of_holds free, ?_⟩
    · have free := CaseRun.holds_moved (misses _ List.mem_cons_self) holds
      rw [← moved, dotted] at free
      exact absurd free (by decide)
    · rcases lowerChar_cases (lowerChar char) with ⟨-, same⟩ | ⟨other, among, held, -⟩
      · exact same
      · cases (free other among).symm.trans held

/-- The forms of a capital I with a dot and of a capital sigma. -/
def specialForms : List Char := ['i', '\u0307', '\u03c2', '\u03c3']

/-- A form of a capital I with a dot or of a capital sigma is settled, and not blank. -/
theorem settled_of_special {form : Char} (special : form ∈ specialForms) :
    Settled form ∧ isBlank form = false := by
  have every : (specialForms.all fun form => decide (Settled form) && !isBlank form) = true := by
    decide +kernel
  simpa using List.all_eq_true.mp every form special

/-! ## Blanks -/

/-- A blank lies in no run. -/
theorem free_of_blank {char : Char} (blank : isBlank char = true) {run : CaseRun}
    (member : run ∈ lowerRuns) : run.holds char.toNat = false := by
  refine Bool.eq_false_iff.mpr fun holds => ?_
  obtain ⟨least, most, -⟩ := CaseRun.holds_iff.mp holds
  have beside := inRanges_of_apart lowerRuns_solid.1 blank
  refine List.any_eq_false.mp beside _ (List.mem_map_of_mem member) ?_
  simp [least, most]

/-- A blank is settled. -/
theorem settled_of_blank {char : Char} (blank : isBlank char = true) : Settled char where
  undotted := by
    rintro rfl
    exact absurd blank (by decide)
  notSigma := by
    rintro rfl
    exact absurd blank (by decide)
  same := by
    rcases lowerChar_cases char with ⟨-, same⟩ | ⟨run, member, holds, -⟩
    · exact same
    · cases (free_of_blank blank member).symm.trans holds

/-- The simple lower-case form of a character is blank exactly if the character is. -/
theorem isBlank_lowerChar (char : Char) : isBlank (lowerChar char) = isBlank char := by
  rcases lowerChar_cases char with ⟨-, same⟩ | ⟨run, member, holds, moved⟩
  · rw [same]
  · have solid : isBlank char = false := Bool.eq_false_iff.mpr fun blank => by
      cases (free_of_blank blank member).symm.trans holds
    rw [solid]
    refine Bool.eq_false_iff.mpr fun blank => ?_
    obtain ⟨least, most, -⟩ := CaseRun.holds_iff.mp holds
    have beside := inRanges_of_apart lowerRuns_solid.2 blank
    refine List.any_eq_false.mp beside _ (List.mem_map_of_mem member) ?_
    rw [moved, Bool.and_eq_true, decide_eq_true_eq, decide_eq_true_eq]
    unfold CaseRun.moved
    omega

/-- A character before which only blanks stand follows no cased letter. -/
theorem startsCased_append (chars : List Char) {blanks : List Char}
    (blank : ∀ char ∈ blanks, isBlank char = true) :
    startsCased (chars ++ blanks) = startsCased chars := by
  unfold startsCased
  induction chars with
  | nil =>
    cases blanks with
    | nil => rfl
    | cons first rest =>
      have here := blank first List.mem_cons_self
      have counts := inRanges_of_apart blankRanges_neutral.2 here
      rw [List.nil_append, List.dropWhile_cons, isIgnorable, counts]
      exact inRanges_of_apart blankRanges_neutral.1 here
  | cons char rest ih =>
    rw [List.cons_append, List.dropWhile_cons, List.dropWhile_cons]
    by_cases passed : isIgnorable char = true
    · rw [if_pos passed, if_pos passed]
      exact ih
    · rw [if_neg passed, if_neg passed]

/-! ## Characters where they stand -/

section Within

variable {before after : List Char} {char other : Char}

/-- A settled character stays as it is. -/
theorem lowerWithin_settled (settled : Settled char) (before after : List Char) :
    lowerWithin before char after = [char] := by
  rw [lowerWithin, if_neg settled.undotted, if_neg settled.notSigma, settled.same]

/-- A character becomes one or more. -/
theorem lowerWithin_ne_nil (before : List Char) (char : Char) (after : List Char) :
    lowerWithin before char after ≠ [] := by
  unfold lowerWithin
  repeat' split
  all_goals exact List.cons_ne_nil _ _

/-- What a character becomes are its simple form or one of the forms of the two special ones. -/
theorem mem_lowerWithin (member : other ∈ lowerWithin before char after) :
    char ≠ dottedCapital ∧ other = lowerChar char ∨
      (char = dottedCapital ∨ char = capitalSigma) ∧ other ∈ specialForms := by
  unfold lowerWithin at member
  split at member
  · next dotted => exact Or.inr ⟨Or.inl dotted, List.mem_of_mem_take (i := 2) member⟩
  · next undotted =>
    split at member
    · next sigma =>
      refine Or.inr ⟨Or.inr sigma, ?_⟩
      split at member <;> rw [List.mem_singleton.mp member] <;> decide
    · exact Or.inl ⟨undotted, List.mem_singleton.mp member⟩

/-- Every character becomes settled ones. -/
theorem settled_of_mem (member : other ∈ lowerWithin before char after) : Settled other := by
  rcases mem_lowerWithin member with ⟨undotted, rfl⟩ | ⟨-, form⟩
  · exact settled_lowerChar undotted
  · exact (settled_of_special form).1

/-- What a character becomes is blank exactly if the character is. -/
theorem isBlank_of_mem (member : other ∈ lowerWithin before char after) :
    isBlank other = isBlank char := by
  rcases mem_lowerWithin member with ⟨-, rfl⟩ | ⟨special, form⟩
  · exact isBlank_lowerChar char
  · have solid : isBlank char = false := by rcases special with rfl | rfl <;> decide
    rw [solid, (settled_of_special form).2]

/-- Blanks behind those that precede a character make no difference to it. -/
theorem lowerWithin_append_left {blanks : List Char}
    (blank : ∀ char ∈ blanks, isBlank char = true) :
    lowerWithin (before ++ blanks) char after = lowerWithin before char after := by
  rw [lowerWithin, lowerWithin, startsCased_append before blank]

/-- Blanks behind those that follow a character make no difference to it. -/
theorem lowerWithin_append_right {blanks : List Char}
    (blank : ∀ char ∈ blanks, isBlank char = true) :
    lowerWithin before char (after ++ blanks) = lowerWithin before char after := by
  rw [lowerWithin, lowerWithin, startsCased_append after blank]

end Within

/-! ## Sequences of characters -/

/-- Settled characters stay as they are. -/
theorem lowerAfter_settled {chars : List Char} (settled : ∀ char ∈ chars, Settled char)
    (before : List Char) : lowerAfter before chars = chars := by
  induction chars generalizing before with
  | nil => rfl
  | cons char rest ih =>
    rw [lowerAfter, lowerWithin_settled (settled char List.mem_cons_self),
      ih fun other among => settled other (List.mem_cons_of_mem _ among)]
    rfl

/-- In lower case all characters are settled. -/
theorem settled_of_mem_lowerAfter {before chars : List Char} {other : Char}
    (member : other ∈ lowerAfter before chars) : Settled other := by
  induction chars generalizing before with
  | nil => cases member
  | cons char rest ih =>
    rcases List.mem_append.mp member with here | later
    · exact settled_of_mem here
    · exact ih later

/-- A text in lower case stays as it is. -/
theorem lower_lower (text : String) : lower (lower text) = lower text := by
  rw [lower, lower, String.toList_ofList]
  exact congrArg String.ofList
    (lowerAfter_settled (fun _ member => settled_of_mem_lowerAfter member) [])

end QuestionDesk.Text
