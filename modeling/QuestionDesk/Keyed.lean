/-!
# Keyed lists

Things under names, each name at most once, in the order in which the names were first written.
-/
namespace QuestionDesk

/-- Things under names. -/
abbrev Keyed (α : Type) := List (String × α)

namespace Keyed

variable {α : Type}

/-- The thing under a name. -/
def find? (things : Keyed α) (name : String) : Option α := things.lookup name

/-- Whether there is a thing under a name. -/
def has (things : Keyed α) (name : String) : Bool := (things.find? name).isSome

/-- The things with one written under a name, in its place or at the end. -/
def put : Keyed α → String → α → Keyed α
  | [], name, thing => [(name, thing)]
  | entry :: rest, name, thing =>
    if entry.1 = name then (name, thing) :: rest else entry :: put rest name thing

/-- The things without the one under a name. -/
def without (things : Keyed α) (name : String) : Keyed α := things.filter (·.1 != name)

/-- A thing that was just written is found. -/
theorem find?_put_self (things : Keyed α) (name : String) (thing : α) :
    (things.put name thing).find? name = some thing := by
  induction things with
  | nil => simp [put, find?]
  | cons entry rest ih =>
    obtain ⟨key, held⟩ := entry
    by_cases same : key = name
    · simp [put, same, find?]
    · have different : (name == key) = false := by simpa using fun h => same h.symm
      simpa [put, same, find?, List.lookup_cons, different] using ih

/-- Writing a thing leaves what stands under every other name. -/
theorem find?_put_ne (things : Keyed α) {name other : String} (thing : α)
    (different : other ≠ name) : (things.put name thing).find? other = things.find? other := by
  induction things with
  | nil =>
    have unequal : (other == name) = false := by simpa using different
    simp [put, find?, List.lookup_cons, unequal]
  | cons entry rest ih =>
    obtain ⟨key, held⟩ := entry
    by_cases same : key = name
    · have unequal : (other == name) = false := by simpa using different
      simp [put, same, find?, List.lookup_cons, unequal]
    · simp only [put, same, if_false, find?, List.lookup_cons]
      split
      · rfl
      · exact ih

/-- What is found once a thing was written. -/
theorem find?_put (things : Keyed α) (name : String) (thing : α) (other : String) :
    (things.put name thing).find? other =
      if other = name then some thing else things.find? other := by
  split
  · next same => rw [same, find?_put_self]
  · next different => exact find?_put_ne things thing different

/-- A thing that was taken away is not found. -/
theorem find?_without_self (things : Keyed α) (name : String) :
    (things.without name).find? name = none := by
  simp only [without, find?, List.lookup_eq_none_iff, List.mem_filter, bne_iff_ne]
  exact fun _ kept same => kept.2 same.symm

/-- Taking a thing away leaves what stands under every other name. -/
theorem find?_without_ne (things : Keyed α) {name other : String} (different : other ≠ name) :
    (things.without name).find? other = things.find? other := by
  induction things with
  | nil => rfl
  | cons entry rest ih =>
    obtain ⟨key, held⟩ := entry
    by_cases same : key = name
    · subst same
      have unequal : (other == key) = false := beq_false_of_ne different
      simpa [without, find?, List.lookup_cons, unequal] using ih
    · have kept : (key != name) = true := by simpa using same
      simp only [without, kept, List.filter_cons_of_pos, find?, List.lookup_cons]
      split
      · rfl
      · exact ih

/-- What is found once a thing was taken away. -/
theorem find?_without (things : Keyed α) (name other : String) :
    (things.without name).find? other = if other = name then none else things.find? other := by
  split
  · next same => rw [same, find?_without_self]
  · next different => exact find?_without_ne things different

end Keyed

end QuestionDesk
