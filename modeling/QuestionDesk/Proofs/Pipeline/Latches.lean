import Mathlib.Data.List.Nodup
import QuestionDesk.Failure
import QuestionDesk.Keyed

/-!
# Latches

Tasks that work on one query share a latch: a lock, and the number of those who use it. The first
one that comes puts a latch into a table, the others find it there, and the last one that goes takes
it away. A latch that was taken away too early, or put there again, would give two tasks different
locks. That this does not happen, whoever comes, waits, fails or is cut off, is an invariant of
everything that tasks do.
-/
namespace QuestionDesk.Pipeline

/-- A latch: a lock, and how many use it. -/
structure Latch where
  /-- The lock, by its number. -/
  lock : Nat
  /-- How many wait for it or hold it. -/
  users : Int
  deriving DecidableEq, Repr

/-- A task that has come to a query. -/
structure Guest (τ : Type) where
  /-- The task. -/
  task : τ
  /-- The fingerprint of the query. -/
  hash : String
  /-- Where the latch stands that the task was given. -/
  place : Nat
  /-- Whether the task holds the lock; otherwise it waits for it. -/
  inside : Bool := false
  deriving DecidableEq, Repr

/-- A task that holds its lock if it is the given one. -/
def Guest.admitted {τ : Type} [DecidableEq τ] (task : τ) (guest : Guest τ) : Guest τ :=
  { guest with inside := guest.task = task ∨ guest.inside }

/-- The latches of all queries and the tasks that use them. -/
structure Latches (τ : Type) where
  /-- How many locks were ever made. -/
  locks : Nat := 0
  /-- The latches that were ever put into the table. They stay where they stand. -/
  all : List Latch := []
  /-- Where the latch of each query stands, by the fingerprint of the query. -/
  table : Keyed Nat := []
  /-- The locks that are held. -/
  held : List Nat := []
  /-- The tasks that have come and not gone, in the order in which they came. -/
  guests : List (Guest τ) := []
  deriving DecidableEq, Repr

namespace Latches

variable {τ : Type}

/-! ## What tasks do -/

section Steps

variable [DecidableEq τ] (latches : Latches τ)

/-- The lock at a place. -/
def lock? (place : Nat) : Option Nat := latches.all[place]?.map Latch.lock

/-- A task that has come and not gone. -/
def guest? (task : τ) : Option (Guest τ) := latches.guests.find? (·.task = task)

/-- A latch with a new lock is put into the table. -/
def install (hash : String) : Latches τ :=
  { latches with
    locks := latches.locks + 1
    all := latches.all ++ [⟨latches.locks, 0⟩]
    table := latches.table.put hash latches.all.length }

/-- The place of the latch of a query, which is put into the table if there is none. A lock is made
whether it is needed or not. -/
def setDefault (hash : String) : Nat × Latches τ :=
  match latches.table.find? hash with
  | some place => (place, { latches with locks := latches.locks + 1 })
  | none => (latches.all.length, latches.install hash)

/-- More or fewer use the latch at a place. -/
def count (place : Nat) (change : Int) : Latches τ :=
  { latches with all := latches.all.modify place fun latch =>
      { latch with users := latch.users + change } }

/-- A task is counted, and there. -/
def enroll (task : τ) (hash : String) (place : Nat) : Latches τ :=
  { latches.count place 1 with guests := latches.guests ++ [{ task, hash, place }] }

/-- A task comes to a query, is counted, and waits for the lock. -/
def enter (task : τ) (hash : String) : Latches τ :=
  match latches.guest? task with
  | some _ => latches
  | none =>
    let (place, found) := latches.setDefault hash
    found.enroll task hash place

/-- A lock is given to a task. -/
def grant (task : τ) (lock : Nat) : Latches τ :=
  { latches with held := lock :: latches.held, guests := latches.guests.map (Guest.admitted task) }

/-- A task takes the lock that it waits for, if nobody holds it. -/
def acquire (task : τ) : Latches τ :=
  match latches.guest? task with
  | none => latches
  | some guest =>
    match latches.lock? guest.place with
    | none => latches
    | some lock => if guest.inside ∨ lock ∈ latches.held then latches else latches.grant task lock

/-- A task is not counted any more, and not there any more. -/
def dismiss (guest : Guest τ) : Latches τ :=
  { latches.count guest.place (-1) with
    guests := latches.guests.filter (·.task ≠ guest.task) }

/-- The latch of a query is taken away if nobody is counted. -/
def clear (hash : String) (place : Nat) : Latches τ :=
  if latches.all[place]?.any (·.users = 0) then
    { latches with table := latches.table.without hash }
  else latches

/-- A task goes. -/
def quit (guest : Guest τ) : Latches τ := (latches.dismiss guest).clear guest.hash guest.place

/-- The lock at a place is given back. -/
def release (place : Nat) : Latches τ :=
  { latches with held := latches.held.filter fun lock => latches.lock? place ≠ some lock }

/-- A task that holds its lock gives it back and goes. -/
def leave (task : τ) : Latches τ :=
  match latches.guest? task with
  | some guest => if guest.inside then (latches.release guest.place).quit guest else latches
  | none => latches

/-- A task that waits for its lock is cut off and goes. -/
def abandon (task : τ) : Latches τ :=
  match latches.guest? task with
  | some guest => if guest.inside then latches else latches.quit guest
  | none => latches

end Steps

/-- Something that a task does. -/
inductive Step (τ : Type) where
  /-- It comes to a query. -/
  | enter (task : τ) (hash : String)
  /-- It takes the lock that it waits for. -/
  | acquire (task : τ)
  /-- It is done with what it does under the lock, fails in it, or is cut off. -/
  | leave (task : τ) (outcome : Except Failure Unit)
  /-- It is cut off while it waits. -/
  | abandon (task : τ)

/-- The latches after a step. -/
def step [DecidableEq τ] (latches : Latches τ) : Step τ → Latches τ
  | .enter task hash => latches.enter task hash
  | .acquire task => latches.acquire task
  | .leave task _ => latches.leave task
  | .abandon task => latches.abandon task

/-- The latches after some steps, of whatever tasks in whatever order. -/
def after [DecidableEq τ] (steps : List (Step τ)) : Latches τ := steps.foldl step {}

/-! ## Guests -/

/-- How many tasks have come to a query and not gone. -/
def uses (latches : Latches τ) (hash : String) : Nat := latches.guests.countP (·.hash = hash)

/-- The table, the latches and the tasks fit together. -/
structure Sound (latches : Latches τ) : Prop where
  /-- No task has come twice. -/
  tasks : (latches.guests.map Guest.task).Nodup
  /-- Every task was given the latch that is in the table. -/
  shared : ∀ guest ∈ latches.guests, latches.table.find? guest.hash = some guest.place
  /-- A latch in the table counts who uses it. -/
  counted : ∀ hash place, latches.table.find? hash = some place → ∃ latch,
    latches.all[place]? = some latch ∧ latch.users = latches.uses hash
  /-- Queries do not share latches. -/
  apart : ∀ hash other place, latches.table.find? hash = some place →
    latches.table.find? other = some place → hash = other
  /-- Only locks that were made are used. -/
  made : ∀ lock ∈ latches.all.map Latch.lock, lock < latches.locks
  /-- Latches do not share locks. -/
  distinct : (latches.all.map Latch.lock).Nodup
  /-- A lock is held exactly if a task holds it. -/
  held : ∀ lock, lock ∈ latches.held ↔
    ∃ guest ∈ latches.guests, guest.inside = true ∧ latches.lock? guest.place = some lock
  /-- A lock is held by one task. -/
  alone : ∀ guest ∈ latches.guests, ∀ other ∈ latches.guests, guest.inside = true →
    other.inside = true → guest.place = other.place → guest = other

section Lemmas

variable {latches : Latches τ} {task : τ} {guest other : Guest τ} {hash : String} {place : Nat}

/-- A query is used if a task has come to it. -/
theorem uses_pos (member : guest ∈ latches.guests) : 0 < latches.uses guest.hash :=
  List.countP_pos_iff.mpr ⟨guest, member, decide_eq_true rfl⟩

/-- Counting leaves the locks where they are. -/
theorem lock?_count (latches : Latches τ) (place : Nat) (change : Int) (other : Nat) :
    (latches.count place change).lock? other = latches.lock? other := by
  rw [lock?, lock?, count, List.getElem?_modify]
  cases latches.all[other]? with
  | none => rfl
  | some latch => split <;> rfl

/-- Counting leaves the locks as they are. -/
theorem locks_count (latches : Latches τ) (place : Nat) (change : Int) :
    (latches.count place change).all.map Latch.lock = latches.all.map Latch.lock := by
  refine List.ext_getElem? fun other => ?_
  rw [List.getElem?_map, List.getElem?_map]
  exact latches.lock?_count place change other

/-- A latch that is counted by as much as its users have changed counts them. -/
theorem Sound.counted_count (sound : latches.Sound) (found : latches.table.find? hash = some place)
    {change : Int} (users : String → Nat) (own : (users hash : Int) = latches.uses hash + change)
    (others : ∀ other, other ≠ hash → users other = latches.uses other) {other : String}
    {there : Nat} (here : latches.table.find? other = some there) :
    ∃ latch, (latches.count place change).all[there]? = some latch ∧ latch.users = users other := by
  obtain ⟨latch, stands, counts⟩ := sound.counted other there here
  rw [count, List.getElem?_modify, stands]
  by_cases same : place = there
  · subst same
    obtain rfl := sound.apart _ _ _ here found
    exact ⟨{ latch with users := latch.users + change }, by simp, by rw [own, counts]⟩
  · have apart : other ≠ hash := by
      rintro rfl
      exact same (Option.some.inj (found.symm.trans here))
    exact ⟨latch, by simp [same], by rw [counts, others other apart]⟩

/-- Latches with one lock stand at one place. -/
theorem Sound.place_eq (sound : latches.Sound) {first second lock : Nat}
    (here : latches.lock? first = some lock) (there : latches.lock? second = some lock) :
    first = second := by
  have mapped : ∀ place, (latches.all.map Latch.lock)[place]? = latches.lock? place :=
    fun place => List.getElem?_map
  have inside : first < (latches.all.map Latch.lock).length :=
    (List.getElem?_eq_some_iff.mp ((mapped first).trans here)).1
  exact (List.getElem?_inj inside sound.distinct).mp
    ((mapped first).trans (here.trans (there.symm.trans (mapped second).symm)))

/-- A latch in the table stands among those that were put there. -/
theorem Sound.place_lt (sound : latches.Sound) (found : latches.table.find? hash = some place) :
    place < latches.all.length := by
  obtain ⟨latch, here, -⟩ := sound.counted hash place found
  exact (List.getElem?_eq_some_iff.mp here).1

/-- A latch in the table stands where it stood once another one was put there. -/
theorem Sound.getElem?_install (sound : latches.Sound)
    (found : latches.table.find? hash = some place) (other : String) :
    (latches.install other).all[place]? = latches.all[place]? :=
  List.getElem?_append_left (sound.place_lt found)

/-- A latch that is in the table once another one was put there is the other one or was there. -/
theorem find?_install_eq_some {other : String} :
    (latches.install hash).table.find? other = some place ↔
      other = hash ∧ latches.all.length = place ∨
        other ≠ hash ∧ latches.table.find? other = some place := by
  rw [install, Keyed.find?_put, ite_eq_iff, Option.some_inj]

/-- A latch in the table has a lock. -/
theorem Sound.locked (sound : latches.Sound) (found : latches.table.find? hash = some place) :
    ∃ lock, latches.lock? place = some lock := by
  obtain ⟨latch, here, -⟩ := sound.counted hash place found
  exact ⟨latch.lock, by rw [lock?, here]; rfl⟩

/-- Tasks are told apart by their names. -/
theorem Sound.guest_eq (sound : latches.Sound) (member : guest ∈ latches.guests)
    (among : other ∈ latches.guests) (same : guest.task = other.task) : guest = other :=
  List.inj_on_of_nodup_map sound.tasks member among same

/-- Tasks that hold the lock of one query are one task. -/
theorem Sound.only (sound : latches.Sound) (member : guest ∈ latches.guests)
    (among : other ∈ latches.guests) (holds : guest.inside = true) (too : other.inside = true)
    (same : guest.hash = other.hash) : guest = other := by
  refine sound.alone guest member other among holds too ?_
  have here := sound.shared guest member
  rw [same, sound.shared other among] at here
  exact (Option.some.inj here).symm

/-- A task that is there is counted. -/
theorem uses_enroll (latches : Latches τ) (task : τ) (hash : String) (place : Nat)
    (other : String) : (latches.enroll task hash place).uses other =
      latches.uses other + if hash = other then 1 else 0 := by
  rw [uses, enroll, List.countP_append, List.countP_singleton]
  simp only [decide_eq_true_iff]
  rfl

variable [DecidableEq τ]

/-- A task that is found has come. -/
theorem guest?_eq_some (found : latches.guest? task = some guest) :
    guest ∈ latches.guests ∧ guest.task = task := by
  refine ⟨List.mem_of_find?_eq_some found, ?_⟩
  have holds := List.find?_some found
  exact of_decide_eq_true holds

/-- A task that is not found has not come. -/
theorem guest?_eq_none (free : latches.guest? task = none) (member : guest ∈ latches.guests) :
    guest.task ≠ task := by
  have other := List.find?_eq_none.mp free guest member
  rwa [decide_eq_true_iff] at other

/-- As many tasks have come to a query when one of them is given its lock. -/
theorem uses_grant (latches : Latches τ) (task : τ) (lock : Nat) (hash : String) :
    (latches.grant task lock).uses hash = latches.uses hash := by
  rw [uses, grant, List.countP_map]
  rfl

/-- Without one task, the others are left, in their order. -/
theorem Sound.parted (sound : latches.Sound) (member : guest ∈ latches.guests) :
    ∃ before after, latches.guests = before ++ guest :: after ∧
      latches.guests.filter (·.task ≠ guest.task) = before ++ after := by
  obtain ⟨before, after, whole⟩ := List.append_of_mem member
  refine ⟨before, after, whole, ?_⟩
  have tasks := sound.tasks
  rw [whole, List.map_append, List.map_cons, List.nodup_middle, List.nodup_cons,
    ← List.map_append] at tasks
  have others : ∀ other ∈ before ++ after, other.task ≠ guest.task :=
    fun other among same => tasks.1 (same ▸ List.mem_map_of_mem among)
  rw [whole, List.filter_append, List.filter_cons_of_neg (by simp), ← List.filter_append]
  exact List.filter_eq_self.mpr fun other among => decide_eq_true (others other among)

/-- A task that is dismissed is counted no more. -/
theorem Sound.uses_dismiss (sound : latches.Sound) (member : guest ∈ latches.guests)
    (hash : String) : (latches.dismiss guest).uses hash + (if guest.hash = hash then 1 else 0) =
      latches.uses hash := by
  obtain ⟨before, after, whole, left⟩ := sound.parted member
  rw [uses, dismiss, left, uses, whole, List.countP_append, List.countP_append, List.countP_cons]
  simp only [decide_eq_true_iff]
  omega

end Lemmas

/-! ## The invariant -/

section Invariant

variable {latches : Latches τ} {task : τ} {guest : Guest τ} {hash : String} {place : Nat}

/-- At first nobody has come. -/
theorem sound_empty : ({} : Latches τ).Sound where
  tasks := List.nodup_nil
  shared := nofun
  counted := nofun
  apart := nofun
  made := nofun
  distinct := List.nodup_nil
  held := by simp
  alone := nofun

/-- A new latch counts nobody, and fits if nobody has come to its query. -/
theorem Sound.install (sound : latches.Sound) (free : latches.table.find? hash = none) :
    (latches.install hash).Sound where
  tasks := sound.tasks
  shared guest member := by
    have found := sound.shared guest member
    refine find?_install_eq_some.mpr (Or.inr ⟨?_, found⟩)
    intro same
    cases free.symm.trans (same ▸ found)
  counted other place here := by
    rcases find?_install_eq_some.mp here with ⟨rfl, rfl⟩ | ⟨-, old⟩
    · refine ⟨⟨latches.locks, 0⟩, List.getElem?_concat_length, ?_⟩
      have nobody : latches.uses other = 0 := by
        refine List.countP_eq_zero.mpr fun guest member own => ?_
        rw [← of_decide_eq_true own, sound.shared guest member] at free
        cases free
      exact (congrArg Int.ofNat nobody).symm
    · obtain ⟨latch, there, users⟩ := sound.counted other place old
      exact ⟨latch, (sound.getElem?_install old hash).trans there, users⟩
  apart first second place here there := by
    rcases find?_install_eq_some.mp here with ⟨rfl, rfl⟩ | ⟨-, old⟩ <;>
      rcases find?_install_eq_some.mp there with ⟨rfl, too⟩ | ⟨-, before⟩
    · rfl
    · exact absurd (sound.place_lt before) (Nat.lt_irrefl _)
    · exact absurd (too ▸ sound.place_lt old) (Nat.lt_irrefl _)
    · exact sound.apart first second place old before
  made lock member := by
    rw [Latches.install, List.map_append] at member
    rcases List.mem_append.mp member with old | new
    · exact Nat.lt_succ_of_lt (sound.made lock old)
    · rw [List.mem_singleton.mp new]
      exact Nat.lt_succ_self _
  distinct := by
    rw [Latches.install, List.map_append]
    refine List.Nodup.append sound.distinct (List.nodup_singleton _) ?_
    intro lock old new
    exact Nat.ne_of_lt (sound.made lock old) (List.mem_singleton.mp new)
  held lock := by
    refine (sound.held lock).trans (exists_congr fun guest => and_congr_right fun member => ?_)
    rw [lock?, lock?, sound.getElem?_install (sound.shared guest member)]
  alone := sound.alone

/-- The table, the latches and the tasks still fit together once the latch of a query is in the
table. -/
theorem Sound.setDefault (sound : latches.Sound) (hash : String) :
    (latches.setDefault hash).2.Sound := by
  unfold Latches.setDefault
  split
  · exact { sound with made := fun lock member => Nat.lt_succ_of_lt (sound.made lock member) }
  · next free => exact sound.install free

/-- What is found in the table is the latch of the query. -/
theorem find?_setDefault (latches : Latches τ) (hash : String) :
    (latches.setDefault hash).2.table.find? hash = some (latches.setDefault hash).1 := by
  unfold Latches.setDefault
  split
  · next found => exact found
  · exact Keyed.find?_put_self _ _ _

/-- Putting the latch of a query into the table makes no difference to other queries. -/
theorem find?_setDefault_ne (latches : Latches τ) {hash other : String} (apart : other ≠ hash) :
    (latches.setDefault hash).2.table.find? other = latches.table.find? other := by
  unfold Latches.setDefault
  split
  · rfl
  · exact Keyed.find?_put_ne _ _ apart

/-- Putting the latch of a query into the table makes no difference to the tasks. -/
theorem guests_setDefault (latches : Latches τ) (hash : String) :
    (latches.setDefault hash).2.guests = latches.guests := by
  unfold Latches.setDefault
  split <;> rfl

/-- Whoever holds a lock when a task comes has come before. -/
theorem mem_of_enroll (member : guest ∈ (latches.enroll task hash place).guests)
    (holds : guest.inside = true) : guest ∈ latches.guests := by
  rcases List.mem_append.mp member with before | now
  · exact before
  · cases List.mem_singleton.mp now
    cases holds

/-- A task that comes and is counted fits to the others. -/
theorem Sound.enroll (sound : latches.Sound) (found : latches.table.find? hash = some place)
    (free : ∀ guest ∈ latches.guests, guest.task ≠ task) :
    (latches.enroll task hash place).Sound where
  tasks := by
    rw [Latches.enroll, List.map_append]
    refine List.Nodup.append sound.tasks (List.nodup_singleton _) ?_
    intro other before now
    obtain ⟨guest, member, rfl⟩ := List.mem_map.mp before
    exact free guest member (List.mem_singleton.mp now)
  shared guest member := by
    rcases List.mem_append.mp member with before | now
    · exact sound.shared guest before
    · rw [List.mem_singleton.mp now]
      exact found
  counted other there here := by
    have uses := latches.uses_enroll task hash place
    refine sound.counted_count found _ ?_ (fun other apart => ?_) here
    · rw [uses, if_pos rfl]
      rfl
    · rw [uses, if_neg apart.symm, Nat.add_zero]
  apart := sound.apart
  made := (latches.locks_count place 1).symm ▸ sound.made
  distinct := (latches.locks_count place 1).symm ▸ sound.distinct
  held lock := by
    refine (sound.held lock).trans ⟨?_, ?_⟩
    · rintro ⟨guest, member, holds, locked⟩
      exact ⟨guest, List.mem_append_left _ member, holds,
        (latches.lock?_count place 1 guest.place).trans locked⟩
    · rintro ⟨guest, member, holds, locked⟩
      exact ⟨guest, mem_of_enroll member holds, holds,
        (latches.lock?_count place 1 guest.place).symm.trans locked⟩
  alone guest member other among holds too :=
    sound.alone guest (mem_of_enroll member holds) other (mem_of_enroll among too) holds too

/-- The latch of a query is taken away exactly if nobody uses it. -/
theorem Sound.clear_eq (sound : latches.Sound) (found : latches.table.find? hash = some place) :
    latches.clear hash place = if latches.uses hash = 0 then
      { latches with table := latches.table.without hash } else latches := by
  obtain ⟨latch, stands, users⟩ := sound.counted hash place found
  by_cases nobody : latches.uses hash = 0
  · simp [Latches.clear, stands, users, nobody]
  · simp [Latches.clear, stands, users, nobody]

/-- A latch that nobody uses may be taken away. -/
theorem Sound.clear (sound : latches.Sound) (unused : latches.uses hash = 0) :
    ({ latches with table := latches.table.without hash } : Latches τ).Sound := by
  have kept : ∀ {other place}, (latches.table.without hash).find? other = some place →
      latches.table.find? other = some place := by
    intro other place here
    rw [Keyed.find?_without, Option.ite_none_left_eq_some] at here
    exact here.2
  exact { sound with
    shared := by
      intro guest member
      rw [Keyed.find?_without_ne]
      · exact sound.shared guest member
      · rintro rfl
        exact absurd unused (Nat.ne_of_gt (uses_pos member))
    counted := fun other place here => sound.counted other place (kept here)
    apart := fun first second place here there =>
      sound.apart first second place (kept here) (kept there) }

variable [DecidableEq τ]

/-- Who holds a lock once a task is given one is the task, or has held it before. -/
theorem Sound.admitted_inside (sound : latches.Sound) (member : guest ∈ latches.guests)
    {other : Guest τ} (among : other ∈ latches.guests) :
    (other.admitted guest.task).inside = true ↔ other = guest ∨ other.inside = true := by
  refine decide_eq_true_iff.trans (or_congr_left ⟨sound.guest_eq among member, ?_⟩)
  rintro rfl
  rfl

/-- A task that is given a lock that nobody holds fits to the others. -/
theorem Sound.grant (sound : latches.Sound) (member : guest ∈ latches.guests) {lock : Nat}
    (locked : latches.lock? guest.place = some lock) (free : lock ∉ latches.held) :
    (latches.grant guest.task lock).Sound where
  tasks := by
    rw [Latches.grant, List.map_map]
    exact sound.tasks
  shared other among := by
    obtain ⟨old, inside, rfl⟩ := List.mem_map.mp among
    exact sound.shared old inside
  counted hash place here := by
    obtain ⟨latch, stands, users⟩ := sound.counted hash place here
    exact ⟨latch, stands, by rw [users, uses_grant]⟩
  apart := sound.apart
  made := sound.made
  distinct := sound.distinct
  held other := by
    have holder {old : Guest τ} (among : old ∈ latches.guests) :=
      sound.admitted_inside member among
    constructor
    · intro held
      rcases List.mem_cons.mp held with rfl | before
      · exact ⟨_, List.mem_map_of_mem member, (holder member).mpr (Or.inl rfl), locked⟩
      · obtain ⟨old, among, holds, stands⟩ := (sound.held other).mp before
        exact ⟨_, List.mem_map_of_mem among, (holder among).mpr (Or.inr holds), stands⟩
    · rintro ⟨_, among, holds, stands⟩
      obtain ⟨old, inside, rfl⟩ := List.mem_map.mp among
      rcases (holder inside).mp holds with rfl | before
      · cases locked.symm.trans stands
        exact List.mem_cons_self
      · exact List.mem_cons_of_mem _ ((sound.held other).mpr ⟨old, inside, before, stands⟩)
  alone one here other there holds too same := by
    -- Whoever was inside holds another lock.
    have elsewhere : ∀ other ∈ latches.guests, other.inside = true →
        other.place ≠ guest.place := by
      intro other among holds same
      exact free ((sound.held lock).mpr ⟨other, among, holds, same ▸ locked⟩)
    obtain ⟨first, inside, rfl⟩ := List.mem_map.mp here
    obtain ⟨second, within, rfl⟩ := List.mem_map.mp there
    refine congrArg (Guest.admitted guest.task) ?_
    rcases (sound.admitted_inside member inside).mp holds with rfl | before <;>
      rcases (sound.admitted_inside member within).mp too with rfl | earlier
    · rfl
    · exact absurd same.symm (elsewhere second within earlier)
    · exact absurd same (elsewhere first inside before)
    · exact sound.alone first inside second within before earlier same

/-- Whoever is there after a task was dismissed is another one that was there before. -/
theorem mem_dismiss {other : Guest τ} : other ∈ (latches.dismiss guest).guests ↔
    other ∈ latches.guests ∧ other.task ≠ guest.task := by
  rw [dismiss, List.mem_filter, decide_eq_true_iff]

/-- A task that goes once its lock is given back leaves the others fit. -/
theorem Sound.dismiss (sound : latches.Sound) (member : guest ∈ latches.guests) {held : List Nat}
    (frees : ∀ lock, lock ∈ held ↔ lock ∈ latches.held ∧
      ¬(guest.inside = true ∧ latches.lock? guest.place = some lock)) :
    (({ latches with held } : Latches τ).dismiss guest).Sound where
  tasks := sound.tasks.sublist (List.filter_sublist.map _)
  shared other among := sound.shared other (mem_dismiss.mp among).1
  counted other there here := by
    have uses := sound.uses_dismiss member
    refine sound.counted_count (sound.shared guest member) (latches.dismiss guest).uses ?_
      (fun other apart => ?_) here
    · have one := uses guest.hash
      rw [if_pos rfl] at one
      omega
    · have none := uses other
      rwa [if_neg apart.symm, Nat.add_zero] at none
  apart := sound.apart
  made := (latches.locks_count guest.place (-1)).symm ▸ sound.made
  distinct := (latches.locks_count guest.place (-1)).symm ▸ sound.distinct
  held lock := by
    refine (frees lock).trans ⟨?_, ?_⟩
    · rintro ⟨locked, kept⟩
      obtain ⟨holder, among, holds, here⟩ := (sound.held lock).mp locked
      refine ⟨holder, mem_dismiss.mpr ⟨among, fun same => kept ?_⟩, holds,
        (latches.lock?_count _ _ _).trans here⟩
      rw [← sound.guest_eq among member same]
      exact ⟨holds, here⟩
    · rintro ⟨holder, left, holds, here⟩
      obtain ⟨among, apart⟩ := mem_dismiss.mp left
      have locked := (latches.lock?_count _ _ _).symm.trans here
      refine ⟨(sound.held lock).mpr ⟨holder, among, holds, locked⟩, ?_⟩
      rintro ⟨too, same⟩
      refine apart ?_
      rw [sound.alone holder among guest member holds too (sound.place_eq locked same)]
  alone one among other member holds too same :=
    sound.alone one (mem_dismiss.mp among).1 other (mem_dismiss.mp member).1 holds too same

/-- What holds of latches at every moment. -/
structure Steady (latches : Latches τ) : Prop extends Sound latches where
  /-- Every latch in the table is used. -/
  used : ∀ hash place, latches.table.find? hash = some place → 0 < latches.uses hash

/-- A task that comes keeps what holds of latches. -/
theorem Steady.enter (steady : latches.Steady) (task : τ) (hash : String) :
    (latches.enter task hash).Steady := by
  unfold Latches.enter
  cases found : latches.guest? task with
  | some guest => exact steady
  | none =>
    have guests := latches.guests_setDefault hash
    have absent : ∀ guest ∈ (latches.setDefault hash).2.guests, guest.task ≠ task := by
      rw [guests]
      exact fun guest => guest?_eq_none found
    have sound := (steady.setDefault hash).enroll (latches.find?_setDefault hash) absent
    refine ⟨sound, fun other place here => ?_⟩
    simp only
    rw [uses_enroll]
    split
    · exact Nat.succ_pos _
    · next apart =>
      have before := (latches.find?_setDefault_ne (Ne.symm apart)).symm.trans here
      rw [uses, guests]
      exact steady.used other place before

/-- A task that takes a lock keeps what holds of latches. -/
theorem Steady.acquire (steady : latches.Steady) (task : τ) : (latches.acquire task).Steady := by
  unfold Latches.acquire
  split
  · exact steady
  · next guest found =>
    split
    · exact steady
    · next lock locked =>
      split
      · exact steady
      · next free =>
        obtain ⟨member, rfl⟩ := guest?_eq_some found
        have sound := steady.grant member locked fun held => free (Or.inr held)
        refine ⟨sound, fun hash place here => ?_⟩
        rw [uses_grant]
        exact steady.used hash place here

/-- A task that goes once its lock is given back keeps what holds of latches. -/
theorem Steady.quit (steady : latches.Steady) (member : guest ∈ latches.guests) {held : List Nat}
    (frees : ∀ lock, lock ∈ held ↔ lock ∈ latches.held ∧
      ¬(guest.inside = true ∧ latches.lock? guest.place = some lock)) :
    (({ latches with held } : Latches τ).quit guest).Steady := by
  have sound := steady.dismiss member frees
  have others : ∀ other, other ≠ guest.hash →
      (latches.dismiss guest).uses other = latches.uses other := by
    intro other apart
    have none := steady.uses_dismiss member other
    rwa [if_neg apart.symm, Nat.add_zero] at none
  rw [Latches.quit, sound.clear_eq (steady.shared guest member)]
  split
  · next nobody =>
    refine ⟨sound.clear nobody, fun other place here => ?_⟩
    obtain ⟨apart, here⟩ := Option.ite_none_left_eq_some.mp
      ((Keyed.find?_without _ _ _).symm.trans here)
    exact (others other apart).symm ▸ steady.used other place here
  · next some =>
    refine ⟨sound, fun other place here => ?_⟩
    by_cases same : other = guest.hash
    · subst same
      exact Nat.pos_of_ne_zero some
    · exact (others other same).symm ▸ steady.used other place here

/-- Every step keeps what holds of latches. -/
theorem steady_step (steady : latches.Steady) (step : Step τ) : (latches.step step).Steady := by
  cases step with
  | enter task hash => exact steady.enter task hash
  | acquire task => exact steady.acquire task
  | leave task outcome =>
    simp only [Latches.step, Latches.leave]
    split
    · next guest found =>
      split
      · next inside =>
        refine steady.quit (guest?_eq_some found).1 fun lock => ?_
        rw [List.mem_filter, decide_eq_true_iff]
        exact and_congr_right fun _ => (not_congr (and_iff_right inside)).symm
      · exact steady
    · exact steady
  | abandon task =>
    simp only [Latches.step, Latches.abandon]
    split
    · next guest found =>
      split
      · exact steady
      · next outside =>
        exact steady.quit (guest?_eq_some found).1 fun lock =>
          (and_iff_left fun held => outside held.1).symm
    · exact steady

/-- Whatever tasks have done, in whatever order, this holds of the latches. -/
theorem steady_after (steps : List (Step τ)) : (after steps).Steady := by
  suffices every : ∀ latches : Latches τ, latches.Steady → (steps.foldl step latches).Steady from
    every {} ⟨sound_empty, nofun⟩
  induction steps with
  | nil => exact fun _ steady => steady
  | cons first rest ih => exact fun latches steady => ih _ (steady_step steady first)

end Invariant

/-! ## What the table tells -/

/-- The latches guard the queries. -/
structure Guarded (latches : Latches τ) : Prop where
  /-- There is a latch for a query exactly if a task waits for its lock or holds it. -/
  present : ∀ hash, (latches.table.find? hash).isSome = true ↔
    ∃ guest ∈ latches.guests, guest.hash = hash
  /-- The latch counts the tasks that wait for its lock or hold it. -/
  counted : ∀ hash place, latches.table.find? hash = some place → ∃ latch,
    latches.all[place]? = some latch ∧ latch.users = latches.guests.countP (·.hash = hash)
  /-- All of them were given that latch, and so use one lock. -/
  shared : ∀ guest ∈ latches.guests, latches.table.find? guest.hash = some guest.place
  /-- The locks of different queries are different ones. -/
  apart : ∀ guest ∈ latches.guests, ∀ other ∈ latches.guests, ∀ lock,
    latches.lock? guest.place = some lock → latches.lock? other.place = some lock →
      guest.hash = other.hash
  /-- At most one of them holds it. -/
  alone : ∀ guest ∈ latches.guests, ∀ other ∈ latches.guests, guest.hash = other.hash →
    guest.inside = true → other.inside = true → guest = other
  /-- The table is empty when no task is there. -/
  empty : latches.guests = [] → latches.table = []

/-- Latches of which this holds guard the queries. -/
theorem Steady.guarded {latches : Latches τ} (steady : latches.Steady) : latches.Guarded where
  present hash := by
    rw [Option.isSome_iff_exists]
    constructor
    · rintro ⟨place, found⟩
      obtain ⟨guest, member, own⟩ := List.countP_pos_iff.mp (steady.used hash place found)
      exact ⟨guest, member, of_decide_eq_true own⟩
    · rintro ⟨guest, member, rfl⟩
      exact ⟨guest.place, steady.shared guest member⟩
  counted := steady.counted
  shared := steady.shared
  apart guest member other among lock here there := by
    have found := steady.shared guest member
    rw [steady.place_eq here there] at found
    exact steady.toSound.apart _ _ _ found (steady.shared other among)
  alone guest member other among same holds too := steady.only member among holds too same
  empty nobody := by
    cases table : latches.table with
    | nil => rfl
    | cons entry rest =>
      obtain ⟨hash, place⟩ := entry
      have found : latches.table.find? hash = some place := by
        rw [table, Keyed.find?, List.lookup_cons_self]
      have used := steady.used hash place found
      rw [uses, nobody] at used
      cases used

end Latches

end QuestionDesk.Pipeline
