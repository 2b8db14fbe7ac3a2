import QuestionDesk.Proofs.Desk.Courses
import QuestionDesk.Proofs.Desk.Sharing
import QuestionDesk.Proofs.Pipeline.Latches

/-!
# Runs that share latches

The lines in which the runs of a desk stand are what latches show to the outside: whoever stands in
the line of a query uses its latch, and whoever is past waiting holds the lock. Whatever happens to
a desk is done to the latches by the steps of tasks, so the latches guard the queries of all runs.
-/
namespace QuestionDesk

open Pipeline (Guest Latches Prepared Run Runner Turns)

/-! ## Lines -/

namespace Pipeline.Turns

/-- What is kept for a query is its line, unless nobody stands in it. -/
theorem find?_withLine (turns : Turns) (hash : String) (line : List Runner) (other : String) :
    (turns.withLine hash line).lines.find? other =
      if other = hash then (if line = [] then none else some line)
      else turns.lines.find? other := by
  cases line with
  | nil =>
    rw [if_pos rfl]
    exact Keyed.find?_without _ hash other
  | cons first rest =>
    rw [if_neg (List.cons_ne_nil _ _)]
    exact Keyed.find?_put _ hash _ other

/-- No line is kept that nobody stands in. -/
def Full (turns : Turns) : Prop := ∀ hash, turns.lines.find? hash ≠ some []

/-- No such line is kept once one was replaced. -/
theorem Full.withLine {turns : Turns} (full : turns.Full) (hash : String) (line : List Runner) :
    (turns.withLine hash line).Full := by
  intro other
  rw [find?_withLine]
  split
  · split
    · exact nofun
    · next some => exact fun same => some (Option.some.inj same)
  · exact full other

/-- A line is kept exactly if somebody stands in it. -/
theorem Full.isSome_iff {turns : Turns} (full : turns.Full) (hash : String) :
    (turns.lines.find? hash).isSome = true ↔ turns.line hash ≠ [] := by
  unfold line
  cases found : turns.lines.find? hash with
  | none => simp
  | some line => simpa using fun empty : line = [] => full hash (empty ▸ found)

end Pipeline.Turns

namespace Pipeline.Latches

variable {τ : Type} [DecidableEq τ] {latches : Latches τ} {task : τ} {guest : Guest τ}

/-! ## What tasks leave -/

/-- The tasks that use the latch of a query, in the order in which they came. -/
def line (latches : Latches τ) (hash : String) : List τ :=
  (latches.guests.filter (·.hash = hash)).map Guest.task

omit [DecidableEq τ] in
/-- Who uses a latch has come. -/
theorem mem_line {hash : String} :
    task ∈ latches.line hash ↔ ∃ guest ∈ latches.guests, guest.task = task ∧ guest.hash = hash := by
  simp only [line, List.mem_map, List.mem_filter, decide_eq_true_iff]
  constructor
  · rintro ⟨guest, ⟨member, own⟩, same⟩
    exact ⟨guest, member, same, own⟩
  · rintro ⟨guest, member, same, own⟩
    exact ⟨guest, ⟨member, own⟩, same⟩

omit [DecidableEq τ] in
/-- Those who use a latch are counted. -/
theorem length_line (hash : String) :
    (latches.line hash).length = latches.guests.countP (·.hash = hash) := by
  rw [line, List.length_map, List.countP_eq_length_filter]

/-- A task is found by its name. -/
theorem Sound.guest?_eq (sound : latches.Sound) (member : guest ∈ latches.guests) :
    latches.guest? guest.task = some guest := by
  cases found : latches.guest? guest.task with
  | none => exact absurd rfl (guest?_eq_none found member)
  | some other =>
    obtain ⟨among, same⟩ := guest?_eq_some found
    rw [sound.guest_eq among member same]

/-- A task that comes stands behind all others. -/
theorem guests_enter (free : latches.guest? task = none) (hash : String) : ∃ place : Nat,
    (latches.enter task hash).guests = latches.guests ++ [⟨task, hash, place, false⟩] := by
  refine ⟨(latches.setDefault hash).1, ?_⟩
  rw [enter, free, ← latches.guests_setDefault hash]
  rfl

/-- A task whose lock nobody holds is given it. -/
theorem guests_acquire (sound : latches.Sound) (member : guest ∈ latches.guests)
    (waits : guest.inside = false) (free : ∀ other ∈ latches.guests, other.hash = guest.hash →
      other.inside = false) :
    (latches.acquire guest.task).guests = latches.guests.map (Guest.admitted guest.task) := by
  obtain ⟨lock, locked⟩ := sound.locked (sound.shared guest member)
  have unheld : lock ∉ latches.held := by
    intro held
    obtain ⟨other, among, holds, same⟩ := (sound.held lock).mp held
    have found := sound.shared other among
    rw [sound.place_eq same locked] at found
    have apart := sound.apart _ _ _ found (sound.shared guest member)
    cases holds.symm.trans (free other among apart)
  simp [acquire, sound.guest?_eq member, locked, waits, unheld, grant]

/-- A task that goes leaves the others, whether it holds its lock or waits for it. -/
theorem guests_gone (sound : latches.Sound) (member : guest ∈ latches.guests) : ∃ step,
    (latches.step step).guests = latches.guests.filter (·.task ≠ guest.task) := by
  have left : ∀ others : Latches τ, others.guests = latches.guests →
      (others.quit guest).guests = latches.guests.filter (·.task ≠ guest.task) := by
    intro others same
    rw [quit, clear, ← same]
    split <;> rfl
  by_cases inside : guest.inside = true
  · refine ⟨.leave guest.task (.ok ()), ?_⟩
    rw [step, leave, sound.guest?_eq member]
    simp only
    rw [if_pos inside]
    exact left _ rfl
  · refine ⟨.abandon guest.task, ?_⟩
    rw [step, abandon, sound.guest?_eq member]
    simp only
    rw [if_neg inside]
    exact left _ rfl

end Pipeline.Latches

namespace Desk

/-! ## Runs -/

/-- Latches are those that the runs of a desk use. -/
structure Shows (desk : Desk) (latches : Latches Runner) : Prop where
  /-- Those who use the latch of a query are those who stand in its line. -/
  line : ∀ hash, desk.turns.line hash = latches.line hash
  /-- They carry out runs with that query, and hold the lock if they are past waiting. -/
  runs : ∀ guest ∈ latches.guests, ∃ run prepared, desk.run? guest.task = some run ∧
    run.phase.prepared? = some prepared ∧ prepared.hash = guest.hash ∧
      (guest.inside = true ↔ run.phase ≠ .queueing prepared)
  /-- No line is kept that nobody stands in. -/
  full : desk.turns.Full

section Meeting

variable {desk after : Desk} {latches : Latches Runner} {runner : Runner} {run next : Run}

/-- A run with a query is one of a task that has come to the query. -/
theorem Shows.guest (shows : desk.Shows latches) (orderly : desk.Orderly) {prepared : Prepared}
    (running : desk.run? runner = some run) (has : run.phase.prepared? = some prepared) :
    ∃ guest ∈ latches.guests, guest.task = runner ∧ guest.hash = prepared.hash ∧
      (guest.inside = true ↔ run.phase ≠ .queueing prepared) := by
  have stands := (orderly.standing runner prepared.hash).mpr ⟨run, prepared, running, has, rfl⟩
  rw [shows.line, Latches.mem_line] at stands
  obtain ⟨guest, member, rfl, own⟩ := stands
  obtain ⟨other, query, ran, had, _, inside⟩ := shows.runs guest member
  cases running.symm.trans ran
  cases has.symm.trans had
  exact ⟨guest, member, rfl, own, inside⟩

/-- Nobody has come whose run has no query. -/
theorem Shows.absent (shows : desk.Shows latches)
    (bare : ∀ run, desk.run? runner = some run → run.phase.prepared? = none) :
    ∀ guest ∈ latches.guests, guest.task ≠ runner := by
  rintro guest member rfl
  obtain ⟨run, prepared, running, has, _⟩ := shows.runs guest member
  cases (bare run running).symm.trans has

/-- What happens to runs that keep their queries, and neither begin nor end to wait, makes no
difference to the latches. -/
theorem Shows.rest (shows : desk.Shows latches) (turns : after.turns = desk.turns)
    (kept : ∀ guest ∈ latches.guests, ∀ run prepared, desk.run? guest.task = some run →
      run.phase.prepared? = some prepared → ∃ next, after.run? guest.task = some next ∧
        next.phase.prepared? = some prepared ∧
          (run.phase ≠ .queueing prepared ↔ next.phase ≠ .queueing prepared)) :
    after.Shows latches where
  line hash := by rw [turns, shows.line]
  runs guest member := by
    obtain ⟨run, prepared, running, has, own, inside⟩ := shows.runs guest member
    obtain ⟨next, goes, keeps, same⟩ := kept guest member run prepared running has
    exact ⟨next, prepared, goes, keeps, own, inside.trans same⟩
  full := by
    rw [turns]
    exact shows.full

/-- What a run without a query does makes no difference to the latches. -/
theorem Shows.beside (shows : desk.Shows latches) (turns : after.turns = desk.turns)
    (bare : ∀ run, desk.run? runner = some run → run.phase.prepared? = none)
    (others : ∀ other, other ≠ runner → after.run? other = desk.run? other) :
    after.Shows latches := by
  refine shows.rest turns fun guest member run prepared running has => ?_
  have apart := shows.absent bare guest member
  exact ⟨run, (others _ apart).trans running, has, Iff.rfl⟩

/-- A run that gets its query comes to it. -/
theorem Shows.enters (shows : desk.Shows latches) {prepared : Prepared}
    (bare : ∀ run, desk.run? runner = some run → run.phase.prepared? = none)
    (phase : next.phase = .queueing prepared)
    (runs : ∀ other, after.run? other = if other = runner then some next else desk.run? other)
    (turns : after.turns = desk.turns.enter prepared.hash runner) :
    after.Shows (latches.enter runner prepared.hash) := by
  have absent := shows.absent bare
  have free : latches.guest? runner = none :=
    List.find?_eq_none.mpr fun guest member => by simpa using absent guest member
  obtain ⟨place, guests⟩ := Latches.guests_enter free prepared.hash
  refine ⟨fun hash => ?_, fun guest member => ?_, ?_⟩
  · rw [turns, Latches.line, guests, List.filter_append, List.map_append, ← Latches.line]
    by_cases own : hash = prepared.hash
    · rw [own, Turns.line_enter, shows.line]
      simp
    · rw [Turns.enter, Turns.line_withLine_ne _ _ own, shows.line]
      simp [Ne.symm own]
  · rw [guests] at member
    rcases List.mem_append.mp member with before | now
    · obtain ⟨run, query, running, rest⟩ := shows.runs guest before
      refine ⟨run, query, ?_, rest⟩
      rw [runs, if_neg (absent guest before), running]
    · rw [List.mem_singleton.mp now]
      refine ⟨next, prepared, by rw [runs, if_pos rfl], by rw [phase]; rfl, rfl, ?_⟩
      simp [phase]
  · rw [turns]
    exact shows.full.withLine _ _

/-- A run whose turn it is takes its lock. -/
theorem Shows.takes (shows : desk.Shows latches) (orderly : desk.Orderly) (sound : latches.Sound)
    {prepared : Prepared} (running : desk.run? runner = some run)
    (phase : run.phase = .queueing prepared)
    (turn : desk.turns.hasTurn prepared.hash runner = true)
    (has : next.phase.prepared? = some prepared) (past : next.phase ≠ .queueing prepared)
    (runs : ∀ other, after.run? other = if other = runner then some next else desk.run? other)
    (turns : after.turns = desk.turns) : after.Shows (latches.acquire runner) := by
  obtain ⟨guest, member, rfl, own, inside⟩ := shows.guest orderly running (by rw [phase]; rfl)
  have waits : guest.inside = false :=
    Bool.eq_false_iff.mpr fun holds => inside.mp holds phase
  -- Whoever holds the lock has its turn, and so is this one.
  have free : ∀ other ∈ latches.guests, other.hash = guest.hash → other.inside = false := by
    intro other among same
    refine Bool.eq_false_iff.mpr fun holds => ?_
    obtain ⟨rival, query, ran, had, alike, held⟩ := shows.runs other among
    have first := orderly.first other.task rival query ran had (held.mp holds)
    rw [alike, same, own] at first
    have one := sound.guest_eq among member (hasTurn_unique first turn)
    rw [one, waits] at holds
    cases holds
  have guests := Latches.guests_acquire sound member waits free
  refine ⟨fun hash => ?_, fun other there => ?_, turns ▸ shows.full⟩
  · rw [turns, shows.line, Latches.line, Latches.line, guests, List.filter_map, List.map_map]
    rfl
  · rw [guests] at there
    obtain ⟨old, among, rfl⟩ := List.mem_map.mp there
    obtain ⟨rival, query, ran, had, alike, held⟩ := shows.runs old among
    change ∃ run prepared, after.run? old.task = some run ∧ _
    rw [runs]
    by_cases same : old.task = guest.task
    · rw [if_pos same]
      rw [same, running] at ran
      cases ran
      rw [phase] at had
      cases had
      refine ⟨next, prepared, rfl, has, alike, iff_of_true ?_ past⟩
      exact decide_eq_true (Or.inl same)
    · rw [if_neg same]
      refine ⟨rival, query, ran, had, alike, Iff.trans ?_ held⟩
      exact decide_eq_true_iff.trans (or_iff_right same)

/-- A run that ends or is cut off goes from its query. -/
theorem Shows.goes (shows : desk.Shows latches) (orderly : desk.Orderly) (sound : latches.Sound)
    (running : desk.run? runner = some run)
    (runs : ∀ other, after.run? other = if other = runner then none else desk.run? other)
    (turns : after.turns = desk.turnsWithout runner run) :
    ∃ steps : List (Latches.Step Runner), after.Shows (steps.foldl Latches.step latches) := by
  cases has : run.phase.prepared? with
  | none =>
    have bare : ∀ other, desk.run? runner = some other → other.phase.prepared? = none := by
      intro other ran
      cases running.symm.trans ran
      exact has
    refine ⟨[], shows.beside ?_ bare fun other apart => ?_⟩
    · rw [turns, turnsWithout, has]
    · rw [runs, if_neg apart]
  | some prepared =>
    obtain ⟨guest, member, rfl, -⟩ := shows.guest orderly running has
    obtain ⟨step, guests⟩ := Latches.guests_gone sound member
    refine ⟨[step], fun hash => ?_, fun other there => ?_, ?_⟩
    · rw [turns, line_turnsWithout orderly running, (orderly.single hash).erase_eq_filter,
        shows.line]
      change _ = ((latches.step step).guests.filter _).map _
      rw [guests, Latches.line, List.filter_map]
      refine congrArg (List.map Guest.task) ?_
      simp only [List.filter_filter]
      refine List.filter_congr fun other _ => ?_
      rw [Bool.eq_iff_iff]
      simp only [Function.comp_apply, Bool.and_eq_true, bne_iff_ne, decide_eq_true_iff]
      exact and_comm
    · change other ∈ (latches.step step).guests at there
      rw [guests] at there
      obtain ⟨among, apart⟩ := List.mem_filter.mp there
      obtain ⟨rival, query, ran, rest⟩ := shows.runs other among
      exact ⟨rival, query, by rw [runs, if_neg (of_decide_eq_true apart), ran], rest⟩
    · rw [turns, turnsWithout, has]
      exact shows.full.withLine _ _

/-- Whatever happens to a desk is done to the latches by steps of tasks. -/
theorem Shows.meet (shows : desk.Shows latches) (orderly : desk.Orderly) (sound : latches.Sound)
    (happening : Happening) : ∃ steps : List (Latches.Step Runner),
      (desk.meet happening).Shows (steps.foldl Latches.step latches) := by
  cases desk.shift orderly.sound happening with
  | aside runs turns =>
    exact ⟨[], shows.rest turns fun guest member run prepared running has =>
      ⟨run, (runs _).trans running, has, Iff.rfl⟩⟩
  | @started runner run phase free runs turns =>
    have bare : ∀ run, desk.run? runner = some run → run.phase.prepared? = none := by
      intro run running
      cases free.symm.trans running
    refine ⟨[], shows.beside turns bare fun other apart => ?_⟩
    rw [runs, if_neg apart]
  | ended _ running _ runs turns => exact shows.goes orderly sound running runs turns
  | cut _ running runs turns => exact shows.goes orderly sound running runs turns
  | @wentOn runner run next _ _ _ _ running passage runs turns =>
    have bare : run.phase.prepared? = none →
        ∀ run, desk.run? runner = some run → run.phase.prepared? = none := by
      intro none other ran
      cases running.symm.trans ran
      exact none
    have others : ∀ other, other ≠ runner → (desk.meet happening).run? other = desk.run? other :=
      fun other apart => by rw [runs, if_neg apart]
    rcases passage.goOn_cases with ⟨opening, planning⟩ | ⟨prepared, planning, queueing, _⟩ |
      ⟨prepared, had, has, past, turn⟩
    · refine ⟨[], shows.beside ?_ (bare (by rw [opening]; rfl)) others⟩
      rw [turns, turnsAfter, opening]
    · refine ⟨[.enter runner prepared.hash],
        shows.enters (bare (by rw [planning]; rfl)) queueing runs ?_⟩
      rw [turns, turnsAfter, planning, queueing]
    · rw [turnsAfter_of_prepared had] at turns
      by_cases waits : run.phase = .queueing prepared
      · exact ⟨[.acquire runner],
          shows.takes orderly sound running waits (turn waits) has past runs turns⟩
      · refine ⟨[], shows.rest turns fun guest member other query ran query' => ?_⟩
        by_cases own : guest.task = runner
        · rw [own] at ran ⊢
          cases running.symm.trans ran
          cases had.symm.trans query'
          exact ⟨next, by rw [runs, if_pos rfl], has, iff_of_true waits past⟩
        · exact ⟨other, (others _ own).trans ran, query', Iff.rfl⟩

end Meeting

/-- The lines of a desk are to the outside what latches are within. -/
structure Mirrors (desk : Desk) (latches : Latches Runner) : Prop extends Shows desk latches where
  /-- A line is kept for a query exactly if a latch is. -/
  present : ∀ hash, (desk.turns.lines.find? hash).isSome = (latches.table.find? hash).isSome
  /-- Every run with a query is that of a task that has come to it, and holds the lock if it is past
  waiting. -/
  guests : ∀ runner run prepared, desk.run? runner = some run →
    run.phase.prepared? = some prepared → ∃ guest ∈ latches.guests, guest.task = runner ∧
      guest.hash = prepared.hash ∧ (guest.inside = true ↔ run.phase ≠ .queueing prepared)
  /-- As many stand in a line as its latch counts. -/
  counted : ∀ hash place, latches.table.find? hash = some place → ∃ latch,
    latches.all[place]? = some latch ∧ latch.users = (desk.turns.line hash).length

/-- Latches that a desk shows are what its lines are to the outside. -/
theorem Shows.mirrors {desk : Desk} {latches : Latches Runner} (shows : desk.Shows latches)
    (orderly : desk.Orderly) (guarded : latches.Guarded) : desk.Mirrors latches where
  toShows := shows
  present hash := by
    rw [Bool.eq_iff_iff, shows.full.isSome_iff, shows.line, guarded.present]
    constructor
    · intro stands
      obtain ⟨_, member⟩ := List.exists_mem_of_ne_nil _ stands
      obtain ⟨guest, among, _, own⟩ := Latches.mem_line.mp member
      exact ⟨guest, among, own⟩
    · rintro ⟨guest, among, own⟩
      exact List.ne_nil_of_mem (Latches.mem_line.mpr ⟨guest, among, rfl, own⟩)
  guests _ _ _ running has := shows.guest orderly running has
  counted hash place found := by
    obtain ⟨latch, stands, users⟩ := guarded.counted hash place found
    exact ⟨latch, stands, by rw [users, shows.line, Latches.length_line]⟩

/-- In any order in which tasks come to queries, wait, hold locks, fail, go and are cut off, there
is a latch for a query exactly while a task is there, it counts these tasks, all of them use its
lock, and at most one holds it. Every desk is at every moment what such latches show. -/
theorem queries_are_latched :
    (∀ (τ : Type) [DecidableEq τ] (steps : List (Latches.Step τ)),
      (Latches.after steps).Guarded) ∧
    ∀ (settings : Settings) (desk : Desk), start settings = .ok desk →
      ∀ (happenings : Nat → Happening) (count : Nat), ∃ steps : List (Latches.Step Runner),
        (desk.history happenings count).Mirrors (Latches.after steps) := by
  refine ⟨fun τ _ steps => (Latches.steady_after steps).guarded,
    fun settings desk started happenings count => ?_⟩
  have orderly := orderly_start started
  suffices shown : ∃ steps : List (Latches.Step Runner),
      (desk.history happenings count).Shows (Latches.after steps) by
    obtain ⟨steps, shows⟩ := shown
    exact ⟨steps, shows.mirrors (orderly_history orderly happenings count)
      (Latches.steady_after steps).guarded⟩
  induction count with
  | zero =>
    obtain ⟨_, _, rfl⟩ := start_eq started
    exact ⟨[], fun _ => rfl, nofun, nofun⟩
  | succ count ih =>
    obtain ⟨before, shows⟩ := ih
    obtain ⟨steps, now⟩ := shows.meet (orderly_history orderly happenings count)
      (Latches.steady_after before).toSound (happenings count)
    exact ⟨before ++ steps, by rw [Latches.after, List.foldl_append]; exact now⟩

/-- A task is cut off while it holds the lock, another one waits for it, takes it, and a third one
comes. -/
def handed : List (Latches.Step Nat) :=
  [.enter 1 "a", .acquire 1, .enter 2 "a", .leave 1 (.error .cancelled), .enter 3 "a", .acquire 2,
    .acquire 3]

/-- The second and the third task use one lock, and the table is empty when both are gone. Two runs
of a desk with one query stand in the line that a latch shows. -/
theorem queries_are_latched_handed : (Latches.after handed).Guarded ∧
    (Latches.after handed).guests = [⟨2, "a", 0, true⟩, ⟨3, "a", 0, false⟩] ∧
      (Latches.after handed).all = [⟨0, 2⟩] ∧
        (Latches.after (handed ++ [.abandon 3, .leave 2 (.ok ())])).table = [] ∧
          ∃ (desk : Desk) (steps : List (Latches.Step Runner)), start pairService = .ok desk ∧
            (desk.history askedTwice 16).Mirrors (Latches.after steps) ∧
              (desk.history askedTwice 16).turns.lines.map Prod.snd =
                [[.worker 0, .worker 1]] := by
  refine ⟨queries_are_latched.1 Nat handed, by decide +kernel, by decide +kernel,
    by decide +kernel, ?_⟩
  obtain ⟨desk, started, lines⟩ := @exists_start pairService (fun desk =>
    (desk.history askedTwice 16).turns.lines.map Prod.snd = [[.worker 0, .worker 1]])
    (by decide +kernel)
  obtain ⟨steps, mirrors⟩ := queries_are_latched.2 pairService desk started askedTwice 16
  exact ⟨desk, steps, started, mirrors, of_decide_eq_true lines⟩

end Desk

end QuestionDesk
