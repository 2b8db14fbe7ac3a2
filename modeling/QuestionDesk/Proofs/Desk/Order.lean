import QuestionDesk.Proofs.Desk.History

/-!
# Runs take turns

Runs with the same query stand in one line, each once, and only the first of them is past waiting.
So no two runs look up, run or remember one query at the same time, however the lines come and go.
-/
namespace QuestionDesk.Desk

open Pipeline (Next Phase Prepared Run Runner Turns)

/-- The lines of a desk are those of its runs. -/
structure Orderly (desk : Desk) : Prop where
  /-- The board is sound. -/
  sound : desk.board.Sound
  /-- Nobody stands in a line twice. -/
  single : ∀ hash, (desk.turns.line hash).Nodup
  /-- The runs that have a query stand in the line of that query, and nobody else does. -/
  standing : ∀ runner hash, runner ∈ desk.turns.line hash ↔ ∃ run prepared,
    desk.run? runner = some run ∧ run.phase.prepared? = some prepared ∧ prepared.hash = hash
  /-- A run that is past waiting is first in its line. -/
  first : ∀ runner run prepared, desk.run? runner = some run →
    run.phase.prepared? = some prepared → run.phase ≠ .queueing prepared →
      desk.turns.hasTurn prepared.hash runner = true
  /-- A query has the fingerprint of its text. -/
  hashed : ∀ runner run prepared, desk.run? runner = some run →
    run.phase.prepared? = some prepared → prepared.hash = queryFingerprint prepared.sql

/-- Whose turn it is, is first in the line. -/
theorem hasTurn_iff {turns : Turns} {hash : String} {runner : Runner} :
    turns.hasTurn hash runner = true ↔ (turns.line hash).head? = some runner := by
  simp [Turns.hasTurn]

/-- Two runners cannot both have their turn in one line. -/
theorem hasTurn_unique {turns : Turns} {hash : String} {left right : Runner}
    (first : turns.hasTurn hash left = true) (second : turns.hasTurn hash right = true) :
    left = right := by
  rw [hasTurn_iff] at first second
  rw [first] at second
  exact Option.some.inj second

/-- A run that goes on looks at its job, gets its query, or keeps its query and is past waiting. -/
theorem Passage.goOn_cases {desk between : Desk} {runner : Runner} {run next : Run}
    {response : Remote.Response} {notes : Fields}
    (passage : desk.Passage runner run response (.goOn next notes) between) :
    (run.phase = .opening ∧ next.phase = .planning) ∨
    (∃ prepared, run.phase = .planning ∧ next.phase = .queueing prepared ∧
      prepared.hash = queryFingerprint prepared.sql) ∨
    ∃ prepared, run.phase.prepared? = some prepared ∧ next.phase.prepared? = some prepared ∧
      next.phase ≠ .queueing prepared ∧
        (run.phase = .queueing prepared → desk.turns.hasTurn prepared.hash runner = true) := by
  cases passage with
  | opened phase => exact Or.inl ⟨phase, rfl⟩
  | planned phase => exact Or.inr (Or.inl ⟨_, phase, rfl, rfl⟩)
  | admitted phase turn =>
    exact Or.inr (Or.inr ⟨_, by rw [phase]; rfl, rfl, by simp, fun _ => turn⟩)
  | unknown phase | recognised phase | duplicated phase | removed phase | saved phase
  | executed phase | charted phase =>
    exact Or.inr (Or.inr ⟨_, by rw [phase]; rfl, rfl, by simp, by rw [phase]; simp⟩)

/-- A run that has its query already stays where it stands. -/
theorem turnsAfter_of_prepared {desk : Desk} {runner : Runner} {run next : Run}
    {prepared : Prepared} (has : run.phase.prepared? = some prepared) :
    desk.turnsAfter runner run next = desk.turns := by
  unfold turnsAfter
  split
  · next planning _ => simp [planning, Phase.prepared?] at has
  · rfl

/-- The line of a query after a runner has left whichever line it stood in. -/
theorem line_turnsWithout {desk : Desk} (orderly : desk.Orderly) {runner : Runner} {run : Run}
    (running : desk.run? runner = some run) (hash : String) :
    (desk.turnsWithout runner run).line hash = (desk.turns.line hash).erase runner := by
  have absent : (∀ prepared, run.phase.prepared? = some prepared → prepared.hash ≠ hash) →
      (desk.turns.line hash).erase runner = desk.turns.line hash := by
    intro other
    apply List.erase_of_not_mem
    intro stands
    obtain ⟨found, prepared, same, has, here⟩ := (orderly.standing runner hash).mp stands
    rw [running] at same
    cases same
    exact other prepared has here
  unfold turnsWithout
  split
  · next prepared has =>
    by_cases here : hash = prepared.hash
    · rw [here]
      exact Turns.line_leave _ _ _
    · rw [absent fun other has' same => ?_]
      · exact Turns.line_withLine_ne _ _ here
      · rw [has] at has'
        cases has'
        exact here same.symm
  · next none =>
    rw [absent fun other has => ?_]
    rw [none] at has
    cases has

/-- Who is first in a line stays first when somebody else leaves it. -/
theorem head?_erase {line : List Runner} {first other : Runner}
    (head : line.head? = some first) (different : first ≠ other) :
    (line.erase other).head? = some first := by
  cases line with
  | nil => cases head
  | cons front rest =>
    cases head
    have apart : (first == other) = false := beq_false_of_ne different
    rw [List.erase_cons, apart]
    rfl

/-- A run that ends leaves the lines those of the runs that are left. -/
theorem Orderly.without {desk after : Desk} (orderly : desk.Orderly) {runner : Runner} {run : Run}
    (running : desk.run? runner = some run) (sound : after.board.Sound)
    (runs : ∀ other, after.run? other = if other = runner then none else desk.run? other)
    (turns : after.turns = desk.turnsWithout runner run) : after.Orderly := by
  have line : ∀ hash, after.turns.line hash = (desk.turns.line hash).erase runner := by
    intro hash
    rw [turns]
    exact line_turnsWithout orderly running hash
  have kept : ∀ other found, after.run? other = some found →
      other ≠ runner ∧ desk.run? other = some found := by
    intro other found still
    rw [runs] at still
    split at still
    · cases still
    · next different => exact ⟨different, still⟩
  refine ⟨sound, fun hash => ?_, fun other hash => ?_, ?_, ?_⟩
  · rw [line]
    exact (orderly.single hash).erase runner
  · rw [line, (orderly.single hash).mem_erase_iff, orderly.standing, runs]
    constructor
    · rintro ⟨different, found⟩
      rw [if_neg different]
      exact found
    · rintro ⟨found, prepared, still, rest⟩
      split at still
      · cases still
      · next different => exact ⟨different, found, prepared, still, rest⟩
  · intro other found prepared still has past
    obtain ⟨different, before⟩ := kept other found still
    rw [hasTurn_iff, line]
    exact head?_erase (hasTurn_iff.mp (orderly.first other found prepared before has past)) different
  · intro other found prepared still has
    exact orderly.hashed other found prepared (kept other found still).2 has

/-- A run that goes on with the query that it has, or without one, leaves the lines as they are. -/
theorem Orderly.going {desk after : Desk} (orderly : desk.Orderly) {runner : Runner} {next : Run}
    (sound : after.board.Sound)
    (runs : ∀ other, after.run? other = if other = runner then some next else desk.run? other)
    (turns : after.turns = desk.turns)
    (same : ∀ prepared, next.phase.prepared? = some prepared ↔
      ∃ run, desk.run? runner = some run ∧ run.phase.prepared? = some prepared)
    (first : ∀ prepared, next.phase.prepared? = some prepared → next.phase ≠ .queueing prepared →
      desk.turns.hasTurn prepared.hash runner = true) : after.Orderly := by
  refine ⟨sound, fun hash => ?_, fun other hash => ?_, ?_, ?_⟩
  · rw [turns]
    exact orderly.single hash
  · rw [turns, orderly.standing, runs]
    split
    · next own =>
      subst own
      constructor
      · rintro ⟨found, prepared, running, has, here⟩
        exact ⟨next, prepared, rfl, (same prepared).mpr ⟨found, running, has⟩, here⟩
      · rintro ⟨found, prepared, running, has, here⟩
        cases running
        obtain ⟨run, before, had⟩ := (same prepared).mp has
        exact ⟨run, prepared, before, had, here⟩
    · rfl
  · intro other found prepared running has past
    rw [turns]
    rw [runs] at running
    split at running
    · next own =>
      cases running
      rw [own]
      exact first prepared has past
    · exact orderly.first other found prepared running has past
  · intro other found prepared running has
    rw [runs] at running
    split at running
    · cases running
      obtain ⟨run, before, had⟩ := (same prepared).mp has
      exact orderly.hashed runner run prepared before had
    · exact orderly.hashed other found prepared running has

/-- A run that gets its query stands at the end of the line of that query. -/
theorem Orderly.queued {desk after : Desk} (orderly : desk.Orderly) {runner : Runner}
    {run next : Run} {prepared : Prepared} (running : desk.run? runner = some run)
    (before : run.phase.prepared? = none) (phase : next.phase = .queueing prepared)
    (hashed : prepared.hash = queryFingerprint prepared.sql) (sound : after.board.Sound)
    (runs : ∀ other, after.run? other = if other = runner then some next else desk.run? other)
    (turns : after.turns = desk.turns.enter prepared.hash runner) : after.Orderly := by
  have has : next.phase.prepared? = some prepared := by rw [phase]; rfl
  -- A run without a query stands in no line, so it enters this one once.
  have nowhere : ∀ hash, runner ∉ desk.turns.line hash := by
    intro hash stands
    obtain ⟨found, other, same, had, _⟩ := (orderly.standing runner hash).mp stands
    rw [running] at same
    cases same
    rw [before] at had
    cases had
  have line : ∀ hash, after.turns.line hash = if hash = prepared.hash then
      desk.turns.line hash ++ [runner] else desk.turns.line hash := by
    intro hash
    rw [turns]
    split
    · next here =>
      rw [here]
      exact Turns.line_enter _ _ _
    · next other => exact Turns.line_withLine_ne _ _ other
  refine ⟨sound, fun hash => ?_, fun other hash => ?_, ?_, ?_⟩
  · rw [line]
    split
    · exact List.nodup_append.mpr ⟨orderly.single hash, by simp, by
        intro front stands back last same
        rw [List.mem_singleton.mp last] at same
        exact nowhere hash (same ▸ stands)⟩
    · exact orderly.single hash
  · have member : other ∈ after.turns.line hash ↔
        other ∈ desk.turns.line hash ∨ (other = runner ∧ hash = prepared.hash) := by
      rw [line]
      split
      · next here => simp [here]
      · next different => simp [different]
    rw [member, runs]
    split
    · next own =>
      subst own
      constructor
      · rintro (stands | ⟨_, here⟩)
        · exact absurd stands (nowhere hash)
        · exact ⟨next, prepared, rfl, has, here.symm⟩
      · rintro ⟨found, other, same, had, here⟩
        cases same
        rw [has] at had
        cases had
        exact Or.inr ⟨rfl, here.symm⟩
    · next different => simp only [different, false_and, or_false, orderly.standing]
  · intro other found query still had past
    rw [runs] at still
    split at still
    · cases still
      rw [has] at had
      cases had
      exact absurd phase past
    · have front := hasTurn_iff.mp (orderly.first other found query still had past)
      rw [hasTurn_iff, line]
      split
      · rw [List.head?_append, front]
        rfl
      · exact front
  · intro other found query still had
    rw [runs] at still
    split at still
    · cases still
      rw [has] at had
      cases had
      exact hashed
    · exact orderly.hashed other found query still had

/-- Whatever happens keeps the lines those of the runs. -/
theorem Orderly.meet {desk : Desk} (orderly : desk.Orderly) (happening : Happening) :
    (desk.meet happening).Orderly := by
  have sound := sound_meet orderly.sound happening
  cases desk.shift orderly.sound happening with
  | aside runs turns =>
    exact ⟨sound, by rw [turns]; exact orderly.single,
      by intro runner; rw [turns, runs]; exact orderly.standing runner,
      by intro runner; rw [turns, runs]; exact orderly.first runner,
      by intro runner; rw [runs]; exact orderly.hashed runner⟩
  | started phase free runs turns =>
    refine orderly.going sound runs turns (fun prepared => ?_) fun prepared has => ?_
    · simp [phase, free, Phase.prepared?]
    · rw [phase] at has
      cases has
  | ended _ running _ runs turns => exact orderly.without running sound runs turns
  | cut _ running runs turns => exact orderly.without running sound runs turns
  | @wentOn runner run next _ _ _ _ running passage runs turns =>
    rcases passage.goOn_cases with ⟨opening, planning⟩ | ⟨prepared, planning, queueing, hashed⟩ |
      ⟨prepared, had, has, past, turn⟩
    · refine orderly.going sound runs ?_ (fun prepared => ?_) fun prepared has => ?_
      · rw [turns, turnsAfter, opening]
      · simp [planning, running, opening, Phase.prepared?]
      · rw [planning] at has
        cases has
    · refine orderly.queued running (by rw [planning]; rfl) queueing hashed sound runs ?_
      rw [turns, turnsAfter, planning, queueing]
    · refine orderly.going sound runs ?_ (fun other => ?_) fun other has' _ => ?_
      · rw [turns, turnsAfter_of_prepared had]
      · simp [has, running, had]
      · rw [has] at has'
        cases has'
        by_cases waits : run.phase = .queueing prepared
        · exact turn waits
        · exact orderly.first runner run prepared running had waits

/-- The lines of a desk without runs are empty. -/
theorem orderly_of_empty {desk : Desk} (sound : desk.board.Sound) (lines : desk.turns.lines = [])
    (free : ∀ runner, desk.run? runner = none) : desk.Orderly := by
  have line : ∀ hash, desk.turns.line hash = [] := by
    intro hash
    rw [Turns.line, lines]
    rfl
  exact ⟨sound, by simp [line], by simp [line, free], by simp [free], by simp [free]⟩

/-- A desk that has just been set up carries out no run. -/
theorem run?_start {settings : Settings} {desk : Desk} (started : start settings = .ok desk)
    (runner : Runner) : desk.run? runner = none := by
  obtain ⟨staffed, engaged, rfl⟩ := start_eq started
  cases runner with
  | hand number => rfl
  | worker index =>
    apply run?_worker_none
    intro jobType seq run does
    obtain ⟨_, _, _, _, workers⟩ := Jobs.Board.register_eq engaged
    have member := List.mem_of_getElem? does
    simp only [Jobs.Board.subscribe, workers, List.nil_append] at member
    cases (List.mem_replicate.mp member).2

/-- The lines of a desk that has just been set up are those of its runs. -/
theorem orderly_start {settings : Settings} {desk : Desk} (started : start settings = .ok desk) :
    desk.Orderly := by
  refine orderly_of_empty (sound_start started) ?_ (run?_start started)
  obtain ⟨staffed, _, rfl⟩ := start_eq started
  rfl

/-- The lines are those of the runs ever after. -/
theorem orderly_history {desk : Desk} (orderly : desk.Orderly) (happenings : Nat → Happening)
    (count : Nat) : (desk.history happenings count).Orderly :=
  history_induction Orderly orderly (fun _ before => before.meet _) count

/-- Two runs that are past waiting for one query are one and the same. -/
theorem Orderly.unique {desk : Desk} (orderly : desk.Orderly) {left right : Runner}
    {first second : Run} {one other : Prepared} (runsLeft : desk.run? left = some first)
    (runsRight : desk.run? right = some second) (hasLeft : first.phase.prepared? = some one)
    (hasRight : second.phase.prepared? = some other) (same : one.sql = other.sql)
    (pastLeft : first.phase ≠ .queueing one) (pastRight : second.phase ≠ .queueing other) :
    left = right := by
  have hashes : other.hash = one.hash := by
    rw [orderly.hashed _ _ _ runsLeft hasLeft, orderly.hashed _ _ _ runsRight hasRight, same]
  refine hasTurn_unique (orderly.first _ _ _ runsLeft hasLeft pastLeft) ?_
  rw [← hashes]
  exact orderly.first _ _ _ runsRight hasRight pastRight

end QuestionDesk.Desk
