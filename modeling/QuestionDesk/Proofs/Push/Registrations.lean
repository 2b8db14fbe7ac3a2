import QuestionDesk.Proofs.Push.Lines

/-!
# Registrations

A sink that was set up for a job is registered for it until the connection is closed, the sink
refuses a state, its timer fires, or another one is set up in its place. The relay closes it once
when it loses its registration in any way but the last, and does nothing to it afterwards. Its timer
is set from the last state of the job on that it took.
-/
namespace QuestionDesk.Push

/-- A relay from its beginning on. What the sinks are at any moment, and so which states they take,
is not up to the relay. -/
structure Watch where
  /-- How long sinks stay open after the last state of their job. -/
  closeDelay : Micros
  /-- The moment of the beginning. -/
  begins : Micros
  /-- The sinks as they are before each deed. -/
  sinks : Nat → Keyed Sink
  /-- The deeds, one after another. -/
  deeds : Nat → Deed

/-- A sink that was set up for a job. -/
structure Registration where
  /-- The job. -/
  key : String
  /-- The sink. -/
  sink : String
  /-- The number of the deed by which it was set up. -/
  begun : Nat

/-- How a registration can end. -/
inductive Way where
  /-- The connection was closed. -/
  | closed
  /-- The sink refused a state. -/
  | refused
  /-- The timer fired. -/
  | expired
  /-- A sink was set up in its place. -/
  | replaced
  deriving DecidableEq, Repr

/-- The number of the first deed that has no part in a registration which ends with a deed. A deed
by which a sink is set up belongs to the registration of that sink. -/
def Way.over (way : Way) (moment : Nat) : Nat := if way = .replaced then moment else moment + 1

namespace Watch

/-- The relay and the sinks before each deed. -/
def station (watch : Watch) : Nat → Station
  | 0 => ⟨{ closeDelay := watch.closeDelay, sinks := watch.sinks 0 }, watch.begins⟩
  | count + 1 =>
    let after := (station watch count).after (watch.deeds count)
    { after with relay := { after.relay with sinks := watch.sinks (count + 1) } }

/-- What each deed does to the sinks. -/
def touches (watch : Watch) (moment : Nat) : List Touch :=
  (watch.station moment).touches (watch.deeds moment)

/-- What the deeds from one up to another do to the sinks. -/
def touchesBetween (watch : Watch) (first stop : Nat) : List Touch :=
  (List.range' first (stop - first)).flatMap watch.touches

section Definitions

variable (watch : Watch) (registration : Registration)

/-- A registration begins when its sink is set up. -/
def Begins : Prop :=
  ∃ state, watch.deeds registration.begun = .setup registration.key registration.sink state

/-- A registration lasts up to a moment: all the time its sink is the registered one, and no sink is
set up in its place. -/
structure Lasts (count : Nat) : Prop where
  /-- It has begun. -/
  begun : registration.begun < count
  /-- The sink is the registered one. -/
  current : ∀ moment, registration.begun < moment → moment ≤ count →
    (watch.station moment).relay.connections.find? registration.key = some registration.sink
  /-- No sink is set up for the job. -/
  alone : ∀ moment, registration.begun < moment → moment < count → ∀ sink state,
    watch.deeds moment ≠ .setup registration.key sink state

/-- The sink of a registration takes the last state of its job. -/
def TellsLast (moment : Nat) : Prop :=
  ∃ state, state.isTerminal = true ∧
    .told registration.key registration.sink state ∈ watch.touches moment

/-- The moment before a count at which the sink of a registration took the last state of its job for
the last time. -/
structure LastTold (count moment : Nat) : Prop where
  /-- The registration had begun. -/
  since : registration.begun ≤ moment
  /-- It is before the count. -/
  before : moment < count
  /-- The sink took the last state. -/
  tells : watch.TellsLast registration moment
  /-- It has not taken it since. -/
  last : ∀ later, moment < later → later < count → ¬watch.TellsLast registration later

/-- A registration ends with a deed, in one of four ways. -/
inductive Ends (moment : Nat) : Way → Prop where
  /-- The connection is closed. -/
  | closed (lasts : watch.Lasts registration moment)
    (asked : watch.deeds moment = .close registration.key ∨
      watch.deeds moment = .closeIfCurrent registration.key registration.sink) : Ends moment .closed
  /-- The sink refuses a state, be it the first one or a later one. -/
  | refused (told : registration.begun = moment ∨ watch.Lasts registration moment ∧
      ∃ state, watch.deeds moment = .send registration.key state)
    (refuses : ∃ state,
      .refused registration.key registration.sink state ∈ watch.touches moment) :
    Ends moment .refused
  /-- The timer of the sink is due and fires. -/
  | expired (lasts : watch.Lasts registration moment) {due : Micros}
    (set : ⟨registration.key, registration.sink, due⟩ ∈ (watch.station moment).relay.timers)
    (ripe : due ≤ (watch.station moment).now)
    (fires : watch.deeds moment = .expire ⟨registration.key, registration.sink, due⟩) :
    Ends moment .expired
  /-- A sink is set up in its place, be it another one or the same. -/
  | replaced (lasts : watch.Lasts registration moment) {sink : String} {state : JobState}
    (replaces : watch.deeds moment = .setup registration.key sink state) : Ends moment .replaced

end Definitions

/-! ## One deed after another -/

section Deeds

variable (watch : Watch)

/-- Every line is in order all the time. -/
theorem orderly (count : Nat) (key : String) :
    ((watch.station count).relay.line key).Orderly key := by
  induction count generalizing key with
  | zero => exact Or.inl rfl
  | succ count before => exact Station.orderly_after before (watch.deeds count) key

/-- How long sinks stay open never changes. -/
theorem closeDelay_station (count : Nat) :
    (watch.station count).relay.closeDelay = watch.closeDelay := by
  induction count with
  | zero => rfl
  | succ count before => exact ((watch.station count).closeDelay_after _).trans before

/-- What each deed does to each line. -/
theorem turn (count : Nat) (key : String) : Turn (watch.station count) key (watch.deeds count)
    ((watch.station (count + 1)).relay.line key)
    ((watch.touches count).filter (·.key = key)) :=
  Station.turn (watch.orderly count) (watch.deeds count) key

end Deeds

/-! ## What becomes of a registration -/

section Fates

variable {watch : Watch} {registration : Registration}

/-- A registration that lasts up to a moment has lasted up to every moment before. -/
theorem Lasts.earlier {count before : Nat} (lasts : watch.Lasts registration count)
    (begun : registration.begun < before) (within : before ≤ count) :
    watch.Lasts registration before :=
  ⟨begun, fun moment after until_ => lasts.current moment after (by omega),
    fun moment after until_ => lasts.alone moment after (by omega)⟩

/-- A registration goes on when its sink stays the registered one and none is set up. -/
theorem Lasts.next {count : Nat} (lasts : watch.Lasts registration count)
    (current : (watch.station (count + 1)).relay.connections.find? registration.key =
      some registration.sink)
    (alone : ∀ sink state, watch.deeds count ≠ .setup registration.key sink state) :
    watch.Lasts registration (count + 1) := by
  refine ⟨Nat.lt_succ_of_lt lasts.begun, fun moment after until_ => ?_,
    fun moment after until_ => ?_⟩
  · rcases Nat.lt_or_eq_of_le until_ with earlier | rfl
    · exact lasts.current moment after (by omega)
    · exact current
  · rcases Nat.lt_or_eq_of_le (Nat.le_of_lt_succ until_) with earlier | rfl
    · exact lasts.alone moment after earlier
    · exact alone

/-- What is done for the job of a registration in a deed. -/
def touchesFor (watch : Watch) (registration : Registration) (moment : Nat) : List Touch :=
  (watch.touches moment).filter (·.key = registration.key)

/-- What is done for the job of a registration is done. -/
theorem mem_of_touchesFor {moment : Nat} {touches : List Touch}
    (touched : watch.touchesFor registration moment = touches) {touch : Touch}
    (member : touch ∈ touches) : touch ∈ watch.touches moment :=
  (List.mem_filter.mp (touched ▸ member : touch ∈ watch.touchesFor registration moment)).1

/-- What a deed does with a registration for which it is done. -/
inductive Fate (watch : Watch) (registration : Registration) (moment : Nat) : Prop where
  /-- Nothing is done. -/
  | rests (begun : registration.begun < moment) (lasts : watch.Lasts registration (moment + 1))
    (untouched : watch.touchesFor registration moment = [])
    (line : (watch.station (moment + 1)).relay.line registration.key =
      (watch.station moment).relay.line registration.key)
  /-- The sink takes a state. -/
  | told {state : JobState} (lasts : watch.Lasts registration (moment + 1))
    (touches : watch.touchesFor registration moment =
      [.told registration.key registration.sink state])
    (timers : ((watch.station (moment + 1)).relay.line registration.key).timers =
      if state.isTerminal then [⟨registration.key, registration.sink,
        (watch.station moment).now + watch.closeDelay⟩]
      else if registration.begun = moment then []
      else ((watch.station moment).relay.line registration.key).timers)
  /-- The registration ends, and the sink is closed. -/
  | ends {way : Way} (ends : watch.Ends registration moment way) (gone : way ≠ .replaced)
    (line : (watch.station (moment + 1)).relay.line registration.key = ⟨none, []⟩)
    (touches : watch.touchesFor registration moment =
        [.closed registration.key registration.sink] ∨
      ∃ state, watch.touchesFor registration moment =
        [.refused registration.key registration.sink state,
          .closed registration.key registration.sink])
  /-- A sink is set up in its place. -/
  | replaced (ends : watch.Ends registration moment .replaced)

/-- What becomes of a registration when its sink is set up. -/
theorem Begins.fate (begins : watch.Begins registration) :
    watch.Fate registration registration.begun := by
  obtain ⟨first, asked⟩ := begins
  have turn := watch.turn registration.begun registration.key
  rw [asked] at turn
  generalize held : (watch.station (registration.begun + 1)).relay.line registration.key = line
    at turn
  generalize touched : (watch.touches registration.begun).filter (·.key = registration.key) =
    touches at turn
  cases turn with
  | rests idle => exact absurd rfl idle
  | registered takes =>
    have current := congrArg Line.sink? held
    refine .told ⟨Nat.lt_succ_self _, fun moment after until_ => ?_, fun moment after until_ => ?_⟩
      touched ?_
    · obtain rfl : moment = registration.begun + 1 := by omega
      exact current
    · omega
    · rw [held, if_pos rfl, closeDelay_station]
  | unregistered refuses =>
    refine .ends (.refused (Or.inl rfl) ⟨first, ?_⟩) (by decide) held (Or.inr ⟨first, touched⟩)
    exact mem_of_touchesFor touched List.mem_cons_self
  | closed registered ends => rcases ends with ends | ends <;> cases ends

/-- What becomes of a registration that lasts. -/
theorem Lasts.fate {count : Nat} (lasts : watch.Lasts registration count) :
    watch.Fate registration count := by
  have current := lasts.current count lasts.begun (Nat.le_refl _)
  have turn := watch.turn count registration.key
  generalize asked : watch.deeds count = deed at turn
  generalize held : (watch.station (count + 1)).relay.line registration.key = line at turn
  generalize touched : (watch.touches count).filter (·.key = registration.key) = touches at turn
  cases turn with
  | rests idle =>
    refine .rests lasts.begun (lasts.next ?_ fun sink state same => ?_) touched held
    · exact (congrArg Line.sink? held).trans current
    · rw [asked] at same
      rw [same] at idle
      exact idle rfl
  | registered | unregistered => exact .replaced (.replaced lasts asked)
  | sent registered takes =>
    obtain rfl := Option.some.inj (current.symm.trans registered)
    refine .told (lasts.next (congrArg Line.sink? held) fun sink state same => ?_) touched ?_
    · rw [asked] at same
      cases same
    · rw [held, if_neg (Nat.ne_of_lt lasts.begun), closeDelay_station]
  | unsent registered refuses =>
    obtain rfl := Option.some.inj (current.symm.trans registered)
    exact .ends (.refused (Or.inr ⟨lasts, _, asked⟩)
      ⟨_, mem_of_touchesFor touched List.mem_cons_self⟩) (by decide) held (Or.inr ⟨_, touched⟩)
  | closed registered ends =>
    obtain rfl := Option.some.inj (current.symm.trans registered)
    refine .ends (.closed lasts ?_) (by decide) held (Or.inl touched)
    rw [asked]
    exact ends
  | @expired sink due registered ripe =>
    obtain rfl := Option.some.inj (current.symm.trans (congrArg Line.sink? registered))
    refine .ends (.expired lasts ?_ ripe asked) (by decide) held (Or.inl touched)
    have set : ⟨registration.key, registration.sink, due⟩ ∈
        ((watch.station count).relay.line registration.key).timers := by
      rw [registered]
      exact List.mem_singleton_self _
    exact (List.mem_filter.mp set).1

/-- A job has no sink after a registration has ended, unless one was set up in its place. -/
theorem Ends.gone {moment : Nat} {way : Way} (ends : watch.Ends registration moment way)
    (unlike : way ≠ .replaced) :
    ((watch.station (moment + 1)).relay.line registration.key).sink? = none := by
  have turn := watch.turn moment registration.key
  generalize (watch.station (moment + 1)).relay.line registration.key = line at turn ⊢
  generalize touched : (watch.touches moment).filter (·.key = registration.key) = touches at turn
  cases ends with
  | replaced => exact absurd rfl unlike
  | closed lasts asked =>
    have current := lasts.current moment lasts.begun (Nat.le_refl _)
    rcases asked with asked | asked <;> rw [asked] at turn <;> cases turn with
    | rests idle => exact absurd current (by simp [idle rfl])
    | closed => rfl
  | refused told refuses =>
    obtain ⟨state, member⟩ := refuses
    have kept : .refused registration.key registration.sink state ∈ touches :=
      touched ▸ List.mem_filter.mpr ⟨member, by simp [Touch.key]⟩
    generalize watch.deeds moment = deed at turn
    cases turn with
    | unregistered | unsent => rfl
    | rests | registered | sent | closed | expired => simp at kept
  | expired lasts set ripe fires =>
    rw [fires] at turn
    cases turn with
    | rests idle => exact absurd (idle rfl set) (Int.not_lt.mpr ripe)
    | closed | expired => rfl

/-- A registration that has ended does not last. -/
theorem Ends.not_lasts {moment count : Nat} {way : Way}
    (ends : watch.Ends registration moment way) (after : moment < count) :
    ¬watch.Lasts registration count := by
  intro still
  by_cases replaced : way = .replaced
  · subst replaced
    cases ends with
    | replaced lasts replaces => exact still.alone moment lasts.begun after _ _ replaces
  · have begun : registration.begun ≤ moment := by
      cases ends with
      | refused told => exact told.elim Nat.le_of_eq fun told => Nat.le_of_lt told.1.begun
      | closed lasts | expired lasts | replaced lasts => exact Nat.le_of_lt lasts.begun
    have current := still.current (moment + 1) (by omega) after
    exact absurd (current.symm.trans (ends.gone replaced)) nofun

/-- Up to the deed with which it ends a registration lasts, unless it ends as it begins. -/
theorem Ends.begun {moment : Nat} {way : Way} (ends : watch.Ends registration moment way) :
    registration.begun = moment ∧ way = .refused ∨ watch.Lasts registration moment := by
  cases ends with
  | refused told => exact told.imp (⟨·, rfl⟩) And.left
  | closed lasts | expired lasts | replaced lasts => exact Or.inr lasts

/-- The way in which a deed can end a registration that lasts. -/
def Deed.way : Deed → Way
  | .close _ | .closeIfCurrent _ _ | .pass _ => .closed
  | .send _ _ => .refused
  | .expire _ => .expired
  | .setup _ _ _ => .replaced

/-- The way in which a registration that has lasted ends depends on the deed. -/
theorem Ends.way_eq {moment : Nat} {way : Way} (ends : watch.Ends registration moment way)
    (lasts : watch.Lasts registration moment) : way = Deed.way (watch.deeds moment) := by
  cases ends with
  | closed _ asked => rcases asked with asked | asked <;> rw [asked] <;> rfl
  | refused told =>
    rcases told with same | ⟨_, state, asked⟩
    · exact absurd same (Nat.ne_of_lt lasts.begun)
    · rw [asked]
      rfl
  | expired _ _ _ fires =>
    rw [fires]
    rfl
  | replaced _ replaces =>
    rw [replaces]
    rfl

/-- A registration ends once and in one way. -/
theorem Ends.unique {moment later : Nat} {way other : Way}
    (ends : watch.Ends registration moment way) (again : watch.Ends registration later other) :
    moment = later ∧ way = other := by
  have apart : ∀ {first second : Nat} {one another : Way}, watch.Ends registration first one →
      watch.Ends registration second another → ¬first < second := by
    intro first second one another ends again before
    rcases again.begun with ⟨same, _⟩ | lasts
    · rcases ends.begun with ⟨begun, _⟩ | lasts
      · omega
      · exact absurd lasts.begun (by omega)
    · exact ends.not_lasts before lasts
  obtain rfl : moment = later := by
    have forward := apart ends again
    have backward := apart again ends
    omega
  refine ⟨rfl, ?_⟩
  rcases ends.begun with ⟨begun, rfl⟩ | lasts
  · rcases again.begun with ⟨_, rfl⟩ | lasts
    · rfl
    · exact absurd begun (Nat.ne_of_lt lasts.begun)
  · rw [ends.way_eq lasts, again.way_eq lasts]

/-- A registration that no longer lasts has ended. -/
theorem Begins.ended {count : Nat} (begins : watch.Begins registration)
    (begun : registration.begun < count) (gone : ¬watch.Lasts registration count) :
    ∃ moment < count, ∃ way, watch.Ends registration moment way := by
  have step : ∀ {moment : Nat}, watch.Fate registration moment →
      watch.Lasts registration (moment + 1) ∨ ∃ way, watch.Ends registration moment way := by
    intro moment fate
    cases fate with
    | rests _ lasts | told lasts => exact Or.inl lasts
    | ends ends | replaced ends => exact Or.inr ⟨_, ends⟩
  obtain ⟨gap, rfl⟩ := Nat.exists_eq_add_of_lt begun
  induction gap with
  | zero =>
    rcases step begins.fate with lasts | ⟨way, ends⟩
    · exact absurd lasts gone
    · exact ⟨_, Nat.lt_succ_self _, way, ends⟩
  | succ gap before =>
    by_cases lasts : watch.Lasts registration (registration.begun + gap + 1)
    · rcases step lasts.fate with lasts | ⟨way, ends⟩
      · exact absurd lasts gone
      · exact ⟨_, Nat.lt_succ_self _, way, ends⟩
    · obtain ⟨moment, earlier, ended⟩ := before (by omega) lasts
      exact ⟨moment, by omega, ended⟩

end Fates

/-! ## Timers -/

section Timers

variable {watch : Watch} {registration : Registration}

/-- What one more deed means for the last time that the sink took the last state. -/
theorem LastTold.next {count moment : Nat} (last : watch.LastTold registration count moment)
    (quiet : ¬watch.TellsLast registration count) :
    watch.LastTold registration (count + 1) moment := by
  refine ⟨last.since, Nat.lt_succ_of_lt last.before, last.tells, fun later after until_ => ?_⟩
  rcases Nat.lt_or_eq_of_le (Nat.le_of_lt_succ until_) with earlier | rfl
  · exact last.last later after earlier
  · exact quiet

/-- When the sink takes the last state, that is the last time so far. -/
theorem TellsLast.lastTold {count : Nat} (tells : watch.TellsLast registration count)
    (begun : registration.begun ≤ count) : watch.LastTold registration (count + 1) count :=
  ⟨begun, Nat.lt_succ_self _, tells, fun _ after until_ => absurd after (by omega)⟩

/-- What is done for a job shows whether its sink takes the last state. -/
theorem tellsLast_iff {moment : Nat} {touches : List Touch}
    (touched : watch.touchesFor registration moment = touches) :
    watch.TellsLast registration moment ↔ ∃ state, state.isTerminal = true ∧
      .told registration.key registration.sink state ∈ touches := by
  refine exists_congr fun state => and_congr_right fun _ => ?_
  rw [← touched, touchesFor, List.mem_filter]
  simp [Touch.key]

/-- A timer is set for a registration exactly when its sink took the last state of the job, and it
is due some time after the last time. -/
def Clocked (watch : Watch) (registration : Registration) (count : Nat) : Prop :=
  (((watch.station count).relay.line registration.key).timers = [] ∧
    ∀ moment, registration.begun ≤ moment → moment < count →
      ¬watch.TellsLast registration moment) ∨
  ∃ moment, watch.LastTold registration count moment ∧
    ((watch.station count).relay.line registration.key).timers = [⟨registration.key,
      registration.sink, (watch.station moment).now + watch.closeDelay⟩]

/-- A deed in which the sink does not take the last state leaves the timer as it should be. -/
theorem Clocked.next {count : Nat} (clocked : watch.Clocked registration count)
    (timers : ((watch.station (count + 1)).relay.line registration.key).timers =
      ((watch.station count).relay.line registration.key).timers)
    (quiet : ¬watch.TellsLast registration count) : watch.Clocked registration (count + 1) := by
  rw [Clocked, timers]
  rcases clocked with ⟨none, never⟩ | ⟨moment, last, one⟩
  · refine Or.inl ⟨none, fun moment since before => ?_⟩
    rcases Nat.lt_or_eq_of_le (Nat.le_of_lt_succ before) with earlier | rfl
    · exact never moment since earlier
    · exact quiet
  · exact Or.inr ⟨moment, last.next quiet, one⟩

/-- Every deed leaves the timer of a registration that goes on as it should be. -/
theorem Fate.clocked {count : Nat} (fate : watch.Fate registration count)
    (lasts : watch.Lasts registration (count + 1))
    (before : registration.begun = count ∨ watch.Clocked registration count) :
    watch.Clocked registration (count + 1) := by
  cases fate with
  | rests begun _ untouched line =>
    refine (before.resolve_left (Nat.ne_of_lt begun)).next (congrArg Line.timers line) ?_
    rw [tellsLast_iff untouched]
    simp
  | @told state _ touches timers =>
    have tells : watch.TellsLast registration count ↔ state.isTerminal = true := by
      rw [tellsLast_iff touches]
      simp
    cases terminal : state.isTerminal with
    | true =>
      rw [terminal, if_pos rfl] at timers
      exact Or.inr ⟨count, (tells.mpr terminal).lastTold (by have := lasts.begun; omega), timers⟩
    | false =>
      have quiet : ¬watch.TellsLast registration count := by simp [tells, terminal]
      rw [terminal, if_neg nofun] at timers
      by_cases first : registration.begun = count
      · rw [if_pos first] at timers
        refine Or.inl ⟨timers, fun moment since until_ => ?_⟩
        obtain rfl : moment = count := by omega
        exact quiet
      · rw [if_neg first] at timers
        exact (before.resolve_left first).next timers quiet
  | ends ends | replaced ends => exact absurd lasts (ends.not_lasts (Nat.lt_succ_self _))

/-- While a registration lasts, its timer is as it should be. -/
theorem Lasts.clocked {count : Nat} (begins : watch.Begins registration)
    (lasts : watch.Lasts registration count) : watch.Clocked registration count := by
  obtain ⟨gap, rfl⟩ := Nat.exists_eq_add_of_lt lasts.begun
  induction gap with
  | zero => exact begins.fate.clocked lasts (Or.inl rfl)
  | succ gap before =>
    have earlier : watch.Lasts registration (registration.begun + gap + 1) :=
      lasts.earlier (by omega) (by omega)
    exact earlier.fate.clocked lasts (Or.inr (before earlier))

end Timers

/-! ## Who is registered -/

section Registered

variable {watch : Watch}

/-- The registered sink of a job was set up for it, and its registration lasts. -/
theorem exists_registration {count : Nat} {key sink : String}
    (current : (watch.station count).relay.connections.find? key = some sink) :
    ∃ begun, watch.Begins ⟨key, sink, begun⟩ ∧ watch.Lasts ⟨key, sink, begun⟩ count := by
  induction count with
  | zero => cases current
  | succ count before =>
    have turn := watch.turn count key
    have held : ((watch.station (count + 1)).relay.line key).sink? = some sink := current
    generalize (watch.station (count + 1)).relay.line key = line at turn held
    generalize asked : watch.deeds count = deed at turn
    generalize (watch.touches count).filter (·.key = key) = touches at turn
    -- Only a setup puts a sink on a line; whatever else leaves one there found it there.
    cases turn with
    | rests idle =>
      obtain ⟨begun, begins, lasts⟩ := before held
      refine ⟨begun, begins, lasts.next current fun other state same => ?_⟩
      rw [← asked, same] at idle
      exact idle rfl
    | registered =>
      cases held
      refine ⟨count, ⟨_, asked⟩, Nat.lt_succ_self _, fun moment after until_ => ?_,
        fun moment after until_ => absurd after (by dsimp only; omega)⟩
      obtain rfl : moment = count + 1 := Nat.le_antisymm until_ after
      exact current
    | sent registered =>
      cases held
      obtain ⟨begun, begins, lasts⟩ := before registered
      refine ⟨begun, begins, lasts.next current fun other state same => ?_⟩
      rw [asked] at same
      cases same
    | unregistered | unsent | closed | expired => cases held

/-- What is done to a sink for a job is done to one that is being set up for it, or to the
registered one while none is. -/
theorem registered_of_touches {moment : Nat} {touch : Touch}
    (touches : touch ∈ watch.touches moment) :
    (∃ state, watch.deeds moment = .setup touch.key touch.sink state) ∨
      (∀ sink state, watch.deeds moment ≠ .setup touch.key sink state) ∧
        (watch.station moment).relay.connections.find? touch.key = some touch.sink := by
  have member : touch ∈ (watch.touches moment).filter (·.key = touch.key) :=
    List.mem_filter.mpr ⟨touches, by simp⟩
  have turn := watch.turn moment touch.key
  generalize (watch.touches moment).filter (·.key = touch.key) = all at turn member
  generalize (watch.station (moment + 1)).relay.line touch.key = line at turn
  generalize asked : watch.deeds moment = deed at turn
  have own : ∀ sink, (∀ other ∈ all, other.sink = sink) → touch.sink = sink :=
    fun _ same => same touch member
  cases turn with
  | rests => cases member
  | @registered sink | @unregistered sink =>
    rw [own sink (by simp [Touch.sink])]
    exact Or.inl ⟨_, rfl⟩
  | @sent sink _ current | @unsent sink _ current =>
    rw [own sink (by simp [Touch.sink])]
    exact Or.inr ⟨fun _ _ => Deed.noConfusion, current⟩
  | @closed sink _ current ends =>
    rw [own sink (by simp [Touch.sink])]
    exact Or.inr ⟨fun _ _ same => by rw [same] at ends; simp at ends, current⟩
  | @expired sink _ current =>
    rw [own sink (by simp [Touch.sink])]
    exact Or.inr ⟨fun _ _ => Deed.noConfusion, congrArg Line.sink? current⟩

end Registered

/-! ## Closing -/

section Closing

variable {watch : Watch} {registration : Registration}

/-- How often a deed closes the sink of a registration. -/
theorem count_closed_touches (moment : Nat) : (watch.touches moment).count
      (.closed registration.key registration.sink) =
    (watch.touchesFor registration moment).count (.closed registration.key registration.sink) :=
  (List.count_filter (by simp [Touch.key])).symm

/-- What the deeds up to one more do to the sinks. -/
theorem touchesBetween_succ {first stop : Nat} (within : first ≤ stop) :
    watch.touchesBetween first (stop + 1) =
      watch.touchesBetween first stop ++ watch.touches stop := by
  have gap : stop + 1 - first = stop - first + 1 := by omega
  have last : first + (stop - first) = stop := by omega
  rw [touchesBetween, gap, List.range'_concat, List.flatMap_append, Nat.one_mul, last,
    List.flatMap_singleton]
  rfl

/-- A sink is not closed while its registration goes on. -/
theorem Fate.count_closed {moment : Nat} (fate : watch.Fate registration moment)
    (lasts : watch.Lasts registration (moment + 1)) :
    (watch.touches moment).count (.closed registration.key registration.sink) = 0 := by
  rw [count_closed_touches]
  cases fate with
  | rests _ _ untouched => rw [untouched]; rfl
  | told _ touches => rw [touches]; rfl
  | ends ends | replaced ends => exact absurd lasts (ends.not_lasts (Nat.lt_succ_self _))

/-- A sink is closed once when its registration ends and no sink is set up in its place. -/
theorem Fate.count_closed_of_ends {moment : Nat} (fate : watch.Fate registration moment) {way : Way}
    (ends : watch.Ends registration moment way) (unlike : way ≠ .replaced) :
    (watch.touches moment).count (.closed registration.key registration.sink) = 1 := by
  rw [count_closed_touches]
  cases fate with
  | rests _ lasts | told lasts => exact absurd lasts (ends.not_lasts (Nat.lt_succ_self _))
  | ends _ _ _ touches =>
    rcases touches with touches | ⟨state, touches⟩ <;> rw [touches] <;> simp
  | replaced again => exact absurd (ends.unique again).2 unlike

/-- While a registration lasts, its sink is not closed. -/
theorem Lasts.count_closed {count : Nat} (begins : watch.Begins registration)
    (lasts : watch.Lasts registration count) :
    (watch.touchesBetween registration.begun count).count
      (.closed registration.key registration.sink) = 0 := by
  obtain ⟨gap, rfl⟩ := Nat.exists_eq_add_of_lt lasts.begun
  induction gap with
  | zero =>
    rw [touchesBetween_succ (by omega), List.count_append, begins.fate.count_closed lasts]
    simp [touchesBetween]
  | succ gap before =>
    have earlier : watch.Lasts registration (registration.begun + gap + 1) :=
      lasts.earlier (by omega) (by omega)
    have closed := before earlier
    rw [← Nat.add_assoc, touchesBetween_succ (by omega), List.count_append, closed,
      earlier.fate.count_closed lasts]

/-- The sink of a registration that has ended was closed once, unless one was set up in its place;
then it was not closed. -/
theorem Ends.count_closed {moment : Nat} {way : Way} (begins : watch.Begins registration)
    (ends : watch.Ends registration moment way) :
    (watch.touchesBetween registration.begun (way.over moment)).count
      (.closed registration.key registration.sink) = if way = .replaced then 0 else 1 := by
  by_cases replaced : way = .replaced
  · rw [Way.over, if_pos replaced, if_pos replaced]
    rcases ends.begun with ⟨_, rfl⟩ | lasts
    · cases replaced
    · exact lasts.count_closed begins
  · rw [Way.over, if_neg replaced, if_neg replaced]
    rcases ends.begun with ⟨same, _⟩ | lasts
    · subst same
      rw [touchesBetween_succ (Nat.le_refl _), List.count_append,
        begins.fate.count_closed_of_ends ends replaced]
      simp [touchesBetween]
    · rw [touchesBetween_succ (Nat.le_of_lt lasts.begun), List.count_append,
        lasts.count_closed begins, lasts.fate.count_closed_of_ends ends replaced]

/-- After a registration has ended, nothing is done to its sink for the job, unless the sink has
been set up for it anew. -/
theorem Ends.untouched {moment later : Nat} {way : Way} (begins : watch.Begins registration)
    (ends : watch.Ends registration moment way) (past : way.over moment ≤ later) {touch : Touch}
    (touches : touch ∈ watch.touches later) (key : touch.key = registration.key)
    (sink : touch.sink = registration.sink) :
    ∃ anew, way.over moment ≤ anew ∧ anew ≤ later ∧
      ∃ state, watch.deeds anew = .setup registration.key registration.sink state := by
  rcases registered_of_touches touches with ⟨state, set⟩ | ⟨alone, current⟩
  · exact ⟨later, past, Nat.le_refl _, state, by rw [set, key, sink]⟩
  rw [key] at alone
  rw [key, sink] at current
  obtain ⟨begun, ⟨state, set⟩, lasts⟩ := exists_registration current
  by_cases anew : way.over moment ≤ begun
  · exact ⟨begun, anew, Nat.le_of_lt lasts.begun, state, set⟩
  -- Otherwise the sink was registered under a registration that began too early.
  exfalso
  have begunBefore : registration.begun < later := by
    rcases ends.begun with ⟨same, rfl⟩ | before
    · simp only [Way.over, reduceCtorEq, if_false] at past
      omega
    · have := before.begun
      unfold Way.over at past
      split at past <;> omega
  rcases Nat.lt_trichotomy begun registration.begun with sooner | same | since
  · obtain ⟨first, setFirst⟩ := begins
    exact lasts.alone _ sooner begunBefore _ _ setFirst
  · subst same
    by_cases after : moment < later
    · exact ends.not_lasts after lasts
    · have replaced : way = .replaced ∧ moment = later := by
        unfold Way.over at past
        split at past
        · exact ⟨‹_›, by omega⟩
        · omega
      obtain ⟨rfl, rfl⟩ := replaced
      cases ends with
      | replaced _ replaces => exact alone _ _ replaces
  · rcases ends.begun with ⟨same, rfl⟩ | before
    · simp only [Way.over, reduceCtorEq, if_false] at anew
      omega
    · by_cases earlier : begun < moment
      · exact before.alone _ since earlier _ _ set
      · have replaced : way ≠ .replaced ∧ begun = moment := by
          unfold Way.over at anew
          split at anew
          · omega
          · exact ⟨‹_›, by omega⟩
        obtain ⟨unlike, rfl⟩ := replaced
        exact unlike ((ends.way_eq before).trans (by dsimp only at set; rw [set]; rfl))

end Closing

/-! ## What sinks are told -/

section Telling

variable {watch : Watch} {registration : Registration} {moment : Nat}

/-- A sink that is set up and refuses nothing is told the first state. -/
theorem touches_of_setup {key sink : String} {state : JobState}
    (asked : watch.deeds moment = .setup key sink state)
    (takes : .refused key sink state ∉ watch.touches moment) :
    watch.touches moment = [.told key sink state] := by
  unfold touches at takes ⊢
  rw [asked] at takes ⊢
  exact Relay.telling_of_unrefused takes

/-- The registered sink of a job is told what the job is told, if it refuses nothing. -/
theorem touches_of_send {key sink : String} {state : JobState}
    (asked : watch.deeds moment = .send key state)
    (current : (watch.station moment).relay.connections.find? key = some sink)
    (takes : .refused key sink state ∉ watch.touches moment) :
    watch.touches moment = [.told key sink state] := by
  unfold touches at takes ⊢
  simp only [asked, Station.touches, current] at takes ⊢
  exact Relay.telling_of_unrefused takes

/-- What is done in a deed is among what is done in several. -/
theorem mem_touchesBetween {first stop : Nat} {touch : Touch}
    (touches : touch ∈ watch.touches moment) (since : first ≤ moment) (before : moment < stop) :
    touch ∈ watch.touchesBetween first stop :=
  List.mem_flatMap.mpr ⟨moment, List.mem_range'_1.mpr ⟨since, by omega⟩, touches⟩

/-- There is one last time. -/
theorem LastTold.unique {count other : Nat} (last : watch.LastTold registration count moment)
    (again : watch.LastTold registration count other) : moment = other := by
  rcases Nat.lt_trichotomy moment other with sooner | same | later
  · exact absurd again.tells (last.last other sooner again.before)
  · exact same
  · exact absurd last.tells (again.last moment later last.before)

/-- A timer that ends a registration was set when its sink took the last state of the job for the
last time. -/
theorem Ends.expired_due (begins : watch.Begins registration)
    (ends : watch.Ends registration moment .expired) : ∃ last,
      watch.LastTold registration moment last ∧
      ⟨registration.key, registration.sink, (watch.station last).now + watch.closeDelay⟩ ∈
        (watch.station moment).relay.timers ∧
      (watch.station last).now + watch.closeDelay ≤ (watch.station moment).now := by
  cases ends with
  | expired lasts set ripe fires =>
    have own : _ ∈ ((watch.station moment).relay.line registration.key).timers :=
      List.mem_filter.mpr ⟨set, by simp⟩
    rcases lasts.clocked begins with ⟨none, _⟩ | ⟨last, told, one⟩
    · rw [none] at own
      cases own
    · rw [one] at own
      cases List.mem_singleton.mp own
      exact ⟨last, told, set, ripe⟩

/-- A registration that lasts has a timer from the moment on at which its sink took the last state
of the job. -/
theorem LastTold.timer {count : Nat} (last : watch.LastTold registration count moment)
    (begins : watch.Begins registration) (lasts : watch.Lasts registration count) :
    ⟨registration.key, registration.sink, (watch.station moment).now + watch.closeDelay⟩ ∈
      (watch.station count).relay.timers := by
  rcases lasts.clocked begins with ⟨_, never⟩ | ⟨other, told, one⟩
  · exact absurd last.tells (never moment last.since last.before)
  · obtain rfl := last.unique told
    exact (List.mem_filter.mp (one ▸ List.mem_singleton_self _ :
      _ ∈ ((watch.station count).relay.line registration.key).timers)).1

/-- A sink is told nothing while its timer fires. -/
theorem Ends.untold (ends : watch.Ends registration moment .expired) :
    ¬watch.TellsLast registration moment := by
  rintro ⟨state, _, told⟩
  cases ends with
  | expired _ _ _ fires =>
    rcases Station.deed_of_told told with asked | asked <;> cases fires.symm.trans asked

/-- A sink is closed when its timer fires. -/
theorem Ends.closes (ends : watch.Ends registration moment .expired) :
    .closed registration.key registration.sink ∈ watch.touches moment := by
  have lasts : watch.Lasts registration moment := ends.begun.resolve_left (nomatch ·.2)
  exact List.count_pos_iff.mp
    (by rw [lasts.fate.count_closed_of_ends ends (by decide)]; exact Nat.one_pos)

end Telling

/-! ## All registrations -/

/-- How a relay keeps its sinks. A sink that is set up again for a job for which it is, or was,
registered has another registration from then on. -/
structure Orderly (watch : Watch) : Prop where
  /-- At most one timer is set for a job. -/
  single : ∀ count key,
    ((watch.station count).relay.timers.filter (·.key = key)).length ≤ 1
  /-- A timer is set for a registration that lasts. It is due some time after the sink took the last
  state of its job for the last time. -/
  armed : ∀ count, ∀ timer ∈ (watch.station count).relay.timers, ∃ registration moment,
    registration.key = timer.key ∧ registration.sink = timer.sink ∧
      watch.Begins registration ∧ watch.Lasts registration count ∧
      watch.LastTold registration count moment ∧
      timer.due = (watch.station moment).now + watch.closeDelay
  /-- From the moment on at which its sink took the last state of its job, there is a timer for a
  registration as long as it lasts. -/
  waiting : ∀ registration count moment, watch.Begins registration →
    watch.Lasts registration count → registration.begun ≤ moment → moment < count →
      watch.TellsLast registration moment →
        ∃ due, ⟨registration.key, registration.sink, due⟩ ∈ (watch.station count).relay.timers
  /-- A registration that lasts has not ended. -/
  lasting : ∀ registration count moment way, watch.Lasts registration count →
    watch.Ends registration moment way → count ≤ moment
  /-- A registration that does not last has ended once, in one way. -/
  ended : ∀ registration count, watch.Begins registration → registration.begun < count →
    ¬watch.Lasts registration count → ∃ moment way, moment < count ∧
      watch.Ends registration moment way ∧
        ∀ other again, watch.Ends registration other again → other = moment ∧ again = way
  /-- While a registration lasts, its sink is not closed. -/
  unclosed : ∀ registration count, watch.Begins registration → watch.Lasts registration count →
    (watch.touchesBetween registration.begun count).count
      (.closed registration.key registration.sink) = 0
  /-- When a registration ends, its sink has been closed once, unless one was set up in its place;
  then it has not been closed. -/
  closed : ∀ registration moment way, watch.Begins registration →
    watch.Ends registration moment way →
      (watch.touchesBetween registration.begun (way.over moment)).count
        (.closed registration.key registration.sink) = if way = .replaced then 0 else 1
  /-- After a registration has ended its sink is neither told anything for the job nor closed, until
  it is set up for the job anew. -/
  untouched : ∀ registration moment way later, watch.Begins registration →
    watch.Ends registration moment way → way.over moment ≤ later →
      (∀ anew, way.over moment ≤ anew → anew ≤ later → ∀ state,
        watch.deeds anew ≠ .setup registration.key registration.sink state) →
      ∀ touch ∈ watch.touches later, touch.key = registration.key →
        touch.sink ≠ registration.sink
  /-- What is said to be done to the sinks is all that is done to them. -/
  faithful : ∀ moment, ((watch.station moment).after (watch.deeds moment)).relay.sinks =
    (watch.touches moment).foldl Touch.on (watch.sinks moment)
  /-- A sink takes the states that it is told, and no others. -/
  fits : ∀ moment, ∀ touch ∈ watch.touches moment, touch.Fits (watch.station moment).relay

/-- A relay keeps its sinks in order, whatever is asked of it and whatever the sinks do. -/
theorem registrations_orderly (watch : Watch) : watch.Orderly where
  single count key := by
    change ((watch.station count).relay.line key).timers.length ≤ 1
    rcases watch.orderly count key with empty | ⟨sink, due, line⟩
    · simp [empty]
    · simp [line]
  armed count timer set := by
    have own : timer ∈ ((watch.station count).relay.line timer.key).timers :=
      List.mem_filter.mpr ⟨set, by simp⟩
    rcases watch.orderly count timer.key with empty | ⟨sink, due, line⟩
    · rw [empty] at own
      cases own
    · obtain ⟨begun, begins, lasts⟩ := exists_registration (congrArg Line.sink? line)
      rcases lasts.clocked begins with ⟨none, _⟩ | ⟨moment, last, one⟩
      · rw [show ((watch.station count).relay.line timer.key).timers = [] from none] at own
        cases own
      · rw [show ((watch.station count).relay.line timer.key).timers = _ from one] at own
        have same := List.mem_singleton.mp own
        exact ⟨_, moment, rfl, (congrArg Timer.sink same).symm, begins, lasts, last,
          congrArg Timer.due same⟩
  waiting registration count moment begins lasts since before tells := by
    rcases lasts.clocked begins with ⟨_, never⟩ | ⟨last, _, one⟩
    · exact absurd tells (never moment since before)
    · have set := one ▸ List.mem_singleton_self (⟨_, _, _⟩ : Timer)
      exact ⟨_, (List.mem_filter.mp set).1⟩
  lasting _ _ _ _ lasts ends := Nat.le_of_not_lt fun before => ends.not_lasts before lasts
  ended registration count begins begun past := by
    obtain ⟨moment, before, way, ends⟩ := begins.ended begun past
    exact ⟨moment, way, before, ends, fun other again ended => ended.unique ends⟩
  unclosed _ _ begins lasts := lasts.count_closed begins
  closed _ _ _ begins ends := ends.count_closed begins
  untouched registration moment way later begins ends past never touch touches key sink := by
    obtain ⟨anew, since, before, state, set⟩ := ends.untouched begins past touches key sink
    exact never anew since before state set
  faithful moment := by
    have sinks : (watch.station moment).relay.sinks = watch.sinks moment := by
      cases moment <;> rfl
    rw [Station.sinks_after, sinks]
    rfl
  fits _ _ touches := Station.fits_of_touches touches

/-- A sink is replaced before its job has completed, the next one is told so and closed in time, one
more refuses what it is told, and the last one is closed early. -/
def handover : Watch where
  closeDelay := 10
  begins := 0
  sinks _ := [("first", .recorder [] 0 false false), ("second", .recorder [] 0 false false),
    ("broken", .recorder [] 0 true true), ("last", .recorder [] 0 false true)]
  deeds moment := [.setup "job" "first" ⟨"job", "pending", none, .null, none, none, none⟩,
    .setup "job" "second" ⟨"job", "processing", none, .null, none, none, none⟩,
    .send "job" ⟨"job", "completed", none, .null, none, none, none⟩, .pass 10,
    .expire ⟨"job", "second", 10⟩,
    .setup "job" "broken" ⟨"job", "completed", none, .null, none, none, none⟩,
    .setup "job" "last" ⟨"job", "completed", none, .null, none, none, none⟩, .close "job",
    .pass 10, .expire ⟨"job", "last", 20⟩].getD moment (.pass 0)

example : (handover.touchesBetween 0 10).map
      (fun touch => (touch.sink, touch matches .closed _ _)) =
    [("first", false), ("second", false), ("second", false), ("second", true), ("broken", false),
      ("broken", true), ("last", false), ("last", true)] := by decide +kernel

end Watch

end QuestionDesk.Push
