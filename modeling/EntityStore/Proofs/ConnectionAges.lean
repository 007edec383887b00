import EntityStore.Proofs.PoolAccounts

/-!
# Ages of lent connections

The history of a pool says which connections were there at first, and which were lent
and came back since.  A connection is as old as its first mention.  Times only go
forward, what comes back was lent, and who asks may be refused.

The greatest lifetime does not bound the age of what is lent.  The pool notes no time
with a lent connection, and one that comes back waits as if it had just been made.  So
a connection waits since it was made or since it last came back (`Pool.Rests`), and the
lifetime bounds that wait (`Pool.Runs.lent_in_time`).  A connection that comes back often
enough is lent at any age (`Pool.Runs.outlives`).
-/

set_option autoImplicit false

namespace EntityStore.Pool

/-! ## Histories -/

/-- What happens to connections of a pool, which have numbers. -/
inductive Event where
  | opened (time : Nat) (ids : List Nat)
  | lent (time id : Nat)
  | returned (time id : Nat)
  deriving DecidableEq, Repr

namespace Event

/-- When an event happens. -/
def time : Event → Nat
  | .opened time _ | .lent time _ | .returned time _ => time

/-- Whether an event mentions a connection. -/
def mentions (id : Nat) : Event → Bool
  | .opened _ ids => ids.contains id
  | .lent _ other | .returned _ other => other == id

end Event

/-- When a connection was made, by a history that has the newest event first. -/
def madeAt? (id : Nat) : List Event → Option Nat
  | [] => none
  | event :: earlier =>
      (madeAt? id earlier).or (if event.mentions id then some event.time else none)

/-- Whether a connection was lent and did not come back. -/
def IsLent (id : Nat) : List Event → Prop
  | [] | .opened .. :: _ => False
  | .lent _ other :: earlier => other = id ∨ IsLent id earlier
  | .returned _ other :: earlier => other ≠ id ∧ IsLent id earlier

variable {settings : PoolSettings} {events : List Event} {pool : Pool}
  {clock now id made lifetime : Nat} {connection : Connection} {waiting : WaitingConnection}

/-- What happens later does not change when a connection was made. -/
theorem madeAt?_cons (event : Event) (found : madeAt? id events = some made) :
    madeAt? id (event :: events) = some made := by
  rw [madeAt?, found]
  rfl

/-- A connection was made when it was first mentioned. -/
theorem madeAt?_of_unmentioned {event : Event} (mentioned : event.mentions id = true)
    (before : ∀ earlier ∈ events, earlier.mentions id = false) :
    madeAt? id (event :: events) = some event.time := by
  have unknown : madeAt? id events = none := by
    induction events with
    | nil => rfl
    | cons last earlier unknown =>
        rw [madeAt?, unknown fun event member => before event (List.mem_cons_of_mem _ member),
          before last List.mem_cons_self]
        rfl
  rw [madeAt?, unknown, if_pos mentioned]
  rfl

/-- A connection that was made is mentioned at that time. -/
theorem exists_of_madeAt? (found : madeAt? id events = some made) :
    ∃ event ∈ events, event.mentions id = true ∧ event.time = made := by
  induction events with
  | nil => cases found
  | cons last earlier exists_earlier =>
      rcases Option.or_eq_some_iff.mp found with before | ⟨-, now⟩
      · obtain ⟨event, member, mentioned⟩ := exists_earlier before
        exact ⟨event, List.mem_cons_of_mem _ member, mentioned⟩
      · obtain ⟨mentioned, time⟩ := Option.ite_none_right_eq_some.mp now
        exact ⟨last, List.mem_cons_self, mentioned, Option.some.inj time⟩

/-- What was lent was made. -/
theorem IsLent.exists_madeAt? (lent : IsLent id events) :
    ∃ made, madeAt? id events = some made := by
  induction events with
  | nil => exact lent.elim
  | cons last earlier made_earlier =>
      have of_earlier (before : IsLent id earlier) :
          ∃ made, madeAt? id (last :: earlier) = some made :=
        (made_earlier before).imp fun _ => madeAt?_cons last
      cases last with
      | opened => exact lent.elim
      | returned time other => exact of_earlier lent.2
      | lent time other =>
          rcases lent with rfl | before
          · cases found : madeAt? other earlier with
            | some made => exact ⟨made, madeAt?_cons _ found⟩
            | none =>
                refine ⟨time, ?_⟩
                rw [madeAt?, found, Event.mentions, beq_self_eq_true]
                rfl
          · exact of_earlier before

/-! ## Runs -/

/-- The histories of a pool that was opened with some settings, each with the pool and the time at
its end. -/
inductive Runs (settings : PoolSettings) : List Event → Pool → Nat → Prop
  | opened {pool : Pool} {now : Nat} (made : ofSettings settings now = .ok pool) :
      Runs settings [.opened now pool.waitingIds] pool now
  | lent {events : List Event} {pool : Pool} {clock now : Nat} {connection : Connection}
      (before : Runs settings events pool clock) (later : clock ≤ now)
      (granted : (pool.acquire now).answer = .ok connection) :
      Runs settings (.lent now connection.id :: events) (pool.acquire now).pool now
  | refused {events : List Event} {pool : Pool} {clock now : Nat} {fault : Fault}
      (before : Runs settings events pool clock) (later : clock ≤ now)
      (refused : (pool.acquire now).answer = .error fault) :
      Runs settings events (pool.acquire now).pool now
  | returned {events : List Event} {pool : Pool} {clock now : Nat} {connection : Connection}
      (before : Runs settings events pool clock) (later : clock ≤ now)
      (held : IsLent connection.id events) (busy : Bool) :
      Runs settings (.returned now connection.id :: events) (pool.takeBack now busy connection) now

/-! ## Since when connections wait -/

/-- Whether a connection waits since it was made or since it came back. -/
def Rests (events : List Event) (waiting : WaitingConnection) : Prop :=
  ∃ made, madeAt? waiting.connection.id events = some made ∧ made ≤ waiting.createdAt ∧
    (waiting.createdAt = made ∨
      .returned waiting.createdAt waiting.connection.id ∈ events)

theorem Rests.cons (rests : Rests events waiting) (event : Event) :
    Rests (event :: events) waiting := by
  obtain ⟨made, found, before, since⟩ := rests
  exact ⟨made, madeAt?_cons event found, before, since.imp_right (List.mem_cons_of_mem _)⟩

/-- How a pool stands to its history: the connections that wait do so as the history says, and
nothing in it is from the future or about a connection that is yet to be made. -/
structure Matches (pool : Pool) (events : List Event) (clock : Nat) : Prop where
  rests : ∀ waiting ∈ pool.waiting, Rests events waiting
  numbered : ∀ event ∈ events, ∀ id, event.mentions id = true → id < pool.nextId
  past : ∀ event ∈ events, event.time ≤ clock

namespace Matches

/-- The connections of a new pool wait since they were made. -/
theorem opened (made : ofSettings settings now = .ok pool) :
    pool.Matches [.opened now pool.waitingIds] now where
  rests waiting member := by
    obtain ⟨-, rfl⟩ := ofSettings_eq_ok made
    obtain ⟨id, -, rfl⟩ := List.mem_map.mp member
    refine ⟨now, ?_, Nat.le_refl _, .inl rfl⟩
    exact madeAt?_of_unmentioned
      (List.contains_iff_mem.mpr (List.mem_map_of_mem member)) nofun
  numbered := by
    refine List.forall_mem_singleton.mpr fun id mentioned => ?_
    exact (Accounts.ofSettings made).numbered id
      (List.mem_append_left _ (List.contains_iff_mem.mp mentioned))
  past := List.forall_mem_singleton.mpr (Nat.le_refl _)

theorem mono (fits : pool.Matches events clock) (later : clock ≤ now) :
    pool.Matches events now where
  rests := fits.rests
  numbered := fits.numbered
  past event member := (fits.past event member).trans later

/-- Giving connections up changes nothing about the others. -/
theorem evict (fits : pool.Matches events now) : (pool.evict now).Matches events now where
  rests waiting member := fits.rests waiting (List.mem_of_mem_filter member)
  numbered := fits.numbered
  past := fits.past

/-- An event that happens now, to a connection that was made. -/
theorem cons (fits : pool.Matches events now) {event : Event} (time : event.time = now)
    (numbered : ∀ id, event.mentions id = true → id < pool.nextId) :
    pool.Matches (event :: events) now where
  rests waiting member := (fits.rests waiting member).cons event
  numbered := List.forall_mem_cons.mpr ⟨numbered, fits.numbered⟩
  past := List.forall_mem_cons.mpr ⟨time.le, fits.past⟩

/-- The number of a connection that was made is taken. -/
theorem lt_nextId (fits : pool.Matches events clock) (found : madeAt? id events = some made) :
    id < pool.nextId := by
  obtain ⟨event, member, mentioned, -⟩ := exists_of_madeAt? found
  exact fits.numbered event member id mentioned

/-- A connection that gets the next number is made at that moment. -/
theorem madeAt?_create (fits : pool.Matches events clock) :
    madeAt? pool.create.1.id (.lent now pool.create.1.id :: events) = some now := by
  refine madeAt?_of_unmentioned (beq_self_eq_true _) fun earlier member => ?_
  refine Bool.eq_false_iff.mpr fun mentioned => ?_
  exact Nat.lt_irrefl _ (fits.numbered earlier member _ mentioned)

/-- What is lent is mentioned from then on, and who is refused leaves no trace. -/
theorem acquire (fits : pool.Matches events clock) (later : clock ≤ now) :
    match (pool.acquire now).answer with
    | .ok connection => (pool.acquire now).pool.Matches (.lent now connection.id :: events) now
    | .error _ => (pool.acquire now).pool.Matches events now := by
  have kept : (pool.evict now).Matches events now := (fits.mono later).evict
  rcases pool.acquire_cases now with
    ⟨first, others, waiting, acquired⟩ | ⟨-, -, acquired⟩ | ⟨-, -, fault, acquired⟩
  all_goals rw [acquired]
  · have all := kept.rests
    rw [waiting, List.forall_mem_cons] at all
    obtain ⟨⟨made, found, -⟩, rests⟩ := all
    have fewer : Matches { pool.evict now with waiting := others } events now :=
      ⟨rests, kept.numbered, kept.past⟩
    exact fewer.cons rfl fun id mentioned => beq_iff_eq.mp mentioned ▸ kept.lt_nextId found
  · have more : (pool.evict now).create.2.Matches events now :=
      ⟨kept.rests, fun event member id mentioned =>
        Nat.lt_succ_of_lt (kept.numbered event member id mentioned), kept.past⟩
    exact more.cons rfl fun id mentioned => beq_iff_eq.mp mentioned ▸ Nat.lt_succ_self _
  · exact kept

/-- What comes back waits since now. -/
theorem returned (fits : pool.Matches events clock) (later : clock ≤ now)
    (held : IsLent connection.id events) (busy : Bool) :
    (pool.takeBack now busy connection).Matches (.returned now connection.id :: events) now := by
  obtain ⟨made, found⟩ := held.exists_madeAt?
  have same : pool.Matches events now := fits.mono later
  have back : pool.Matches (.returned now connection.id :: events) now :=
    same.cons rfl fun id mentioned => beq_iff_eq.mp mentioned ▸ same.lt_nextId found
  rcases pool.takeBack_cases now busy connection with ⟨-, taken⟩ | taken
  all_goals rw [taken]
  · refine ⟨List.forall_mem_append.mpr ⟨back.rests, ?_⟩, back.numbered, back.past⟩
    refine List.forall_mem_singleton.mpr ?_
    obtain ⟨event, member, -, rfl⟩ := exists_of_madeAt? found
    rw [Rests, connection.handedBack_id]
    exact ⟨event.time, madeAt?_cons _ found, same.past event member, .inr List.mem_cons_self⟩
  · exact ⟨back.rests, back.numbered, back.past⟩

end Matches

/-! ## What the greatest lifetime bounds -/

theorem spanIsOver_eq_false_iff {span since : Nat} :
    spanIsOver (some span) since now = false ↔ now ≤ since + span := by
  rw [spanIsOver, decide_eq_false_iff_not, Nat.not_lt, Nat.sub_le_iff_le_add']

theorem isFresh_iff :
    pool.isFresh now waiting = true ↔
      spanIsOver pool.settings.maxLifetime waiting.createdAt now = false ∧
        spanIsOver pool.settings.idleTimeout waiting.lastUsed now = false := by
  rw [isFresh, Bool.and_eq_true_iff, Bool.not_eq_true', Bool.not_eq_true']

namespace Runs

/-- A pool keeps the settings that it was opened with. -/
theorem settings_eq (runs : Runs settings events pool clock) : pool.settings = settings := by
  induction runs with
  | opened made =>
      obtain ⟨-, rfl⟩ := ofSettings_eq_ok made
      rfl
  | lent _ _ _ same | refused _ _ _ same => exact (acquire_settings ..).trans same
  | returned _ _ _ _ same => exact (takeBack_settings ..).trans same

/-- At all times connections wait since they were made or came back. -/
theorem fits (runs : Runs settings events pool clock) : pool.Matches events clock := by
  induction runs with
  | opened made => exact .opened made
  | lent _ later granted fits =>
      have asked := fits.acquire later
      rwa [granted] at asked
  | refused _ later refused fits =>
      have asked := fits.acquire later
      rwa [refused] at asked
  | returned _ later held busy fits => exact fits.returned later held busy

/-- **A connection that is lent was made, or came back, no longer ago than the greatest
lifetime.** -/
theorem lent_in_time (runs : Runs settings events pool clock)
    (bounded : settings.maxLifetime = some lifetime) (later : clock ≤ now)
    (granted : (pool.acquire now).answer = .ok connection) :
    ∃ made, madeAt? connection.id (.lent now connection.id :: events) = some made ∧ made ≤ now ∧
      (now ≤ made + lifetime ∨
        ∃ back, .returned back connection.id ∈ events ∧ made ≤ back ∧ back ≤ now ∧
          now ≤ back + lifetime) := by
  have kept : (pool.evict now).Matches events now := (runs.fits.mono later).evict
  rcases pool.acquire_cases now with
    ⟨first, others, waiting, acquired⟩ | ⟨-, -, acquired⟩ | ⟨-, -, fault, acquired⟩
  all_goals
    rw [acquired] at granted
    cases granted
  · have member : first ∈ (pool.evict now).waiting := waiting ▸ List.mem_cons_self
    have fresh := (isFresh_iff.mp (List.mem_filter.mp member).2).1
    rw [runs.settings_eq, bounded, spanIsOver_eq_false_iff] at fresh
    obtain ⟨made, found, before, rfl | back⟩ := kept.rests first member
    · obtain ⟨event, mentioned, -, time⟩ := exists_of_madeAt? found
      exact ⟨_, madeAt?_cons _ found, time ▸ kept.past event mentioned, .inl fresh⟩
    · have past : first.createdAt ≤ now := kept.past _ back
      exact ⟨made, madeAt?_cons _ found, before.trans past,
        .inr ⟨_, back, before, past, fresh⟩⟩
  · exact ⟨now, kept.madeAt?_create, Nat.le_refl _, .inl (Nat.le_add_right ..)⟩

end Runs

/-! ## Connections that outlive the greatest lifetime -/

/-- A pool whose only connection waits since a time. -/
def resting (settings : PoolSettings) (since : Nat) : Pool :=
  { settings
    waiting := [⟨{ id := 1, username := settings.username }, since, since⟩]
    total := 1
    nextId := 2 }

/-- The history in which the only connection is lent and comes back a number of times, each time
after the same pause. -/
def rounds (pause : Nat) : Nat → List Event
  | 0 => [.opened 0 [1]]
  | round + 1 =>
      .returned ((round + 1) * pause) 1 :: .lent ((round + 1) * pause) 1 :: rounds pause round

theorem madeAt?_rounds (pause round : Nat) : madeAt? 1 (rounds pause round) = some 0 := by
  induction round with
  | zero => rfl
  | succ round made => exact madeAt?_cons _ (madeAt?_cons _ made)

theorem spanIsOver_add (span : Option Nat) (since pause : Nat) :
    spanIsOver span since (since + pause) = spanIsOver span 0 pause := by
  cases span with
  | none => rfl
  | some nanoseconds => rw [spanIsOver, spanIsOver, Nat.add_sub_cancel_left, Nat.sub_zero]

/-- Whether a pool of one connection may lend it after a pause of some nanoseconds. -/
structure Allows (settings : PoolSettings) (pause : Nat) : Prop where
  valid : settings.validate = .ok ()
  single : settings.minConnections = 1
  alive : spanIsOver settings.maxLifetime 0 pause = false
  used : spanIsOver settings.idleTimeout 0 pause = false

namespace Allows

variable {pause : Nat}

/-- A connection that has waited no longer than it may is lent. -/
theorem acquire_resting (allows : Allows settings pause) (since : Nat) :
    (resting settings since).acquire (since + pause) =
      ⟨.ok { id := 1, username := settings.username },
        { resting settings since with waiting := [] }, since + pause⟩ := by
  have fresh : ∀ waiting ∈ (resting settings since).waiting,
      (resting settings since).isFresh (since + pause) waiting = true := by
    refine List.forall_mem_singleton.mpr ?_
    rw [isFresh_iff, spanIsOver_add, spanIsOver_add]
    exact ⟨allows.alive, allows.used⟩
  have same : (resting settings since).evict (since + pause) = resting settings since := by
    rw [evict, List.filter_eq_self.mpr fresh]
    rfl
  rw [acquire, same]
  rfl

/-- The connection can be lent and come back any number of times. -/
theorem runs_rounds (allows : Allows settings pause) (round : Nat) :
    Runs settings (rounds pause round) (resting settings (round * pause)) (round * pause) := by
  induction round with
  | zero =>
      have opened : ofSettings settings 0 = .ok (resting settings 0) := by
        rw [ofSettings, allows.valid, allows.single]
        rfl
      rw [Nat.zero_mul]
      exact .opened opened
  | succ round before =>
      have acquired := allows.acquire_resting (round * pause)
      have lent := before.lent (Nat.le_add_right ..) (congrArg Acquisition.answer acquired)
      have back := lent.returned (Nat.le_refl _) (.inl rfl) false
      rw [acquired] at back
      rw [rounds, Nat.succ_mul]
      exact back

end Allows

/-- **Whatever the greatest lifetime, a connection of any age can be lent.**  It only has to come
back once in a while. -/
theorem Runs.outlives (valid : settings.validate = .ok ())
    (single : settings.minConnections = 1) (lives : settings.maxLifetime ≠ some 0)
    (idles : settings.idleTimeout ≠ some 0) (age : Nat) :
    ∃ events pool clock now connection, Runs settings events pool clock ∧ clock ≤ now ∧
      (pool.acquire now).answer = .ok connection ∧
      madeAt? connection.id (.lent now connection.id :: events) = some 0 ∧ age ≤ now := by
  have not_over {span : Option Nat} (positive : span ≠ some 0) : spanIsOver span 0 1 = false := by
    cases span with
    | none => rfl
    | some nanoseconds =>
        have nonzero : nanoseconds ≠ 0 := fun zero => positive (congrArg some zero)
        rw [spanIsOver_eq_false_iff]
        omega
  have allows : Allows settings 1 := ⟨valid, single, not_over lives, not_over idles⟩
  exact ⟨rounds 1 age, _, _, age * 1 + 1, _, allows.runs_rounds age, Nat.le_succ _,
    congrArg Acquisition.answer (allows.acquire_resting _), madeAt?_cons _ (madeAt?_rounds 1 age),
    by omega⟩

/-- Settings of a pool whose connections should not get older than two seconds. -/
def brief : PoolSettings :=
  { url := .memory "p", maxConnections := 2, maxLifetime := some (2 * second) }

theorem brief_allows : Allows brief 1200000000 := ⟨by decide, rfl, by decide, by decide⟩

/-- The connection is lent 1.2 seconds after it came back. -/
theorem Runs.brief_lent_in_time :
    ∃ made, madeAt? 1 (.lent 2400000000 1 :: rounds 1200000000 1) = some made ∧
      made ≤ 2400000000 ∧
      (2400000000 ≤ made + 2 * second ∨
        ∃ back, .returned back 1 ∈ rounds 1200000000 1 ∧ made ≤ back ∧ back ≤ 2400000000 ∧
          2400000000 ≤ back + 2 * second) :=
  Runs.lent_in_time (brief_allows.runs_rounds 1) rfl (by decide)
    (congrArg Acquisition.answer (brief_allows.acquire_resting _))

/-- The connection is lent 2.4 seconds after it was made. -/
theorem Runs.brief_outlived :
    brief.maxLifetime = some (2 * second) ∧
      Runs brief (rounds 1200000000 1) (resting brief 1200000000) 1200000000 ∧
      ∃ connection made,
        ((resting brief 1200000000).acquire 2400000000).answer = .ok connection ∧
        madeAt? connection.id (.lent 2400000000 connection.id :: rounds 1200000000 1) = some made ∧
        made + 2 * second < 2400000000 :=
  ⟨rfl, brief_allows.runs_rounds 1, _, 0,
    congrArg Acquisition.answer (brief_allows.acquire_resting _), rfl, by decide⟩

end EntityStore.Pool
