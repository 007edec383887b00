import EntityStore.Proofs.DeploymentStates

/-!
# Accounts of pools

The counter of a pool counts every connection that was made and not given up: those
that wait and those that are lent.  It is changed when a pool is opened, when
connections that waited too long are given up, when a new connection is lent, and when
one that was closed comes back, or comes back while the pool is busy.

The invariant relates a pool to the numbers of the connections that it has lent
(`Pool.Accounts`).  Each operation of a pool keeps it, and as the leases of a deployment
are all that is lent, it holds of all pools of a reachable deployment.
-/

set_option autoImplicit false

namespace EntityStore

/-! ## One pool -/

/-- Settings that were checked ask for no more connections than there may be. -/
theorem PoolSettings.minimum_le (settings : PoolSettings) (valid : settings.validate = .ok ()) :
    settings.minConnections ≤ settings.maxConnections := by
  rw [validate] at valid
  split at valid
  · cases valid
  · split at valid
    · cases valid
    · split at valid
      · cases valid
      · next fits => exact Nat.le_of_not_lt fits

namespace Pool

/-- The numbers of the connections that wait. -/
def waitingIds (pool : Pool) : List Nat := pool.waiting.map (·.connection.id)

/-- Whether the counter of a pool is right while the connections of some numbers are lent, and no
two connections have the same number. -/
structure Accounts (pool : Pool) (lent : List Nat) : Prop where
  total : pool.total = (pool.waitingIds ++ lent).length
  bounded : pool.total ≤ pool.settings.maxConnections
  distinct : (pool.waitingIds ++ lent).Nodup
  numbered : ∀ id ∈ pool.waitingIds ++ lent, id < pool.nextId

namespace Accounts

variable {pool : Pool} {lent rest : List Nat}

/-- The connections that a pool has may wait or be lent. -/
theorem moved (accounts : pool.Accounts lent) {waiting : List WaitingConnection}
    (moved : (pool.waitingIds ++ lent).Perm (waiting.map (·.connection.id) ++ rest)) :
    Accounts { pool with waiting } rest where
  total := accounts.total.trans moved.length_eq
  bounded := accounts.bounded
  distinct := moved.nodup accounts.distinct
  numbered id member := accounts.numbered id (moved.mem_iff.mpr member)

theorem perm (accounts : pool.Accounts lent) (same : lent.Perm rest) : pool.Accounts rest :=
  accounts.moved (same.append_left _)

/-- A pool that was opened has lent nothing. -/
theorem ofSettings {settings : PoolSettings} {now : Nat}
    (opened : ofSettings settings now = .ok pool) : pool.Accounts [] := by
  obtain ⟨valid, rfl⟩ := ofSettings_eq_ok opened
  have ids : waitingIds (fill now ⟨settings, [], 0, 1⟩ settings.minConnections) ++ [] =
      List.range' 1 settings.minConnections := by
    simp [waitingIds, fill, newConnection, Function.comp_def]
  constructor
  case total => rw [ids, List.length_range', fill, Nat.zero_add]
  case bounded =>
    rw [fill, Nat.zero_add]
    exact settings.minimum_le valid
  case distinct =>
    rw [ids]
    exact List.nodup_range'
  case numbered =>
    rw [ids]
    exact fun id member => (List.mem_range'_1.mp member).2

/-- Connections that waited too long are taken off the counter. -/
theorem evict (accounts : pool.Accounts lent) (now : Nat) : (pool.evict now).Accounts lent := by
  have fewer : (pool.evict now).waiting.Sublist pool.waiting := List.filter_sublist
  have ids : ((pool.evict now).waitingIds ++ lent).Sublist (pool.waitingIds ++ lent) :=
    (fewer.map _).append_right lent
  have total : (pool.evict now).total =
      pool.total - (pool.waiting.length - (pool.evict now).waiting.length) := rfl
  constructor
  case total =>
    have before := accounts.total
    have length := fewer.length_le
    rw [List.length_append, waitingIds, List.length_map] at before ⊢
    omega
  case bounded =>
    rw [total]
    exact (Nat.sub_le ..).trans accounts.bounded
  case distinct => exact accounts.distinct.sublist ids
  case numbered => exact fun id member => accounts.numbered id (ids.subset member)

/-- The connection that is first in line is lent. -/
theorem lend (accounts : pool.Accounts lent) {first : WaitingConnection}
    {others : List WaitingConnection} (waiting : pool.waiting = first :: others) :
    Accounts { pool with waiting := others } (lent ++ [first.connection.id]) := by
  refine accounts.moved ?_
  rw [waitingIds, waiting, ← List.append_assoc]
  exact (List.perm_append_singleton _ _).symm

/-- A new connection is lent. -/
theorem create (accounts : pool.Accounts lent) (room : pool.total < pool.settings.maxConnections) :
    pool.create.2.Accounts (lent ++ [pool.create.1.id]) := by
  have moved : (pool.nextId :: (pool.waitingIds ++ lent)).Perm
      (pool.create.2.waitingIds ++ (lent ++ [pool.create.1.id])) := by
    rw [← List.append_assoc]
    exact (List.perm_append_singleton _ _).symm
  have fresh : pool.nextId ∉ pool.waitingIds ++ lent :=
    fun member => Nat.lt_irrefl _ (accounts.numbered _ member)
  constructor
  case total => exact (congrArg (· + 1) accounts.total).trans moved.length_eq
  case bounded => exact room
  case distinct => exact moved.nodup (List.nodup_cons.mpr ⟨fresh, accounts.distinct⟩)
  case numbered =>
    intro id member
    rcases List.mem_cons.mp (moved.mem_iff.mpr member) with rfl | before
    · exact Nat.lt_succ_self _
    · exact Nat.lt_succ_of_lt (accounts.numbered id before)

/-- A connection is lent exactly when fewer are lent than there may be. -/
theorem acquire (accounts : pool.Accounts lent) (now : Nat) :
    match (pool.acquire now).answer with
    | .ok connection => lent.length < pool.settings.maxConnections ∧
        (pool.acquire now).pool.Accounts (lent ++ [connection.id])
    | .error _ => ¬ lent.length < pool.settings.maxConnections ∧
        (pool.acquire now).pool.Accounts lent := by
  have kept := accounts.evict now
  have total := kept.total
  rw [waitingIds] at total
  rcases pool.acquire_cases now with
    ⟨first, others, waiting, acquired⟩ | ⟨waiting, room, acquired⟩ |
      ⟨waiting, full, fault, acquired⟩
  · rw [acquired]
    have bounded : (pool.evict now).total ≤ pool.settings.maxConnections := kept.bounded
    rw [waiting, List.map_cons, List.cons_append, List.length_cons, List.length_append] at total
    exact ⟨by omega, kept.lend waiting⟩
  · rw [acquired]
    rw [waiting, List.map_nil, List.nil_append] at total
    exact ⟨total ▸ room, kept.create room⟩
  · rw [acquired]
    rw [waiting, List.map_nil, List.nil_append] at total
    exact ⟨total ▸ full, kept⟩

/-- A connection that was lent comes back, and waits or is given up. -/
theorem takeBack {connection : Connection} (accounts : pool.Accounts (connection.id :: rest))
    (now : Nat) (busy : Bool) : (pool.takeBack now busy connection).Accounts rest := by
  rcases pool.takeBack_cases now busy connection with ⟨-, taken⟩ | taken
  all_goals rw [taken]
  · refine accounts.moved ?_
    rw [List.map_append, List.append_assoc, ← connection.handedBack_id]
    exact .refl _
  · have fewer : (pool.waitingIds ++ rest).Sublist (pool.waitingIds ++ connection.id :: rest) :=
      (List.sublist_cons_self ..).append_left _
    constructor
    case total =>
      have before := accounts.total
      rw [List.length_append, List.length_cons] at before
      rw [before]
      exact List.length_append.symm
    case bounded => exact (Nat.sub_le ..).trans accounts.bounded
    case distinct => exact accounts.distinct.sublist fewer
    case numbered => exact fun id member => accounts.numbered id (fewer.subset member)

end Accounts

end Pool

/-! ## What a pool has lent -/

/-- A list around one of its places. -/
theorem exists_around {α : Type} {items : List α} {place : Nat} {item : α}
    (found : items[place]? = some item) :
    ∃ before after, items = before ++ item :: after ∧
      (∀ other, items.set place other = before ++ other :: after) ∧
      ∀ change : α → α, items.modify place change = before ++ change item :: after := by
  obtain ⟨inside, rfl⟩ := List.getElem?_eq_some_iff.mp found
  refine ⟨items.take place, items.drop (place + 1), ?_, fun other => ?_, fun change => ?_⟩
  · rw [← List.drop_eq_getElem_cons inside, List.take_append_drop]
  · rw [List.set_eq_take_append_cons_drop, if_pos inside]
  · exact List.modify_eq_take_cons_drop inside

/-- The connection of a lease that is held, if it is one of a pool. -/
def Lease.of? (number : Nat) : Option Lease → Option Connection
  | some lent => if lent.pool = number then some lent.connection else none
  | none => none

/-- The connections of a pool among leases. -/
def Lease.allOf (number : Nat) (leases : List (Option Lease)) : List Connection :=
  leases.filterMap (Lease.of? number)

namespace Lease

variable {leases : List (Option Lease)} {lease number : Nat} {lent : Lease}

theorem allOf_around (number : Nat) (before after : List (Option Lease)) (lease : Option Lease) :
    allOf number (before ++ lease :: after) =
      allOf number before ++ ((of? number lease).toList ++ allOf number after) := by
  rw [allOf, List.filterMap_append, List.filterMap_cons]
  cases of? number lease <;> rfl

/-- A new lease is the last one of its pool. -/
theorem allOf_concat (leases : List (Option Lease)) (lent : Lease) :
    allOf lent.pool (leases ++ [some lent]) = allOf lent.pool leases ++ [lent.connection] := by
  rw [allOf_around, of?, if_pos rfl]
  rfl

theorem allOf_concat_of_ne (leases : List (Option Lease)) (other : lent.pool ≠ number) :
    allOf number (leases ++ [some lent]) = allOf number leases := by
  rw [allOf_around, of?, if_neg other]
  exact List.append_nil _

/-- A pool that no lease is of has lent nothing. -/
theorem allOf_eq_nil (others : ∀ lent, some lent ∈ leases → lent.pool ≠ number) :
    allOf number leases = [] := by
  refine List.filterMap_eq_nil_iff.mpr fun lease member => ?_
  cases lease with
  | none => rfl
  | some lent => exact if_neg (others lent member)

/-- Work with a connection leaves it lent, under the same number. -/
theorem ids_allOf_modify (held : leases[lease]? = some (some lent)) {connection : Connection}
    (same : connection.id = lent.connection.id) (number : Nat) :
    (allOf number (leases.modify lease
      (fun lease => lease.map (fun lease => { lease with connection })))).map Connection.id =
      (allOf number leases).map Connection.id := by
  obtain ⟨before, after, rfl, -, modified⟩ := exists_around held
  rw [modified, allOf_around, allOf_around, List.map_append, List.map_append, List.map_append,
    List.map_append]
  congr 2
  rw [Option.map_some, of?, of?]
  split
  · exact congrArg ([·]) same
  · rfl

/-- Giving up a lease takes its connection away from those of its pool. -/
theorem allOf_perm_of_held (held : leases[lease]? = some (some lent)) :
    (allOf lent.pool leases).Perm (lent.connection :: allOf lent.pool (leases.set lease none)) := by
  obtain ⟨before, after, rfl, given, -⟩ := exists_around held
  rw [given, allOf_around, allOf_around, of?, if_pos rfl]
  exact List.perm_middle

theorem allOf_set_of_ne (held : leases[lease]? = some (some lent)) (other : lent.pool ≠ number) :
    allOf number (leases.set lease none) = allOf number leases := by
  obtain ⟨before, after, rfl, given, -⟩ := exists_around held
  rw [given, allOf_around, allOf_around, of?, of?, if_neg other]

end Lease

/-! ## All pools of a deployment -/

namespace Deployment

variable {deployment later : Deployment} {number : Nat} {entry : PoolEntry}

/-- The connections that a pool has lent. -/
def lentFrom (deployment : Deployment) (number : Nat) : List Connection :=
  Lease.allOf number deployment.leases

/-- Whether the counters of all pools are right. -/
def Accounted (deployment : Deployment) : Prop :=
  ∀ ⦃number : Nat⦄ ⦃entry : PoolEntry⦄, deployment.pools[number]? = some entry →
    entry.pool.Accounts ((deployment.lentFrom number).map Connection.id)

namespace Accounted

/-- A pool may be replaced while what it has lent changes, and nothing else does. -/
theorem withPool (accounted : deployment.Accounted) {pool : Pool} {leases : List (Option Lease)}
    (accounts : pool.Accounts ((Lease.allOf number leases).map Connection.id))
    (elsewhere : ∀ other, number ≠ other →
      Lease.allOf other leases = Lease.allOf other deployment.leases) :
    Accounted { deployment.withPool number pool with leases } := by
  intro other changed found
  rw [Deployment.withPool, List.getElem?_modify] at found
  obtain ⟨before, foundBefore, rfl⟩ := Option.map_eq_some_iff.mp found
  by_cases same : number = other
  · subst same
    rw [if_pos rfl]
    exact accounts
  · rw [if_neg same, lentFrom, elsewhere other same]
    exact accounted foundBefore

theorem opened (accounted : deployment.Accounted) (orderly : deployment.Orderly) {pool : Pool}
    (accounts : pool.Accounts []) (database : Nat) :
    Accounted { deployment with pools := deployment.pools ++ [⟨pool, database⟩] } := by
  intro other entry found
  rcases Nat.lt_or_ge other deployment.pools.length with before | behind
  · rw [List.getElem?_append_left before] at found
    exact accounted found
  · have none : Lease.allOf other deployment.leases = [] :=
      Lease.allOf_eq_nil fun lent member =>
        Nat.ne_of_lt ((orderly.leases lent member).1.trans_le behind)
    rw [List.getElem?_append_right behind, List.getElem?_singleton] at found
    split at found
    · cases found
      rw [lentFrom, none]
      exact accounts
    · cases found

/-- Every change keeps the counters right. -/
theorem change (accounted : deployment.Accounted) (orderly : deployment.Orderly)
    (changes : deployment.Changes later) : later.Accounted := by
  cases changes with
  | elsewhere | joined | stored => exact accounted
  | opened made found => exact accounted.opened orderly (.ofSettings made) _
  | @refused number now entry fault pooled answer =>
      have acquired := (accounted pooled).acquire now
      rw [answer] at acquired
      exact accounted.withPool acquired.2 fun other different => rfl
  | @lent number now entry connection pooled answer =>
      have acquired := (accounted pooled).acquire now
      rw [answer] at acquired
      refine accounted.withPool ?_ fun other different => Lease.allOf_concat_of_ne _ different
      rw [Lease.allOf_concat _ ⟨connection, number⟩, List.map_append]
      exact acquired.2
  | @asked lease number lent database lends save request =>
      intro other entry found
      rw [lentFrom, withConnection, Lease.ids_allOf_modify lends.held (request.operate_id ..)]
      exact accounted found
  | @returned lease now lent entry held pooled busy =>
      have moved := (Lease.allOf_perm_of_held held).map Connection.id
      refine accounted.withPool ?_ fun other different => Lease.allOf_set_of_ne held different
      exact ((accounted pooled).perm moved).takeBack now busy

end Accounted

/-- A connection is lent exactly when fewer are lent than there may be. -/
theorem Accounted.acquire_iff (accounted : deployment.Accounted)
    (pooled : deployment.pools[number]? = some entry) :
    (∃ lease, ((acquire number).run deployment).1 = .ok lease) ↔
      (deployment.lentFrom number).length < entry.pool.settings.maxConnections := by
  have acquired := (accounted pooled).acquire (deployment.clock + 1)
  rw [List.length_map] at acquired
  rw [acquire_run pooled]
  dsimp only
  cases answer : (entry.pool.acquire (deployment.clock + 1)).answer with
  | error fault =>
      rw [answer] at acquired
      exact iff_of_false nofun acquired.1
  | ok connection =>
      rw [answer] at acquired
      exact iff_of_true ⟨_, rfl⟩ acquired.1

theorem Reachable.accounted (reachable : deployment.Reachable) : deployment.Accounted :=
  reachable.invariant (fun _ _ => nofun) fun _ _ orderly changes accounted =>
    accounted.change orderly changes

/-- Whether a pool with some settings is in order: it counts the connections that wait and those
that are lent, never more than it may have, and all under numbers of their own; what waits can be
used at once; and a request for a connection is granted exactly when fewer are lent than there may
be. -/
structure Balanced (deployment : Deployment) (number : Nat) (settings : PoolSettings)
    (pool : Pool) : Prop where
  total : pool.total = pool.waiting.length + (deployment.lentFrom number).length
  bounded : pool.total ≤ settings.maxConnections
  distinct : (pool.waiting.map (·.connection.id) ++
    (deployment.lentFrom number).map Connection.id).Nodup
  usable : ∀ waiting ∈ pool.waiting,
    waiting.connection.phase = .active ∧ waiting.connection.pending = []
  granted : (∃ lease, ((acquire number).run deployment).1 = .ok lease) ↔
    (deployment.lentFrom number).length < settings.maxConnections

theorem Reachable.balanced (reachable : deployment.Reachable)
    (pooled : deployment.pools[number]? = some entry) :
    deployment.Balanced number entry.pool.settings entry.pool := by
  have accounts := reachable.accounted pooled
  have idle := (reachable.orderly.pools entry (List.mem_of_getElem? pooled)).1
  constructor
  case total =>
    rw [accounts.total, List.length_append, Pool.waitingIds, List.length_map, List.length_map]
  case bounded => exact accounts.bounded
  case distinct => exact accounts.distinct
  case usable =>
    intro waiting member
    obtain ⟨phase, pending⟩ := idle waiting member
    exact ⟨phase, pending⟩
  case granted => exact reachable.accounted.acquire_iff pooled

/-- **Pools neither lose connections nor lend too many.**  A pool with valid settings can always be
opened, and whatever happens from then on, it stays in order. -/
theorem Reachable.pool_balanced {origin : Deployment} (reachable : origin.Reachable)
    {settings : PoolSettings} (valid : settings.validate = .ok ()) {base : Nat}
    {database : Database} (found : origin.databases[base]? = some database)
    (reaches : Reaches ((addPool settings base).run origin).2 deployment) :
    ∃ number entry, ((addPool settings base).run origin).1 = .ok number ∧
      deployment.pools[number]? = some entry ∧
      deployment.Balanced number settings entry.pool := by
  have opened : origin.Advances ((addPool settings base).run origin).2 := .pooled settings found
  obtain ⟨pool, made⟩ := Pool.exists_ofSettings valid (origin.clock + 1)
  have run := addPool_run settings base origin
  rw [made] at run
  have last : ((addPool settings base).run origin).2.pools[origin.pools.length]? =
      some ⟨pool, base⟩ := by
    rw [run]
    exact List.getElem?_concat_length
  obtain ⟨entry, pooled, same, -⟩ := Reaches.keepsPool reaches (reachable.advance opened) last
  obtain ⟨-, rfl⟩ := Pool.ofSettings_eq_ok made
  have balanced := ((reachable.advance opened).reach reaches).balanced pooled
  rw [same] at balanced
  exact ⟨_, entry, congrArg Prod.fst run, pooled, balanced⟩

end Deployment

/-! ## A pool of two connections -/

namespace Staff

/-- The deployment when two connections were lent, and a third was asked for in vain. -/
def exhausted : Deployment :=
  ((Deployment.acquire 0).run
    ((Deployment.acquire 0).run ((Deployment.acquire 0).run pooled).2).2).2

theorem pooled_reaches_exhausted : pooled.Reaches exhausted :=
  .tail (.tail (.single (.lent (rfl : pooled.pools[0]? = some _)))
      (.lent (rfl : ((Deployment.acquire 0).run pooled).2.pools[0]? = some _)))
    (.lent (rfl : ((Deployment.acquire 0).run
      ((Deployment.acquire 0).run pooled).2).2.pools[0]? = some _))

/-- The deployment when one of the two connections was closed and given back. -/
def relieved : Deployment :=
  ((Deployment.release 1).run ((Request.close.action 1).run exhausted).2).2

theorem exhausted_reaches_relieved : exhausted.Reaches relieved :=
  .tail (.single (.asked (rfl : exhausted.leases[1]? = some (some _)) .close))
    (.returned (rfl : ((Request.close.action 1).run exhausted).2.leases[1]? = some (some _)))

end Staff

namespace Deployment

/-- The pool is in order when it is exhausted, and when the closed connection was given back it
counts only the other one. -/
theorem staff_pool_balanced :
    Staff.settings.validate = .ok () ∧
    (∃ number entry, ((addPool Staff.settings 0).run Staff.founded).1 = .ok number ∧
      Staff.exhausted.pools[number]? = some entry ∧
      Staff.exhausted.Balanced number Staff.settings entry.pool) ∧
    (∃ number entry, ((addPool Staff.settings 0).run Staff.founded).1 = .ok number ∧
      Staff.relieved.pools[number]? = some entry ∧
      Staff.relieved.Balanced number Staff.settings entry.pool) ∧
    ((acquire 0).run Staff.exhausted).1.isOk = false ∧
    ((acquire 0).run Staff.relieved).1.isOk = true := by
  have valid : Staff.settings.validate = .ok () := by decide
  have found : Staff.founded.databases[0]? = some Staff.database := rfl
  exact ⟨valid,
    Staff.founded_reachable.pool_balanced valid found Staff.pooled_reaches_exhausted,
    Staff.founded_reachable.pool_balanced valid found
      (Staff.pooled_reaches_exhausted.trans Staff.exhausted_reaches_relieved),
    by decide, by decide⟩

end Deployment

end EntityStore
