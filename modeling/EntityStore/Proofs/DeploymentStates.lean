import EntityStore.Proofs.ContextStates
import EntityStore.Proofs.Serializability

/-!
# Reachable deployments

A deployment is reachable when it comes from an empty one by taking up reachable
databases, by pooling connections to them, by making tables and writing to them
directly, and by lending connections, asking them and taking them back.  The files and
the clock may change in any way between two steps.

Each step comes down to a few changes of the databases, the pools and the leases
(`Deployment.Changes`), so that an invariant only has to be kept by these.  One is
shown here: every database stays reachable, every pool is idle, and every lent
connection has its pool, its database, and writes kept back only in a transaction
(`Deployment.Reachable.orderly`).
-/

set_option autoImplicit false

namespace EntityStore

/-! ## What a request leaves alone -/

namespace Request

variable {σ : Type}

/-- A request does not change the number of the connection. -/
theorem operate_id (save : Saver σ) (connection : Connection) (database : Database) (medium : σ)
    (request : Request) :
    (request.operate save connection database medium).1.id = connection.id := by
  cases request with
  | get | scan => rfl
  | execute next =>
      rw [operate, Connection.execute]
      split
      · rfl
      · rfl
      · split <;> rfl
  | commit =>
      rw [operate, Connection.commit]
      split <;> rfl
  | begin =>
      rw [operate, Connection.begin]
      split <;> rfl
  | rollback =>
      rw [operate, Connection.rollback]
      split <;> rfl
  | close =>
      rw [operate, changed, Connection.close]
      split <;> rfl

/-- A request is a step of the database, if anything, and what is kept back in addition has passed
the checks. -/
theorem operate_keeps (save : Saver σ) (connection : Connection) (database : Database)
    (medium : σ) (request : Request) :
    let worked := request.operate save connection database medium
    database.Evolves worked.2.database ∧
      ∀ kept ∈ worked.1.pending, kept ∈ connection.pending ∨
        Connection.checkWrite database kept = .ok () := by
  cases request with
  | get | scan => exact ⟨.refl, fun kept member => .inl member⟩
  | execute next =>
      obtain ⟨evolves, pending⟩ := connection.execute_keeps save next database medium
      refine ⟨evolves, fun kept member => ?_⟩
      rcases pending kept member with before | ⟨rfl, checked⟩
      · exact .inl before
      · exact .inr checked
  | commit =>
      obtain ⟨evolves, pending⟩ := connection.commit_keeps save database medium
      exact ⟨evolves, fun kept member => .inl (pending kept member)⟩
  | begin =>
      rw [operate, Connection.begin]
      split
      · exact ⟨.refl, fun kept member => .inl member⟩
      · exact ⟨.refl, fun kept member => .inl member⟩
      · exact ⟨.refl, fun kept member => .inl member⟩
  | rollback =>
      rw [operate, Connection.rollback]
      split
      · exact ⟨.refl, fun kept member => absurd member List.not_mem_nil⟩
      · exact ⟨.refl, fun kept member => .inl member⟩
  | close =>
      rw [operate, changed, Connection.close]
      split
      · exact ⟨.refl, fun kept member => absurd member List.not_mem_nil⟩
      · exact ⟨.refl, fun kept member => .inl member⟩

end Request

/-! ## What pools do -/

namespace Pool

variable {settings : PoolSettings} {now : Nat} {pool : Pool}

/-- Valid settings open a pool. -/
theorem exists_ofSettings (valid : settings.validate = .ok ()) (now : Nat) :
    ∃ pool, ofSettings settings now = .ok pool := by
  rw [ofSettings, valid]
  exact ⟨_, rfl⟩

theorem ofSettings_eq_ok (opened : ofSettings settings now = .ok pool) :
    settings.validate = .ok () ∧ pool = fill now ⟨settings, [], 0, 1⟩ settings.minConnections := by
  rw [ofSettings] at opened
  split at opened
  · cases opened
  · next valid =>
      cases opened
      exact ⟨valid, rfl⟩

/-- A pool that was opened waits with its first connections, which nobody has used. -/
theorem IsIdle.ofSettings (opened : ofSettings settings now = .ok pool) : pool.IsIdle := by
  obtain ⟨-, rfl⟩ := ofSettings_eq_ok opened
  intro waiting member
  rw [fill, List.nil_append] at member
  obtain ⟨id, -, rfl⟩ := List.mem_map.mp member
  exact ⟨rfl, rfl⟩

theorem acquire_settings (pool : Pool) (now : Nat) :
    (pool.acquire now).pool.settings = pool.settings := by
  rcases pool.acquire_cases now with
    ⟨_, _, -, acquired⟩ | ⟨-, -, acquired⟩ | ⟨-, -, _, acquired⟩
  all_goals
    rw [acquired]
    rfl

theorem takeBack_settings (pool : Pool) (now : Nat) (busy : Bool) (connection : Connection) :
    (pool.takeBack now busy connection).settings = pool.settings := by
  rcases pool.takeBack_cases now busy connection with ⟨-, taken⟩ | taken
  all_goals rw [taken]

end Pool

/-- What a list with one item changed holds. -/
theorem mem_modify_cases {α : Type} {items : List α} {place : Nat} {item other : α}
    {change : α → α} (held : items[place]? = some item)
    (member : other ∈ items.modify place change) : other = change item ∨ other ∈ items := by
  obtain ⟨otherPlace, found⟩ := List.mem_iff_getElem?.mp member
  rw [List.getElem?_modify] at found
  obtain ⟨before, beforeFound, rfl⟩ := Option.map_eq_some_iff.mp found
  by_cases same : place = otherPlace
  · subst same
    cases held.symm.trans beforeFound
    exact .inl (if_pos rfl)
  · rw [if_neg same]
    exact .inr (List.mem_of_getElem? beforeFound)

/-! ## Steps of a deployment -/

namespace Deployment

/-- One step of a deployment. -/
inductive Advances (deployment : Deployment) : Deployment → Prop where
  | joined {database : Database} (reachable : database.Reachable) :
      Advances deployment ((addDatabase database).run deployment).2
  | pooled (settings : PoolSettings) {number : Nat} {database : Database}
      (found : deployment.databases[number]? = some database) :
      Advances deployment ((addPool settings number).run deployment).2
  | created {number : Nat} {database : Database}
      (found : deployment.databases[number]? = some database) (schema : TableSchema) :
      Advances deployment ((createTable number schema).run deployment).2
  | ensured {number : Nat} {database : Database}
      (found : deployment.databases[number]? = some database) (schema : TableSchema) :
      Advances deployment ((ensureTable number schema).run deployment).2
  | written {number : Nat} {database : Database}
      (found : deployment.databases[number]? = some database) (writes : List Write) :
      Advances deployment ((applyWrites number writes).run deployment).2
  | lent {number : Nat} {entry : PoolEntry} (pooled : deployment.pools[number]? = some entry) :
      Advances deployment ((acquire number).run deployment).2
  | asked {lease : Nat} {lent : Lease} (held : deployment.leases[lease]? = some (some lent))
      (request : Request) : Advances deployment ((request.action lease).run deployment).2
  | returned {lease : Nat} {lent : Lease} (held : deployment.leases[lease]? = some (some lent)) :
      Advances deployment ((release lease).run deployment).2
  | dropped {lease : Nat} {lent : Lease} {entry : PoolEntry}
      (held : deployment.leases[lease]? = some (some lent))
      (pooled : deployment.pools[lent.pool]? = some entry) :
      Advances deployment (deployment.dropping lease lent.pool
        (entry.pool.takeBack deployment.clock true lent.connection))
  | disturbed (files : FileTree) (clock : Nat) :
      Advances deployment { deployment with files, clock }

/-- Any number of steps. -/
abbrev Reaches : Deployment → Deployment → Prop := Relation.ReflTransGen Advances

/-- Whether a deployment comes from one that holds nothing. -/
def Reachable (deployment : Deployment) : Prop :=
  ∃ files origin, Reaches { files, origin } deployment

/-! ## Changes of a deployment -/

/-- The deployment with another pool in the place of one. -/
def withPool (deployment : Deployment) (number : Nat) (pool : Pool) : Deployment :=
  { deployment with
    pools := deployment.pools.modify number (fun entry => { entry with pool }) }

/-- The deployment with another connection in a lease. -/
def withConnection (deployment : Deployment) (lease : Nat) (connection : Connection) :
    Deployment :=
  { deployment with
    leases := deployment.leases.modify lease
      (fun lease => lease.map (fun lease => { lease with connection })) }

/-- One change that a step makes to the databases, the pools or the leases. -/
inductive Changes (deployment : Deployment) : Deployment → Prop where
  | elsewhere (files : FileTree) (clock : Nat) :
      Changes deployment { deployment with files, clock }
  | joined {database : Database} (reachable : database.Reachable) :
      Changes deployment { deployment with databases := deployment.databases ++ [database] }
  | stored {number : Nat} {database later : Database}
      (found : deployment.databases[number]? = some database) (evolves : database.Evolves later) :
      Changes deployment { deployment with databases := deployment.databases.set number later }
  | opened {settings : PoolSettings} {now number : Nat} {pool : Pool} {database : Database}
      (made : Pool.ofSettings settings now = .ok pool)
      (found : deployment.databases[number]? = some database) :
      Changes deployment { deployment with pools := deployment.pools ++ [⟨pool, number⟩] }
  | refused {number now : Nat} {entry : PoolEntry} {fault : Fault}
      (pooled : deployment.pools[number]? = some entry)
      (answer : (entry.pool.acquire now).answer = .error fault) :
      Changes deployment (deployment.withPool number (entry.pool.acquire now).pool)
  | lent {number now : Nat} {entry : PoolEntry} {connection : Connection}
      (pooled : deployment.pools[number]? = some entry)
      (answer : (entry.pool.acquire now).answer = .ok connection) :
      Changes deployment { deployment.withPool number (entry.pool.acquire now).pool with
        leases := deployment.leases ++ [some ⟨connection, number⟩] }
  | asked {lease number : Nat} {lent : Lease} {database : Database}
      (lends : deployment.Lends lease number lent database) (save : Saver FileTree)
      (request : Request) :
      Changes deployment (deployment.withConnection lease
        (request.operate save lent.connection database deployment.files).1)
  | returned {lease now : Nat} {lent : Lease} {entry : PoolEntry}
      (held : deployment.leases[lease]? = some (some lent))
      (pooled : deployment.pools[lent.pool]? = some entry) (busy : Bool) :
      Changes deployment (deployment.dropping lease lent.pool
        (entry.pool.takeBack now busy lent.connection))

/-- Any number of changes. -/
abbrev Evolves : Deployment → Deployment → Prop := Relation.ReflTransGen Changes

/-! ## Orderly deployments -/

/-- Whether the parts of a deployment fit together. -/
structure Orderly (deployment : Deployment) : Prop where
  databases : ∀ database ∈ deployment.databases, database.Reachable
  pools : ∀ entry ∈ deployment.pools,
    entry.pool.IsIdle ∧ entry.database < deployment.databases.length
  leases : ∀ lent, some lent ∈ deployment.leases → lent.pool < deployment.pools.length ∧
    ∃ standing : Standing, standing.Describes lent.connection

namespace Orderly

variable {deployment later : Deployment} {number lease : Nat} {lent : Lease} {entry : PoolEntry}
  {database : Database} {pool : Pool} {connection : Connection}

theorem empty (files : FileTree) (origin : Timestamp) : Orderly { files, origin } where
  databases := nofun
  pools := nofun
  leases := nofun

/-- A held lease is one of a connection to a database that is there. -/
theorem lends (orderly : deployment.Orderly)
    (held : deployment.leases[lease]? = some (some lent)) :
    ∃ entry database, deployment.pools[lent.pool]? = some entry ∧
      deployment.Lends lease entry.database lent database := by
  obtain ⟨inside, -⟩ := orderly.leases lent (List.mem_of_getElem? held)
  have pooled := List.getElem?_eq_getElem inside
  obtain ⟨-, there⟩ := orderly.pools _ (List.getElem_mem inside)
  exact ⟨_, _, pooled, held, ⟨_, pooled, rfl⟩, List.getElem?_eq_getElem there⟩

theorem joined (orderly : deployment.Orderly) (reachable : database.Reachable) :
    Orderly { deployment with databases := deployment.databases ++ [database] } where
  databases := List.forall_mem_append.mpr
    ⟨orderly.databases, List.forall_mem_singleton.mpr reachable⟩
  pools entry member := by
    obtain ⟨idle, there⟩ := orderly.pools entry member
    refine ⟨idle, ?_⟩
    rw [List.length_append]
    exact Nat.lt_add_right _ there
  leases := orderly.leases

theorem stored (orderly : deployment.Orderly) (reachable : database.Reachable) :
    Orderly { deployment with databases := deployment.databases.set number database } where
  databases other member := by
    rcases List.mem_or_eq_of_mem_set member with before | rfl
    · exact orderly.databases other before
    · exact reachable
  pools entry member := by
    rw [List.length_set]
    exact orderly.pools entry member
  leases := orderly.leases

theorem opened (orderly : deployment.Orderly) (idle : pool.IsIdle)
    (there : number < deployment.databases.length) :
    Orderly { deployment with pools := deployment.pools ++ [⟨pool, number⟩] } where
  databases := orderly.databases
  pools := List.forall_mem_append.mpr
    ⟨orderly.pools, List.forall_mem_singleton.mpr ⟨idle, there⟩⟩
  leases lent member := by
    obtain ⟨inside, described⟩ := orderly.leases lent member
    refine ⟨?_, described⟩
    rw [List.length_append]
    exact Nat.lt_add_right _ inside

theorem withPool (orderly : deployment.Orderly) (pooled : deployment.pools[number]? = some entry)
    (idle : pool.IsIdle) : (deployment.withPool number pool).Orderly where
  databases := orderly.databases
  pools other member := by
    rcases mem_modify_cases pooled member with rfl | before
    · exact ⟨idle, (orderly.pools entry (List.mem_of_getElem? pooled)).2⟩
    · exact orderly.pools other before
  leases lent member := by
    rw [Deployment.withPool, List.length_modify]
    exact orderly.leases lent member

theorem lending (orderly : deployment.Orderly) (inside : lent.pool < deployment.pools.length)
    {standing : Standing} (described : standing.Describes lent.connection) :
    Orderly { deployment with leases := deployment.leases ++ [some lent] } where
  databases := orderly.databases
  pools := orderly.pools
  leases other member := by
    rcases List.mem_append.mp member with before | last
    · exact orderly.leases other before
    · cases List.mem_singleton.mp last
      exact ⟨inside, standing, described⟩

theorem withConnection (orderly : deployment.Orderly)
    (held : deployment.leases[lease]? = some (some lent)) {standing : Standing}
    (described : standing.Describes connection) :
    (deployment.withConnection lease connection).Orderly where
  databases := orderly.databases
  pools := orderly.pools
  leases other member := by
    rcases mem_modify_cases held member with same | before
    · cases same
      exact ⟨(orderly.leases lent (List.mem_of_getElem? held)).1, standing, described⟩
    · exact orderly.leases other before

theorem givingUp (orderly : deployment.Orderly) :
    Orderly { deployment with leases := deployment.leases.set lease none } where
  databases := orderly.databases
  pools := orderly.pools
  leases other member := by
    rcases List.mem_or_eq_of_mem_set member with before | impossible
    · exact orderly.leases other before
    · cases impossible

/-- Every change keeps a deployment orderly. -/
theorem change (orderly : deployment.Orderly) (changes : deployment.Changes later) :
    later.Orderly := by
  cases changes with
  | elsewhere files clock => exact ⟨orderly.databases, orderly.pools, orderly.leases⟩
  | joined reachable => exact orderly.joined reachable
  | stored found evolves =>
      exact orderly.stored ((orderly.databases _ (List.mem_of_getElem? found)).evolve evolves)
  | opened made found =>
      exact orderly.opened (Pool.IsIdle.ofSettings made) (List.getElem?_eq_some_iff.mp found).1
  | @refused number now entry fault pooled answer =>
      have idle := (orderly.pools entry (List.mem_of_getElem? pooled)).1
      exact orderly.withPool pooled (idle.acquire now).1
  | @lent number now entry connection pooled answer =>
      obtain ⟨still, outside⟩ :=
        (orderly.pools entry (List.mem_of_getElem? pooled)).1.acquire now
      refine (orderly.withPool pooled still).lending ?_ (outside connection answer)
      rw [Deployment.withPool, List.length_modify]
      exact (List.getElem?_eq_some_iff.mp pooled).1
  | @asked lease number lent database lends save request =>
      obtain ⟨-, standing, described⟩ := orderly.leases lent (List.mem_of_getElem? lends.held)
      exact orderly.withConnection lends.held (described.operate save database _ request)
  | @returned lease now lent entry held pooled busy =>
      obtain ⟨-, standing, described⟩ := orderly.leases lent (List.mem_of_getElem? held)
      have idle := (orderly.pools entry (List.mem_of_getElem? pooled)).1
      exact (orderly.withPool pooled (idle.takeBack described now busy)).givingUp

end Orderly

/-! ## From steps to changes -/

section Steps

variable {deployment later : Deployment} {number lease : Nat} {lent : Lease} {entry : PoolEntry}
  {database : Database}

theorem onDatabase_run {α : Type} (found : deployment.databases[number]? = some database)
    (operate : Saver FileTree → Database → FileTree → Outcome FileTree α) :
    (onDatabase number operate).run deployment =
      let outcome := operate (database.saver deployment.moment) database deployment.files
      (outcome.answer,
        { deployment with
          databases := deployment.databases.set number outcome.database
          files := outcome.medium }) := by
  rw [onDatabase, run_bind, known_run found]
  dsimp only
  rw [run_get_bind]
  generalize operate (database.saver deployment.moment) database deployment.files = outcome
  cases answered : outcome.answer
  · rfl
  · rfl

theorem addPool_run (settings : PoolSettings) (number : Nat) (deployment : Deployment) :
    (addPool settings number).run deployment =
      match Pool.ofSettings settings (deployment.clock + 1) with
      | .error fault => (.error fault, { deployment with clock := deployment.clock + 1 })
      | .ok pool =>
          (.ok deployment.pools.length,
            { deployment with
              clock := deployment.clock + 1
              pools := deployment.pools ++ [⟨pool, number⟩] }) := by
  rw [addPool, run_bind, tick_run]
  dsimp only
  cases Pool.ofSettings settings (deployment.clock + 1) with
  | error fault => rfl
  | ok pool => rfl

/-- Work on a database is a change of it. -/
theorem onDatabase_evolves {α : Type} (found : deployment.databases[number]? = some database)
    {operate : Saver FileTree → Database → FileTree → Outcome FileTree α}
    (evolves : ∀ save files, database.Evolves (operate save database files).database) :
    deployment.Evolves ((onDatabase number operate).run deployment).2 := by
  rw [onDatabase_run found]
  exact .tail (.single (.stored found (evolves ..))) (.elsewhere _ deployment.clock)

/-- **A step of an orderly deployment comes down to changes.** -/
theorem Advances.evolves (orderly : deployment.Orderly) (advances : deployment.Advances later) :
    deployment.Evolves later := by
  cases advances with
  | joined reachable => exact .single (.joined reachable)
  | @pooled settings number database found =>
      rw [addPool_run]
      cases made : Pool.ofSettings settings (deployment.clock + 1) with
      | error fault => exact .single (.elsewhere deployment.files _)
      | ok pool => exact .tail (.single (.opened made found)) (.elsewhere deployment.files _)
  | created found schema =>
      exact onDatabase_evolves found fun save files => .single (.create save schema files)
  | ensured found schema =>
      exact onDatabase_evolves found fun save files => .single (.ensure save schema files)
  | written found writes =>
      exact onDatabase_evolves found fun save files => .single (.apply save writes files)
  | @lent number entry pooled =>
      rw [acquire_run pooled]
      dsimp only
      cases answer : (entry.pool.acquire (deployment.clock + 1)).answer with
      | error fault =>
          exact .tail (.single (.refused pooled answer)) (.elsewhere deployment.files _)
      | ok connection =>
          exact .tail (.single (.lent pooled answer)) (.elsewhere deployment.files _)
  | @asked lease lent held request =>
      obtain ⟨entry, database, pooled, lends⟩ := orderly.lends held
      rw [action_run lends]
      dsimp only
      have kept := (request.operate_keeps (database.saver deployment.moment) lent.connection
        database deployment.files).1
      have asked := Changes.asked lends (database.saver deployment.moment) request
      generalize request.operate (database.saver deployment.moment) lent.connection database
        deployment.files = worked at kept asked
      have stored : (deployment.withConnection lease worked.1).Changes _ := .stored lends.found kept
      exact ((Relation.ReflTransGen.single asked).tail stored).tail (.elsewhere _ deployment.clock)
  | @returned lease lent held =>
      obtain ⟨entry, database, pooled, lends⟩ := orderly.lends held
      rw [release_run held pooled]
      exact .tail (.single (.returned held pooled false)) (.elsewhere deployment.files _)
  | dropped held pooled => exact .single (.returned held pooled true)
  | disturbed files clock => exact .single (.elsewhere files clock)

theorem Evolves.orderly (evolves : deployment.Evolves later) (orderly : deployment.Orderly) :
    later.Orderly := by
  induction evolves with
  | refl => exact orderly
  | tail _ changes ih => exact ih.change changes

/-! ## Invariants -/

namespace Reachable

theorem reach (reachable : deployment.Reachable) (reaches : deployment.Reaches later) :
    later.Reachable := by
  obtain ⟨files, origin, steps⟩ := reachable
  exact ⟨files, origin, steps.trans reaches⟩

theorem advance (reachable : deployment.Reachable) (advances : deployment.Advances later) :
    later.Reachable :=
  reachable.reach (.single advances)

theorem orderly (reachable : deployment.Reachable) : deployment.Orderly := by
  obtain ⟨files, origin, steps⟩ := reachable
  induction steps with
  | refl => exact .empty files origin
  | tail _ advances ih => exact (advances.evolves ih).orderly ih

/-- **What is true of the empty deployments and kept by every change is true of all reachable
ones.** -/
theorem invariant {holds : Deployment → Prop} (reachable : deployment.Reachable)
    (initially : ∀ files origin, holds { files, origin })
    (kept : ∀ ⦃earlier next : Deployment⦄, earlier.Orderly → earlier.Changes next →
      holds earlier → holds next) : holds deployment := by
  obtain ⟨files, origin, steps⟩ := reachable
  suffices both : deployment.Orderly ∧ holds deployment from both.2
  induction steps with
  | refl => exact ⟨.empty files origin, initially files origin⟩
  | tail _ advances ih =>
      have evolves := advances.evolves ih.1
      clear advances
      induction evolves with
      | refl => exact ih
      | tail _ changes both => exact ⟨both.1.change changes, kept both.1 changes both.2⟩

end Reachable

/-! ## What stays of a pool -/

/-- A pool stays where it is, with its settings and its database. -/
def KeepsPool (number : Nat) (entry : PoolEntry) (deployment : Deployment) : Prop :=
  ∃ kept, deployment.pools[number]? = some kept ∧ kept.pool.settings = entry.pool.settings ∧
    kept.database = entry.database

theorem KeepsPool.withPool {other : Nat} {otherEntry : PoolEntry} {pool : Pool}
    (keeps : KeepsPool number entry deployment)
    (pooled : deployment.pools[other]? = some otherEntry)
    (settings : pool.settings = otherEntry.pool.settings) :
    KeepsPool number entry (deployment.withPool other pool) := by
  obtain ⟨kept, found, same⟩ := keeps
  rw [KeepsPool, Deployment.withPool, List.getElem?_modify, found]
  refine ⟨_, rfl, ?_⟩
  split
  · next here =>
      subst here
      cases pooled.symm.trans found
      exact ⟨settings.trans same.1, same.2⟩
  · exact same

theorem Changes.keepsPool (changes : deployment.Changes later)
    (keeps : KeepsPool number entry deployment) : KeepsPool number entry later := by
  cases changes with
  | elsewhere | joined | stored | asked => exact keeps
  | opened made found =>
      obtain ⟨kept, found, same⟩ := keeps
      exact ⟨kept, List.getElem?_append_left (List.getElem?_eq_some_iff.mp found).1 ▸ found, same⟩
  | refused pooled answer => exact keeps.withPool pooled (Pool.acquire_settings ..)
  | lent pooled answer => exact keeps.withPool pooled (Pool.acquire_settings ..)
  | returned held pooled busy => exact keeps.withPool pooled (Pool.takeBack_settings ..)

/-- **A pool stays where it is, with its settings and its database.** -/
theorem Reaches.keepsPool (reaches : deployment.Reaches later) (reachable : deployment.Reachable)
    (pooled : deployment.pools[number]? = some entry) : KeepsPool number entry later := by
  induction reaches with
  | refl => exact ⟨entry, pooled, rfl, rfl⟩
  | tail before advances ih =>
      have evolves := advances.evolves (reachable.reach before).orderly
      clear advances
      induction evolves with
      | refl => exact ih
      | tail _ changes kept => exact changes.keepsPool kept

end Steps

end Deployment

/-! ## A small deployment -/

namespace Staff

/-- Settings that allow for two connections. -/
def settings : PoolSettings := { url := .memory "staff", maxConnections := 2 }

/-- The deployment that holds nothing but the database. -/
def founded : Deployment :=
  ((Deployment.addDatabase database).run { files := .empty, origin := ⟨0, 0⟩ }).2

/-- The deployment when the database was taken up and a pool with the settings was opened. -/
def pooled : Deployment := ((Deployment.addPool settings 0).run founded).2

theorem founded_reachable : founded.Reachable :=
  ⟨.empty, ⟨0, 0⟩, .single (.joined database_reachable)⟩

theorem pooled_reachable : pooled.Reachable :=
  founded_reachable.advance (.pooled settings (rfl : founded.databases[0]? = some database))

end Staff

end EntityStore
