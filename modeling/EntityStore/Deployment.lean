import EntityStore.Context
import EntityStore.Registry
import EntityStore.Storage

/-!
# Deployments

A deployment is everything that shares one file tree and one clock: databases, the
pools of connections to them, the connections that are lent, key issuers and
registries.  Each is known by its number, which never changes, and every operation
is one step: it takes what it works on out of the deployment, works on it, and puts
it back.

An `Action` is a step or a series of steps.  One that fails keeps what it had done to
the deployment before it failed.
-/

set_option autoImplicit false

namespace EntityStore

/-! ## What a deployment holds -/

/-- A pool and the number of the database behind it. -/
structure PoolEntry where
  pool : Pool
  database : Nat

/-- A lent connection and the number of its pool. -/
structure Lease where
  connection : Connection
  pool : Nat

/-- All that data contexts are made from: a pool, a catalog, and a key issuer. -/
structure ContextFactory where
  pool : Nat
  catalog : Catalog
  issuer : Nat

/-- A registry, the number of its key issuer, and the factory it has made since it was bound. -/
structure RegistryEntry where
  registry : Registry
  issuer : Nat
  factory : Option ContextFactory := none

/-- A data context: the number of its lease, its catalog, and the number of its key issuer. -/
structure DataContext where
  lease : Nat
  catalog : Catalog
  issuer : Nat

/-- Everything that shares one file tree and one clock. -/
structure Deployment where
  files : FileTree
  origin : Timestamp
  clock : Nat := 0
  databases : List Database := []
  pools : List PoolEntry := []
  issuers : List KeyIssuer := []
  registries : List RegistryEntry := []
  leases : List (Option Lease) := []

/-- Steps of a deployment that answer something or fail. -/
abbrev Action (α : Type) := ExceptT Fault (StateM Deployment) α

namespace Deployment

/-- The moment that the clock shows. -/
def moment (deployment : Deployment) : Timestamp :=
  let nanoseconds := deployment.origin.nanoseconds + deployment.clock
  { seconds := deployment.origin.seconds + nanoseconds / 1000000000
    nanoseconds := nanoseconds % 1000000000 }

/-- Lets the clock move on, and answers the time. -/
def tick : Action Nat := do
  modify fun deployment => { deployment with clock := deployment.clock + 1 }
  return (← get).clock

/-- Lets the clock move on to a time. -/
def passUntil (time : Nat) : Action Unit :=
  modify fun deployment => { deployment with clock := max deployment.clock time }

/-- What is known by a number. -/
def known {α : Type} (things : Deployment → List α) (number : Nat) : Action α := do
  match (things (← get))[number]? with
  | some thing => return thing
  | none => throw .notInitialized

/-! ## Databases -/

/-- Takes up a database, and answers its number. -/
def addDatabase (database : Database) : Action Nat := do
  let number := (← get).databases.length
  modify fun deployment =>
    { deployment with databases := deployment.databases ++ [database] }
  return number

/-- Works on a database. -/
def onDatabase {α : Type} (number : Nat)
    (operate : Saver FileTree → Database → FileTree → Outcome FileTree α) : Action α := do
  let database ← known Deployment.databases number
  let deployment ← get
  let outcome := operate (database.saver deployment.moment) database deployment.files
  set { deployment with
    databases := deployment.databases.set number outcome.database
    files := outcome.medium }
  match outcome.answer with
  | .ok answer => return answer
  | .error fault => throw fault

/-- Opens the database of a URL. -/
def openDatabase (url : StorageUrl) : Action Nat := do
  match url with
  | .memory name => addDatabase (.inMemory name)
  | .file directory =>
      let (opened, files) := Database.openDirectory directory (← get).files
      modify fun deployment => { deployment with files }
      match opened with
      | .ok database => addDatabase database
      | .error fault => throw fault

/-! ## Pools -/

/-- Takes up a pool of connections to a database, and answers its number. -/
def addPool (settings : PoolSettings) (database : Nat) : Action Nat := do
  match Pool.ofSettings settings (← tick) with
  | .error fault => throw fault
  | .ok pool =>
      let number := (← get).pools.length
      modify fun deployment =>
        { deployment with pools := deployment.pools ++ [⟨pool, database⟩] }
      return number

/-- Opens a database and pools connections to it. -/
def openPool (settings : PoolSettings) : Action Nat := do
  match settings.validate with
  | .error fault => throw (.config (.badSettings fault))
  | .ok () => addPool settings (← openDatabase settings.url)

/-- Pools connections to the database of another pool. -/
def sharePool (settings : PoolSettings) (other : Nat) : Action Nat := do
  addPool settings (← known Deployment.pools other).database

/-- Puts a pool back. -/
def setPool (number : Nat) (pool : Pool) : Action Unit :=
  modify fun deployment =>
    { deployment with
      pools := deployment.pools.modify number (fun entry => { entry with pool }) }

/-- The numbers of a pool. -/
def stats (number : Nat) : Action PoolStats := do
  return (← known Deployment.pools number).pool.stats

/-! ## Lent connections -/

/-- Lends a connection of a pool, and answers the number of the lease. -/
def acquire (number : Nat) : Action Nat := do
  let entry ← known Deployment.pools number
  let acquisition := entry.pool.acquire (← tick)
  setPool number acquisition.pool
  passUntil acquisition.time
  match acquisition.answer with
  | .error fault => throw fault
  | .ok connection =>
      let lease := (← get).leases.length
      modify fun deployment =>
        { deployment with leases := deployment.leases ++ [some ⟨connection, number⟩] }
      return lease

/-- A lease that was not given back. -/
def held (number : Nat) : Action Lease := do
  match (← get).leases[number]? with
  | some (some lease) => return lease
  | _ => throw (.execution .connectionReturned)

/-- Gives a connection back to its pool. -/
def release (number : Nat) : Action Unit := do
  let lease ← held number
  let entry ← known Deployment.pools lease.pool
  setPool lease.pool (entry.pool.takeBack (← tick) false lease.connection)
  modify fun deployment => { deployment with leases := deployment.leases.set number none }

/-- Puts a lent connection back into its lease. -/
def setConnection (number : Nat) (connection : Connection) : Action Unit :=
  modify fun deployment =>
    { deployment with
      leases := deployment.leases.modify number
        (fun lease => lease.map (fun lease => { lease with connection })) }

/-- Works with a lent connection on its database. -/
def onConnection {α : Type} (number : Nat)
    (operate : Saver FileTree → Connection → Database → FileTree →
      Connection × Outcome FileTree α) : Action α := do
  let lease ← held number
  let entry ← known Deployment.pools lease.pool
  let database ← known Deployment.databases entry.database
  let deployment ← get
  let (connection, outcome) :=
    operate (database.saver deployment.moment) lease.connection database deployment.files
  set { deployment with
    databases := deployment.databases.set entry.database outcome.database
    files := outcome.medium }
  setConnection number connection
  match outcome.answer with
  | .ok answer => return answer
  | .error fault => throw fault

/-- Reads through a lent connection. -/
def readConnection {α : Type} (number : Nat)
    (read : Connection → Database → Except Fault α) : Action α :=
  onConnection number fun _ connection database files =>
    (connection, ⟨read connection database, database, files⟩)

/-- Changes a lent connection without touching the database. -/
def changeConnection (number : Nat) (change : Connection → Except Fault Connection) :
    Action Unit :=
  onConnection number fun _ connection database files =>
    match change connection with
    | .ok connection => (connection, ⟨.ok (), database, files⟩)
    | .error fault => (connection, ⟨.error fault, database, files⟩)

/-! ## Registries -/

/-- Takes up a registry with a key issuer of its own, and answers its number. -/
def addRegistry (catalog : Catalog) (issuer : KeyIssuer) : Action Nat := do
  let deployment ← get
  let entry : RegistryEntry :=
    { registry := { catalog, strategy := issuer.strategy }, issuer := deployment.issuers.length }
  set { deployment with
    issuers := deployment.issuers ++ [issuer]
    registries := deployment.registries ++ [entry] }
  return deployment.registries.length

/-- Puts a registry back. -/
def setRegistry (number : Nat) (entry : RegistryEntry) : Action Unit :=
  modify fun deployment =>
    { deployment with registries := deployment.registries.set number entry }

/-- Binds a registry to a pool, and answers the factory of its data contexts. -/
def bindRegistry (number poolNumber : Nat) : Action ContextFactory := do
  let entry ← known Deployment.registries number
  let pooled ← known Deployment.pools poolNumber
  let database ← known Deployment.databases pooled.database
  let now ← tick
  let deployment ← get
  let binding := entry.registry.bind (database.saver deployment.moment) now pooled.pool database
    deployment.files
  set { deployment with
    databases := deployment.databases.set pooled.database binding.database
    files := binding.medium }
  setPool poolNumber binding.pool
  passUntil binding.time
  match binding.answer with
  | .error fault => throw fault
  | .ok () =>
      let factory : ContextFactory :=
        { pool := poolNumber, catalog := entry.registry.catalog, issuer := entry.issuer }
      setRegistry number { entry with registry := binding.registry, factory := some factory }
      return factory

/-- The factory of a registry that is bound. -/
def factory (number : Nat) : Action ContextFactory := do
  match (← known Deployment.registries number).factory with
  | some factory => return factory
  | none => throw .notInitialized

/-- Tears a registry down.  Data contexts that were made stay as they are. -/
def tearDown (number : Nat) : Action Unit := do
  let entry ← known Deployment.registries number
  match entry.registry.tearDown with
  | .ok registry => setRegistry number { entry with registry, factory := none }
  | .error fault => throw fault

/-! ## Data contexts -/

/-- Makes a data context over a connection of its own. -/
def openContext (factory : ContextFactory) : Action DataContext := do
  return { lease := ← acquire factory.pool, catalog := factory.catalog, issuer := factory.issuer }

/-- Gives the connection of a data context back. -/
def closeContext (context : DataContext) : Action Unit := release context.lease

/-- Works with a data context. -/
def onContext {α : Type} (context : DataContext)
    (operate : Saver FileTree → WorkUnit FileTree → Except Fault α × WorkUnit FileTree) :
    Action α := do
  let issuer ← known Deployment.issuers context.issuer
  let (answer, issuer) ← onConnection context.lease fun save connection database medium =>
    let (answer, work) := operate save
      { catalog := context.catalog, connection, issuer, database, medium }
    (work.connection, ⟨.ok (answer, work.issuer), work.database, work.medium⟩)
  modify fun deployment =>
    { deployment with issuers := deployment.issuers.set context.issuer issuer }
  match answer with
  | .ok answer => return answer
  | .error fault => throw fault

/-- Reads with a data context. -/
def readContext {α : Type} (context : DataContext)
    (read : WorkUnit FileTree → Except Fault α) : Action α :=
  onContext context fun _ work => (read work, work)

/-- Saves an entity with a data context, and answers the entity as it is afterwards together with
what became of it. -/
def saveEntity {ε : Type} (context : DataContext) (kind : EntityType ε) (entity : ε) :
    Action (Except Fault Unit × ε) :=
  onContext context fun save work =>
    let (answer, work) := work.save save kind entity
    (.ok answer, work)

end Deployment

end EntityStore
