import EntityStore.Entity.Catalog
import EntityStore.Pool

/-!
# Registries

A registry binds a catalog and a key strategy to a pool, once.  It first checks that
the catalog fits the strategy, then that the pool can lend a connection, and then
makes sure that every table of the catalog is there.  When one of these steps fails
the registry stays as it was; the tables that were made before the failure stay too.

Torn down, a registry can be bound again.
-/

set_option autoImplicit false

namespace EntityStore

/-- A catalog, a key strategy, and whether they have been bound to a pool. -/
structure Registry where
  catalog : Catalog
  strategy : KeyStrategy
  ready : Bool := false
  deriving DecidableEq, Repr

/-- What binding a registry answers, what it leaves behind, and the time when it is over. -/
structure Binding (σ : Type) where
  answer : Except Fault Unit
  time : Nat
  registry : Registry
  pool : Pool
  database : Database
  medium : σ

namespace Registry

variable {σ : Type}

/-- Makes sure that the tables of mappings are there, in order, up to the first fault. -/
def ensureTables (save : Saver σ) (strategy : KeyStrategy) (database : Database) (medium : σ) :
    List EntityMapping → Outcome σ Unit
  | [] => ⟨.ok (), database, medium⟩
  | mapping :: mappings =>
      let ensured := database.ensureTable save (mapping.tableSchema strategy.name) medium
      match ensured.answer with
      | .ok _ => ensureTables save strategy ensured.database ensured.medium mappings
      | .error fault => ⟨.error fault, ensured.database, ensured.medium⟩

/-- Binds a registry to a pool and its database. -/
def bind (save : Saver σ) (now : Nat) (registry : Registry) (pool : Pool) (database : Database)
    (medium : σ) : Binding σ :=
  if registry.ready then ⟨.error .alreadyInitialized, now, registry, pool, database, medium⟩
  else
    match registry.catalog.validate registry.strategy with
    | .error fault => ⟨.error fault, now, registry, pool, database, medium⟩
    | .ok () =>
        let acquisition := pool.acquire now
        let time := acquisition.time
        match acquisition.answer with
        | .error fault => ⟨.error fault, time, registry, acquisition.pool, database, medium⟩
        | .ok probe =>
            let pool := acquisition.pool.takeBack time false probe
            let outcome :=
              ensureTables save registry.strategy database medium registry.catalog.mappings
            match outcome.answer with
            | .ok () =>
                ⟨.ok (), time, { registry with ready := true }, pool, outcome.database,
                  outcome.medium⟩
            | .error fault =>
                ⟨.error fault, time, registry, pool, outcome.database, outcome.medium⟩

/-- Refuses a registry that is not bound. -/
def checkReady (registry : Registry) : Except Fault Unit :=
  if registry.ready then .ok () else .error .notInitialized

/-- The registry when it is torn down. -/
def tearDown (registry : Registry) : Except Fault Registry := do
  registry.checkReady
  return { registry with ready := false }

end Registry

end EntityStore
