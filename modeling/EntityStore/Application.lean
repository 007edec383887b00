import EntityStore.Deployment
import EntityStore.Model

/-!
# Applications

An application is started from its settings: it opens its pool, binds a registry of
the model's entity types to it, and hands out data contexts from then on.  Shutting
it down tears the registry down.
-/

set_option autoImplicit false

namespace EntityStore

/-- A started application: its settings, the numbers of its pool and its registry, and the factory
of its data contexts. -/
structure Application where
  settings : AppSettings
  pool : Nat
  registry : Nat
  factory : ContextFactory

namespace Application

/-- Starts an application. -/
def start (settings : AppSettings) (issuer : KeyIssuer) : Action Application := do
  let pool ← Deployment.openPool settings.poolSettings
  let registry ← Deployment.addRegistry Model.catalog issuer
  let factory ← Deployment.bindRegistry registry pool
  return { settings, pool, registry, factory }

/-- Where the application keeps its data. -/
def location (application : Application) : Action Location := do
  let entry ← Deployment.known Deployment.pools application.pool
  return (← Deployment.known Deployment.databases entry.database).location

/-- Shuts an application down. -/
def shutDown (application : Application) : Action Unit :=
  Deployment.tearDown application.registry

end Application

end EntityStore
