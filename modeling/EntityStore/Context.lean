import EntityStore.Entity.Catalog
import EntityStore.Entity.Type
import EntityStore.Connection
import EntityStore.Query.Selection

/-!
# Data contexts

A data context keeps entities of the types of a catalog over one connection.  What
it works on is a `WorkUnit`: the catalog, the connection, the issuer of keys, the
database and the medium of its image.

Saving decides by the key.  An entity without one gets the next key of the issuer
and is inserted; an entity with one keeps it, and its row is updated when the
context sees one under that key and inserted otherwise.  The key stays with the
entity even when the write is refused.
-/

set_option autoImplicit false

namespace EntityStore

/-- All that a data context works on. -/
structure WorkUnit (σ : Type) where
  catalog : Catalog
  connection : Connection
  issuer : KeyIssuer
  database : Database
  medium : σ

namespace WorkUnit

variable {σ ε α : Type}

/-! ## Running on the connection -/

/-- Issues a write through the connection. -/
def execute (save : Saver σ) (next : Write) (work : WorkUnit σ) :
    Except Fault Unit × WorkUnit σ :=
  let (connection, outcome) :=
    work.connection.execute save next work.database work.medium
  (outcome.answer,
    { work with connection, database := outcome.database, medium := outcome.medium })

/-- Opens a transaction. -/
def begin (work : WorkUnit σ) : Except Fault Unit × WorkUnit σ :=
  match work.connection.begin with
  | .ok connection => (.ok (), { work with connection })
  | .error fault => (.error fault, work)

/-- Applies the writes of the transaction. -/
def commit (save : Saver σ) (work : WorkUnit σ) : Except Fault Unit × WorkUnit σ :=
  let (connection, outcome) := work.connection.commit save work.database work.medium
  (outcome.answer,
    { work with connection, database := outcome.database, medium := outcome.medium })

/-- Forgets the writes of the transaction. -/
def rollback (work : WorkUnit σ) : Except Fault Unit × WorkUnit σ :=
  match work.connection.rollback with
  | .ok connection => (.ok (), { work with connection })
  | .error fault => (.error fault, work)

/-! ## Reading -/

/-- Refuses an entity type that is not in the catalog. -/
def checkType (work : WorkUnit σ) (kind : EntityType ε) : Except Fault Unit :=
  if work.catalog.contains kind.mapping then .ok ()
  else .error (.unknownEntity kind.mapping.entity)

/-- The entity under a key, if there is one. -/
def find (work : WorkUnit σ) (kind : EntityType ε) (id : String) : Except Fault (Option ε) := do
  work.checkType kind
  match ← work.connection.get work.database kind.mapping.table id with
  | some row => return some (← kind.ofRow row)
  | none => return none

/-- The entity under a key. -/
def get (work : WorkUnit σ) (kind : EntityType ε) (id : String) : Except Fault ε := do
  match ← work.find kind id with
  | some entity => return entity
  | none => .error (.notFound kind.mapping.table id)

/-- The entity that a reference names. -/
def resolve (work : WorkUnit σ) (kind : EntityType ε) (reference : EntityRef ε) :
    Except Fault ε :=
  work.get kind reference.id

/-- The entities that a criteria asks for. -/
def query (work : WorkUnit σ) (kind : EntityType ε) (criteria : Criteria) :
    Except Fault (List ε) := do
  work.checkType kind
  let rows ← work.connection.scan work.database kind.mapping.table
  (← criteria.apply kind.mapping rows).mapM kind.ofRow

/-- The entity that a criteria asks for, of which there may be one at most. -/
def queryOne (work : WorkUnit σ) (kind : EntityType ε) (criteria : Criteria) :
    Except Fault (Option ε) := do
  match ← work.query kind criteria with
  | [] => return none
  | [entity] => return some entity
  | entities => .error (.execution (.manyMatches kind.mapping.entity entities.length))

/-- The result of a selection over the entities of a type. -/
def select (work : WorkUnit σ) (kind : EntityType ε) (selection : Selection) :
    Except Fault (List Row) := do
  work.checkType kind
  let rows ← work.connection.scan work.database kind.mapping.table
  selection.apply kind.mapping rows

/-! ## Writing -/

/-- Whether saving an entity that has a key replaces a row: whether the context sees one. -/
def isStored (work : WorkUnit σ) (kind : EntityType ε) (id : String) : Except Fault Bool := do
  return (← work.connection.get work.database kind.mapping.table id).isSome

/-- Saves an entity, and answers it as it is afterwards. -/
def save (saver : Saver σ) (kind : EntityType ε) (entity : ε) (work : WorkUnit σ) :
    (Except Fault Unit × ε) × WorkUnit σ :=
  match work.checkType kind with
  | .error fault => ((.error fault, entity), work)
  | .ok () =>
      let table := kind.mapping.table
      match kind.id? entity with
      | none =>
          let (key, issuer) := work.issuer.next
          let entity := kind.withId key entity
          let (answer, work) :=
            { work with issuer }.execute saver (.insert table (kind.toRow entity))
          ((answer, entity), work)
      | some id =>
          match work.isStored kind id with
          | .error fault => ((.error fault, entity), work)
          | .ok stored =>
              let row := kind.toRow entity
              let (answer, work) := work.execute saver
                (if stored then .update table id row else .insert table row)
              ((answer, entity), work)

/-- Deletes the row of an entity. -/
def delete (saver : Saver σ) (kind : EntityType ε) (entity : ε) (work : WorkUnit σ) :
    Except Fault Unit × WorkUnit σ :=
  match work.checkType kind with
  | .error fault => (.error fault, work)
  | .ok () =>
      match kind.id? entity with
      | none => (.error (.invalidIdentifier (.unsaved kind.mapping.entity)), work)
      | some id => work.execute saver (.delete kind.mapping.table id)

end WorkUnit

end EntityStore
