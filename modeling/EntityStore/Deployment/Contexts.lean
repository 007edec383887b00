import EntityStore.Deployment

/-!
# Work with data contexts

What can be done with a data context.  Each is one step of the deployment that the
context belongs to.
-/

set_option autoImplicit false

namespace EntityStore.DataContext

variable {ε : Type}

/-! ## Reading -/

/-- The entity under a key, if there is one. -/
def find (context : DataContext) (kind : EntityType ε) (id : String) : Action (Option ε) :=
  Deployment.readContext context fun work => work.find kind id

/-- The entity under a key. -/
def get (context : DataContext) (kind : EntityType ε) (id : String) : Action ε :=
  Deployment.readContext context fun work => work.get kind id

/-- The entity that a reference names. -/
def resolve (context : DataContext) (kind : EntityType ε) (reference : EntityRef ε) : Action ε :=
  Deployment.readContext context fun work => work.resolve kind reference

/-- The entities that a criteria asks for. -/
def query (context : DataContext) (kind : EntityType ε) (criteria : Criteria) :
    Action (List ε) :=
  Deployment.readContext context fun work => work.query kind criteria

/-- The entity that a criteria asks for, of which there may be one at most. -/
def queryOne (context : DataContext) (kind : EntityType ε) (criteria : Criteria) :
    Action (Option ε) :=
  Deployment.readContext context fun work => work.queryOne kind criteria

/-- The result of a selection over the entities of a type. -/
def select (context : DataContext) (kind : EntityType ε) (selection : Selection) :
    Action (List Row) :=
  Deployment.readContext context fun work => work.select kind selection

/-- Whether a transaction is open. -/
def isInTransaction (context : DataContext) : Action Bool := do
  return (← Deployment.held context.lease).connection.isInTransaction

/-! ## Writing -/

/-- Saves an entity, and answers what became of it together with the entity as it is
afterwards. -/
def save (context : DataContext) (kind : EntityType ε) (entity : ε) :
    Action (Except Fault Unit × ε) :=
  Deployment.saveEntity context kind entity

/-- Deletes the row of an entity. -/
def delete (context : DataContext) (kind : EntityType ε) (entity : ε) : Action Unit :=
  Deployment.onContext context fun save work => work.delete save kind entity

/-- Opens a transaction. -/
def begin (context : DataContext) : Action Unit :=
  Deployment.onContext context fun _ work => work.begin

/-- Applies the writes of the transaction. -/
def commit (context : DataContext) : Action Unit :=
  Deployment.onContext context fun save work => work.commit save

/-- Forgets the writes of the transaction. -/
def rollback (context : DataContext) : Action Unit :=
  Deployment.onContext context fun _ work => work.rollback

/-- Gives the connection of the context back. -/
def close (context : DataContext) : Action Unit := Deployment.closeContext context

end EntityStore.DataContext
