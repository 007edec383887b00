import EntityStore.Deployment

/-!
# Work on databases and lent connections

What can be done with a database by its number, and with a lent connection by the
number of its lease.  Each is one step of the deployment.
-/

set_option autoImplicit false

namespace EntityStore.Deployment

/-! ## Databases -/

/-- Adds a table to a database. -/
def createTable (database : Nat) (schema : TableSchema) : Action Unit :=
  onDatabase database fun save stored files => stored.createTable save schema files

/-- Adds a table to a database unless it is there, and answers whether it did. -/
def ensureTable (database : Nat) (schema : TableSchema) : Action Bool :=
  onDatabase database fun save stored files => stored.ensureTable save schema files

/-- Applies all writes of a batch to a database or none. -/
def applyWrites (database : Nat) (writes : List Write) : Action Unit :=
  onDatabase database fun save stored files => stored.apply save writes files

/-! ## Lent connections -/

/-- Issues a write through a connection. -/
def execute (lease : Nat) (next : Write) : Action Unit :=
  onConnection lease fun save connection database files =>
    connection.execute save next database files

/-- The row under a key, as a connection sees it. -/
def getRow (lease : Nat) (table key : String) : Action (Option Row) :=
  readConnection lease fun connection database => connection.get database table key

/-- The rows of a table, as a connection sees them. -/
def scanRows (lease : Nat) (table : String) : Action (List Row) :=
  readConnection lease fun connection database => connection.scan database table

/-- Opens a transaction on a connection. -/
def beginTransaction (lease : Nat) : Action Unit := changeConnection lease Connection.begin

/-- Applies the writes of the transaction on a connection. -/
def commitTransaction (lease : Nat) : Action Unit :=
  onConnection lease fun save connection database files =>
    connection.commit save database files

/-- Forgets the writes of the transaction on a connection. -/
def rollbackTransaction (lease : Nat) : Action Unit := changeConnection lease Connection.rollback

/-- Closes a connection, which stays lent. -/
def closeConnection (lease : Nat) : Action Unit :=
  changeConnection lease fun connection => .ok connection.close

end EntityStore.Deployment
