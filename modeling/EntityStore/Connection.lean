import EntityStore.Database

/-!
# Connections

A connection writes to a database that others may write to as well.  Outside a
transaction every write is a batch of its own.  Inside one, writes are checked
against the columns of their tables and kept back; committing applies all of them
as one batch, rolling back forgets them, and either way the transaction is over.

What a connection reads is the stored table with its own kept back writes laid over
it, one key at a time by `get` and all keys at once by `scan`.
-/

set_option autoImplicit false

namespace EntityStore

/-- Whether a connection is in use, and how. -/
inductive ConnectionPhase where
  | active
  | inTransaction
  | closed
  deriving DecidableEq, Repr

/-- A connection: its number, the user it belongs to, and the writes of an open transaction in
the order in which they were issued. -/
structure Connection where
  id : Nat
  username : String
  phase : ConnectionPhase := .active
  pending : List Write := []
  deriving DecidableEq, Repr

namespace Connection

variable {σ : Type}

/-- Whether the connection was not closed. -/
def isOpen (connection : Connection) : Bool := connection.phase != .closed

/-- Whether a transaction is open. -/
def isInTransaction (connection : Connection) : Bool := connection.phase == .inTransaction

/-- Refuses a closed connection. -/
def checkOpen (connection : Connection) : Except Fault Unit :=
  if connection.isOpen then .ok () else .error (.execution .connectionClosed)

/-! ## Writing -/

/-- Checks as much of a write as its own table can tell. -/
def checkWrite (database : Database) : Write → Except Fault Unit
  | .insert table row => database.validate table row
  | .update table _ row => database.validate table row
  | .delete table _ => (database.tables.find table).map fun _ => ()

/-- Issues one write: keeps it back in a transaction, and applies it at once outside of one. -/
def execute (save : Saver σ) (next : Write) (connection : Connection) (database : Database)
    (medium : σ) : Connection × Outcome σ Unit :=
  match connection.phase with
  | .closed => (connection, ⟨.error (.execution .connectionClosed), database, medium⟩)
  | .active => (connection, database.apply save [next] medium)
  | .inTransaction =>
      match checkWrite database next with
      | .ok () =>
          ({ connection with pending := connection.pending ++ [next] },
            ⟨.ok (), database, medium⟩)
      | .error fault => (connection, ⟨.error fault, database, medium⟩)

/-! ## Reading -/

/-- The text at the place of the key in a row. -/
def rowKey? (keyIndex : Nat) (row : Row) : Option String := row[keyIndex]?.bind Value.text?

/-- The row under a key after one more write to its table. -/
def overlayRow (keyIndex : Nat) (key : String) (row : Option Row) : Write → Option Row
  | .insert _ new => if rowKey? keyIndex new = some key then some new else row
  | .update _ written new => if written = key then some new else row
  | .delete _ deleted => if deleted = key then none else row

/-- The rows of a table after one more write to it. -/
def overlayRows (keyIndex : Nat) (rows : KeyMap Row) : Write → KeyMap Row
  | .insert _ new =>
      match rowKey? keyIndex new with
      | some key => rows.insert key new
      | none => rows
  | .update _ key new => rows.insert key new
  | .delete _ key => rows.erase key

/-- The kept back writes to a table. -/
def pendingFor (connection : Connection) (table : String) : List Write :=
  connection.pending.filter fun kept => kept.table = table

/-- The row under a key, as the connection sees it. -/
def get (connection : Connection) (database : Database) (table key : String) :
    Except Fault (Option Row) := do
  connection.checkOpen
  let stored ← database.tables.find table
  return (connection.pendingFor table).foldl (overlayRow stored.schema.keyIndex key)
    (stored.get? key)

/-- The rows of a table under the keys they name; rows that name none are left out. -/
def keyed (keyIndex : Nat) (rows : List Row) : KeyMap Row :=
  .ofList (rows.filterMap fun row => (rowKey? keyIndex row).map fun key => (key, row))

/-- The rows of a table in key order, as the connection sees them. -/
def scan (connection : Connection) (database : Database) (table : String) :
    Except Fault (List Row) := do
  connection.checkOpen
  let stored ← database.tables.find table
  if connection.pending.isEmpty then return stored.scan
  let keyIndex := stored.schema.keyIndex
  return ((connection.pendingFor table).foldl (overlayRows keyIndex)
    (keyed keyIndex stored.scan)).values

/-! ## Transactions -/

/-- Opens a transaction. -/
def begin (connection : Connection) : Except Fault Connection :=
  match connection.phase with
  | .closed => .error (.execution .connectionClosed)
  | .inTransaction => .error (.execution .transactionActive)
  | .active => .ok { connection with phase := .inTransaction }

/-- The connection after its transaction. -/
def settled (connection : Connection) : Connection :=
  { connection with phase := .active, pending := [] }

/-- Applies the kept back writes as one batch.  The transaction is over even when that fails. -/
def commit (save : Saver σ) (connection : Connection) (database : Database) (medium : σ) :
    Connection × Outcome σ Unit :=
  if connection.isInTransaction then
    (connection.settled, database.apply save connection.pending medium)
  else (connection, ⟨.error (.execution .noTransaction), database, medium⟩)

/-- Forgets the kept back writes. -/
def rollback (connection : Connection) : Except Fault Connection :=
  if connection.isInTransaction then .ok connection.settled
  else .error (.execution .noTransaction)

/-- The connection when it is closed.  An open transaction is rolled back. -/
def close (connection : Connection) : Connection :=
  { (if connection.isInTransaction then connection.settled else connection) with
    phase := .closed }

end Connection

end EntityStore
