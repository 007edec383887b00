import EntityStore.Table

/-!
# Databases

A database is a map of tables together with the place where their image is kept.
A batch of writes is applied one write after the other, each to the tables that the
writes before it left behind, and each recorded with the step that takes it back.
When a write is refused, or when the image of the tables cannot be saved in the
end, the recorded steps are taken back in reverse order.  A write that breaks off
takes the whole batch with it, and then nothing is taken back.

References are checked between tables here: a row that is written may only name
keys that exist, and a row may only be deleted while no row names it.

Where the image goes is left open.  `Saver` is any way to bring the image of the
tables onto a medium, which either succeeds and yields the medium with the new
image or fails and leaves the medium alone.
-/

set_option autoImplicit false

namespace EntityStore

/-- One change to one table. -/
inductive Write where
  | insert (table : String) (row : Row)
  | update (table key : String) (row : Row)
  | delete (table key : String)
  deriving DecidableEq, Repr

/-- The table that a write changes. -/
def Write.table : Write → String
  | .insert table _ => table
  | .update table _ _ => table
  | .delete table _ => table

/-- The step that takes back a write. -/
inductive Undo where
  | remove (table key : String)
  | restore (table key : String) (row : Row)
  | reinsert (table : String) (row : Row)
  deriving DecidableEq, Repr

/-- Tables under their names. -/
abbrev Tables := KeyMap Table

namespace Tables

/-- The table of a name. -/
def find (tables : Tables) (name : String) : Except Fault Table :=
  match tables.get? name with
  | some table => .ok table
  | none => .error (.tableNotFound name)

/-! ## References -/

/-- Checks one reference of a row that is to be written into a table. -/
def checkReference (tables : Tables) (name : String) (columns : Columns) (row : Row)
    (reference : Nat × String) : Except Fault Unit :=
  match row[reference.1]? with
  | some (.text key) => do
      let target ← tables.find reference.2
      if target.contains key then .ok ()
      else
        let column := (columns[reference.1]?.map (·.name)).getD ""
        .error (.constraint (.danglingReference column name key reference.2))
  | _ => .ok ()

/-- Checks that every reference of a row names a key that exists. -/
def checkReferences (tables : Tables) (name : String) (row : Row) : Except Fault Unit := do
  let table ← tables.find name
  table.schema.columns.references.forM
    (tables.checkReference name table.schema.columns row)

/-- Whether a table holds a reference to a key of another. -/
def refersTo (referrer : Table) (name key : String) : Bool :=
  referrer.schema.columns.references.any fun reference =>
    reference.2 == name && referrer.anyReferences reference.1 key

/-- Checks that no row of any table names a key. -/
def checkNotReferenced (tables : Tables) (name key : String) : Except Fault Unit :=
  match tables.entries.find? fun entry => refersTo entry.2 name key with
  | some (referrer, _) => .error (.constraint (.stillReferenced key name referrer))
  | none => .ok ()

/-! ## One write -/

/-- Carries out one write, and says how to take it back. -/
def write (tables : Tables) : Write → Except Fault (Tables × Undo)
  | .insert name row => do
      tables.checkReferences name row
      let table ← tables.find name
      let (table, key) ← table.insert row
      .ok (tables.insert name table, .remove name key)
  | .update name key row => do
      tables.checkReferences name row
      let table ← tables.find name
      let (table, old) ← table.update key row
      .ok (tables.insert name table, .restore name key old)
  | .delete name key => do
      tables.checkNotReferenced name key
      let table ← tables.find name
      match table.get? key with
      | none => .error (.notFound name key)
      | some old => .ok (tables.insert name (table.erase key), .reinsert name old)

/-- Takes back one write.  A step that its table refuses is passed over. -/
def undo (tables : Tables) (step : Undo) : Tables :=
  match step with
  | .remove name key =>
      match tables.get? name with
      | some table => tables.insert name (table.erase key)
      | none => tables
  | .restore name key row =>
      match tables.find name >>= fun table => table.update key row with
      | .ok (table, _) => tables.insert name table
      | .error _ => tables
  | .reinsert name row =>
      match tables.find name >>= fun table => table.insert row with
      | .ok (table, _) => tables.insert name table
      | .error _ => tables

/-! ## Batches -/

/-- What became of a batch: the tables when it ended, the steps that take it back, latest first,
and the fault that ended it early. -/
structure Progress where
  tables : Tables
  log : List Undo
  fault : Option Fault

/-- Carries out writes in order until one is refused. -/
def writeAll (tables : Tables) (log : List Undo) : List Write → Progress
  | [] => ⟨tables, log, none⟩
  | next :: rest =>
      match tables.write next with
      | .ok (tables, step) => writeAll tables (step :: log) rest
      | .error fault => ⟨tables, log, some fault⟩

/-- Takes back the steps of a log, latest first. -/
def revert (tables : Tables) (log : List Undo) : Tables := log.foldl undo tables

end Tables

/-! ## Databases -/

/-- Where a database keeps its image. -/
inductive Location where
  | memory (name : String)
  | directory (path : String)
  deriving DecidableEq, Repr

/-- The text form of a location. -/
def Location.shown : Location → String
  | .memory name => s!"in-memory database '{name}'"
  | .directory path => path

/-- Tables and the place of their image. -/
structure Database where
  tables : Tables
  location : Location
  deriving DecidableEq

/-- A way to bring the image of tables onto a medium. -/
abbrev Saver (σ : Type) := Tables → σ → Except Fault σ

/-- What an operation on a database answers, and what it leaves behind. -/
structure Outcome (σ α : Type) where
  answer : Except Fault α
  database : Database
  medium : σ

namespace Database

variable {σ : Type}

/-- The empty database that keeps no image. -/
def inMemory (name : String) : Database := ⟨.empty, .memory name⟩

/-- Whether the database outlives the process. -/
def isDurable (database : Database) : Bool :=
  match database.location with
  | .memory _ => false
  | .directory _ => true

/-- Saves the image of tables that are already in place. -/
def flush (save : Saver σ) (database : Database) (medium : σ) : Outcome σ Unit :=
  match save database.tables medium with
  | .ok medium => ⟨.ok (), database, medium⟩
  | .error fault => ⟨.error fault, database, medium⟩

/-- Adds a table that does not exist yet.  The table stays when its image cannot be saved. -/
def createTable (save : Saver σ) (schema : TableSchema) (database : Database) (medium : σ) :
    Outcome σ Unit :=
  if database.tables.contains schema.name then
    ⟨.error (.tableExists schema.name), database, medium⟩
  else
    flush save
      { database with tables := database.tables.insert schema.name (.ofSchema schema) } medium

/-- Adds a table unless one of the same layout is there, and answers whether it did.  A table
that is there takes over the key strategy; its rows keep their keys. -/
def ensureTable (save : Saver σ) (schema : TableSchema) (database : Database) (medium : σ) :
    Outcome σ Bool :=
  match database.tables.get? schema.name with
  | none =>
      let created := createTable save schema database medium
      ⟨created.answer.map fun _ => true, created.database, created.medium⟩
  | some existing =>
      if !existing.schema.sameLayout schema then
        ⟨.error (.config (.otherLayout schema.name)), database, medium⟩
      else if existing.schema.keyStrategy = schema.keyStrategy then
        ⟨.ok false, database, medium⟩
      else
        let switched := existing.withKeyStrategy schema.keyStrategy
        let flushed := flush save
          { database with tables := database.tables.insert schema.name switched } medium
        ⟨flushed.answer.map fun _ => false, flushed.database, flushed.medium⟩

/-- Applies all writes of a batch or none.  When one breaks off, those before it stay. -/
def apply (save : Saver σ) (writes : List Write) (database : Database) (medium : σ) :
    Outcome σ Unit :=
  if writes.isEmpty then ⟨.ok (), database, medium⟩
  else
    let progress := database.tables.writeAll [] writes
    let reverted := { database with tables := progress.tables.revert progress.log }
    match progress.fault with
    | some .panic => ⟨.error .panic, { database with tables := progress.tables }, medium⟩
    | some fault => ⟨.error fault, reverted, medium⟩
    | none =>
        match save progress.tables medium with
        | .ok medium => ⟨.ok (), { database with tables := progress.tables }, medium⟩
        | .error fault => ⟨.error fault, reverted, medium⟩

/-! ## Reading -/

/-- The names of the tables in order. -/
def tableNames (database : Database) : List String := database.tables.keys

/-- The row under a key of a table. -/
def get (database : Database) (table key : String) : Except Fault (Option Row) := do
  return (← database.tables.find table).get? key

/-- The rows of a table in key order. -/
def scan (database : Database) (table : String) : Except Fault (List Row) := do
  return (← database.tables.find table).scan

/-- Checks a row against the columns of its table. -/
def validate (database : Database) (table : String) (row : Row) : Except Fault Unit := do
  (← database.tables.find table).validateRow row

end Database

end EntityStore
