import EntityStore.Column
import EntityStore.KeyMap

/-!
# Tables

A table keeps the rows of one entity type under their keys.  The key of a row is
the text in one of its own columns, so a row says by itself where it belongs:
inserting refuses a key that is taken, updating refuses to move a row to another
key, and listing a table lists it in key order.

A table checks what its own columns can check.  Whether a reference names a row of
another table is the business of the database, which sees them all.
-/

set_option autoImplicit false

namespace EntityStore

/-- The shape of a table: its columns, which of them is the key, and the strategy that issues
keys for new rows. -/
structure TableSchema where
  name : String
  columns : Columns
  keyIndex : Nat
  keyStrategy : String
  deriving DecidableEq, Repr

namespace TableSchema

/-- The schema whose key is the first primary key, or the first column when there is none. -/
def ofColumns (name : String) (columns : Columns) (keyStrategy : String) : TableSchema :=
  { name, columns, keyIndex := columns.primaryKeyIndex?.getD 0, keyStrategy }

/-- The column that holds the key. -/
def keyColumn? (schema : TableSchema) : Option Column := schema.columns[schema.keyIndex]?

/-- The name of the column that holds the key. -/
def keyColumnName (schema : TableSchema) : String :=
  (schema.keyColumn?.map (·.name)).getD ""

/-- Whether two schemas have the same columns, primary keys and key strategy aside. -/
def sameLayout (left right : TableSchema) : Bool :=
  left.columns.sameLayout right.columns

end TableSchema

/-- Rows of one shape under their keys. -/
structure Table where
  schema : TableSchema
  rows : KeyMap Row
  deriving DecidableEq

namespace Table

/-- The table without rows. -/
def ofSchema (schema : TableSchema) : Table := ⟨schema, .empty⟩

/-! ## Reading -/

/-- The row under a key. -/
def get? (table : Table) (key : String) : Option Row := table.rows.get? key

/-- Whether there is a row under a key. -/
def contains (table : Table) (key : String) : Bool := table.rows.contains key

/-- The rows in key order. -/
def scan (table : Table) : List Row := table.rows.values

/-- The number of rows. -/
def rowCount (table : Table) : Nat := table.rows.size

/-- Whether some row holds a key in a column. -/
def anyReferences (table : Table) (column : Nat) (key : String) : Bool :=
  table.scan.any fun row => row[column]? == some (.text key)

/-! ## Checking -/

/-- Checks a row against the columns: first its width, then each value. -/
def validateRow (table : Table) (row : Row) : Except Fault Unit :=
  if row.length ≠ table.schema.columns.length then
    .error (.execution (.rowWidth table.schema.columns.length row.length))
  else table.schema.columns.validate row

/-- The key that a row names, which has to be a text that is not empty.  That the row has a value
there is taken for granted, although a table without columns admits a row without values. -/
def keyOf (table : Table) (row : Row) : Except Fault String :=
  match row[table.schema.keyIndex]? with
  | some (.text key) =>
      if key.isEmpty then .error (.invalidIdentifier (.notText table.schema.name (.text key)))
      else .ok key
  | some value => .error (.invalidIdentifier (.notText table.schema.name value))
  | none => .error .panic

/-! ## Writing -/

/-- The table with a new row, and the key under which it is kept. -/
def insert (table : Table) (row : Row) : Except Fault (Table × String) := do
  table.validateRow row
  let key ← table.keyOf row
  if table.contains key then
    .error (.constraint (.duplicateKey table.schema.keyColumnName key))
  else .ok ({ table with rows := table.rows.insert key row }, key)

/-- The table with a row in the stead of the one under a key, and the row that was there. -/
def update (table : Table) (key : String) (row : Row) : Except Fault (Table × Row) := do
  table.validateRow row
  let newKey ← table.keyOf row
  if newKey ≠ key then .error (.constraint (.changedKey table.schema.name key newKey))
  else
    match table.get? key with
    | none => .error (.notFound table.schema.name key)
    | some old => .ok ({ table with rows := table.rows.insert key row }, old)

/-- The table without a row under a key. -/
def erase (table : Table) (key : String) : Table :=
  { table with rows := table.rows.erase key }

/-- The table with another strategy for new keys.  The rows keep theirs. -/
def withKeyStrategy (table : Table) (strategy : String) : Table :=
  { table with schema := { table.schema with keyStrategy := strategy } }

end Table

end EntityStore
