import EntityStore.Database
import EntityStore.MessagePack.Record
import EntityStore.Timestamp

/-!
# Snapshots

A snapshot is the image of all tables at one moment: the version of the format,
the tables under their names, and for the reader's convenience the moment and the
numbers of rows and tables.  `Snapshot.image` is its form in MessagePack, and
`Snapshot.decode?` reads such an image back; only the current version is accepted.

What is read is taken as it stands.  The numbers of rows and tables are not
compared with the tables, and rows are kept under the keys that the image gives
them.
-/

set_option autoImplicit false

namespace EntityStore

/-! ## Values and columns -/

/-- The names of the kinds of values in an image. -/
def Value.variantNames : List String := ["Null", "Integer", "Float", "Text", "Boolean"]

/-- The datum of a value. -/
def Value.toDatum : Value → Datum
  | .null => .unitVariant "Null"
  | .integer number => .variant "Integer" (.integer number.toInt)
  | .float number => .variant "Float" (.float number)
  | .text content => .variant "Text" (.text content)
  | .boolean truth => .variant "Boolean" (.boolean truth)

/-- The value of a datum. -/
def Value.ofDatum? (datum : Datum) : Option Value :=
  match datum.variant? Value.variantNames with
  | some (0, none) => some .null
  | some (0, some .nil) => some .null
  | some (1, some content) => content.int64?.map .integer
  | some (2, some content) => content.float?.map .float
  | some (3, some content) => content.text?.map .text
  | some (4, some content) => content.boolean?.map .boolean
  | _ => none

/-- The names of the data types in an image. -/
def DataType.variantNames : List String := ["Integer", "Float", "Text", "Boolean"]

/-- The datum of a data type. -/
def DataType.toDatum : DataType → Datum
  | .integer => .unitVariant "Integer"
  | .float => .unitVariant "Float"
  | .text => .unitVariant "Text"
  | .boolean => .unitVariant "Boolean"

/-- The data type at a place among the names of all. -/
def DataType.ofPlace? : Nat → Option DataType
  | 0 => some .integer
  | 1 => some .float
  | 2 => some .text
  | 3 => some .boolean
  | _ => none

/-- The data type of a datum. -/
def DataType.ofDatum? (datum : Datum) : Option DataType :=
  match datum.variant? DataType.variantNames with
  | some (place, none) => DataType.ofPlace? place
  | some (place, some .nil) => DataType.ofPlace? place
  | _ => none

/-- The bound of lengths, places and counts in an image. -/
def Snapshot.sizeBound : Nat := 0x10000000000000000

/-- The datum of a value that may be missing. -/
def Datum.ofOption {α : Type} (encode : α → Datum) : Option α → Datum
  | none => .nil
  | some content => encode content

/-- The datum of a column. -/
def Column.toDatum (column : Column) : Datum :=
  .array [.text column.name, column.type.toDatum, .boolean column.nullable,
    .ofOption (fun length => .integer (length : Nat)) column.maxLength,
    .boolean column.primaryKey, .ofOption (fun table => .array [.text table]) column.references]

/-- The table that a reference names. -/
def Column.targetOfDatum? (datum : Datum) : Option String := do
  match ← datum.fields? ["table"] with
  | [table] => Datum.required? Datum.text? table
  | _ => none

/-- The column of a datum. -/
def Column.ofDatum? (datum : Datum) : Option Column := do
  let names := ["name", "data_type", "nullable", "max_length", "primary_key", "references"]
  match ← datum.fields? names with
  | [name, type, nullable, maxLength, primaryKey, references] =>
      return {
        name := ← Datum.required? Datum.text? name
        type := ← Datum.required? DataType.ofDatum? type
        nullable := ← Datum.required? Datum.boolean? nullable
        maxLength := ← Datum.omissible? (Datum.natural? Snapshot.sizeBound) maxLength
        primaryKey := ← Datum.required? Datum.boolean? primaryKey
        references := ← Datum.omissible? Column.targetOfDatum? references }
  | _ => none

/-! ## Tables -/

/-- The datum of a schema. -/
def TableSchema.toDatum (schema : TableSchema) : Datum :=
  .array [.text schema.name, .array [.array (schema.columns.map Column.toDatum)],
    .integer schema.keyIndex, .text schema.keyStrategy]

/-- The columns of a datum. -/
def Columns.ofDatum? (datum : Datum) : Option Columns := do
  match ← datum.fields? ["columns"] with
  | [columns] => (← Datum.required? Datum.items? columns).mapM Column.ofDatum?
  | _ => none

/-- The schema of a datum. -/
def TableSchema.ofDatum? (datum : Datum) : Option TableSchema := do
  match ← datum.fields? ["name", "schema", "key_index", "key_strategy"] with
  | [name, columns, keyIndex, keyStrategy] =>
      return {
        name := ← Datum.required? Datum.text? name
        columns := ← Datum.required? Columns.ofDatum? columns
        keyIndex := ← Datum.required? (Datum.natural? Snapshot.sizeBound) keyIndex
        keyStrategy := ← Datum.required? Datum.text? keyStrategy }
  | _ => none

/-- The datum of a row. -/
def Row.toDatum (row : Row) : Datum := .array (row.map Value.toDatum)

/-- The row of a datum. -/
def Row.ofDatum? (datum : Datum) : Option Row := do
  (← datum.items?).mapM Value.ofDatum?

/-- The datum of a map with text keys. -/
def KeyMap.toDatum {α : Type} (encode : α → Datum) (map : KeyMap α) : Datum :=
  .map (map.entries.map fun entry => (.text entry.1, encode entry.2))

/-- The map of a datum.  Of several values under one key the last counts. -/
def KeyMap.ofDatum? {α : Type} (decode : Datum → Option α) (datum : Datum) :
    Option (KeyMap α) := do
  let entries ← (← datum.map?).mapM fun entry => do
    return (← entry.1.text?, ← decode entry.2)
  return .ofList entries

/-- The datum of a table. -/
def Table.toDatum (table : Table) : Datum :=
  .array [table.schema.toDatum, table.rows.toDatum Row.toDatum]

/-- The table of a datum. -/
def Table.ofDatum? (datum : Datum) : Option Table := do
  match ← datum.fields? ["schema", "rows"] with
  | [schema, rows] =>
      return {
        schema := ← Datum.required? TableSchema.ofDatum? schema
        rows := ← Datum.required? (KeyMap.ofDatum? Row.ofDatum?) rows }
  | _ => none

/-! ## Snapshots -/

/-- The image of all tables at one moment. -/
structure Snapshot where
  version : Nat
  tables : Tables
  createdAt : Timestamp
  rowCount : Nat
  tableCount : Nat

namespace Snapshot

/-- The version of the format. -/
def currentVersion : Nat := 1

/-- The snapshot of tables at a moment. -/
def ofTables (tables : Tables) (moment : Timestamp) : Snapshot :=
  { version := currentVersion
    tables
    createdAt := moment
    rowCount := tables.values.foldl (fun total table => total + table.rowCount) 0
    tableCount := tables.size }

/-- The datum of a snapshot. -/
def toDatum (snapshot : Snapshot) : Datum :=
  .array [.integer snapshot.version, snapshot.tables.toDatum Table.toDatum,
    .array [.text snapshot.createdAt.text, .integer snapshot.rowCount,
      .integer snapshot.tableCount]]

/-- The moment and the two counts of a datum. -/
def metadataOfDatum? (datum : Datum) : Option (Timestamp × Nat × Nat) := do
  match ← datum.fields? ["created_at", "row_count", "table_count"] with
  | [createdAt, rowCount, tableCount] =>
      return (← (← Datum.required? Datum.plainText? createdAt) |> Timestamp.parse?,
        ← Datum.required? (Datum.natural? sizeBound) rowCount,
        ← Datum.required? (Datum.natural? sizeBound) tableCount)
  | _ => none

/-- The snapshot of a datum, of whatever version. -/
def ofDatum? (datum : Datum) : Option Snapshot := do
  match ← datum.fields? ["version", "tables", "metadata"] with
  | [version, tables, metadata] =>
      let (createdAt, rowCount, tableCount) ← Datum.required? metadataOfDatum? metadata
      return {
        version := ← Datum.required? (Datum.natural? 0x100000000) version
        tables := ← Datum.required? (KeyMap.ofDatum? Table.ofDatum?) tables
        createdAt, rowCount, tableCount }
  | _ => none

/-- The bytes of a snapshot. -/
def image (snapshot : Snapshot) : List UInt8 := snapshot.toDatum.write

/-- The snapshot that an image holds.  Bytes behind the image are passed over. -/
def decode? (bytes : List UInt8) : Except ImageFault Snapshot :=
  match Datum.read bytes >>= fun (datum, _) => ofDatum? datum with
  | none => .error .malformed
  | some snapshot =>
      if snapshot.version = currentVersion then .ok snapshot
      else .error (.version snapshot.version)

end Snapshot

end EntityStore
