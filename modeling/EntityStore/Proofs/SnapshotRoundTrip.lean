import EntityStore.Snapshot
import EntityStore.Proofs.KeyMapLaws
import EntityStore.Proofs.MessagePackRoundTrip

/-!
# Reading the image of tables

The image of tables gives back the tables.  The only condition is that the format
has room for them: every text and every count in four bytes, every place of a key and
every limit in eight (`Tables.Fits`).  It has nothing to do with what the tables mean;
any columns, any rows under any keys are kept as they are.

There are two halves.  The datum of the tables is turned back into them, part by part
along the records of the image, and this datum fits the format, so that it is read
back from its bytes.
-/

set_option autoImplicit false

namespace EntityStore

/-! ## What the format has room for -/

/-- The bound of lengths and counts in an image. -/
def Snapshot.countBound : Nat := 0x100000000

/-- Whether the format has room for a text. -/
def Text.IsShort (text : String) : Prop := text.utf8ByteSize < Snapshot.countBound

instance (text : String) : Decidable (Text.IsShort text) :=
  inferInstanceAs (Decidable (text.utf8ByteSize < Snapshot.countBound))

/-- Whether the format has room for a column. -/
structure Column.Fits (column : Column) : Prop where
  name : Text.IsShort column.name
  maxLength : ∀ length ∈ column.maxLength, length < Snapshot.sizeBound
  target : ∀ target ∈ column.references, Text.IsShort target

/-- Whether the format has room for a schema. -/
structure TableSchema.Fits (schema : TableSchema) : Prop where
  name : Text.IsShort schema.name
  few : schema.columns.length < Snapshot.countBound
  columns : ∀ column ∈ schema.columns, column.Fits
  keyIndex : schema.keyIndex < Snapshot.sizeBound
  keyStrategy : Text.IsShort schema.keyStrategy

/-- Whether the format has room for a row. -/
structure Row.Fits (row : Row) : Prop where
  few : row.length < Snapshot.countBound
  texts : ∀ content, .text content ∈ row → Text.IsShort content

/-- Whether the format has room for a table. -/
structure Table.Fits (table : Table) : Prop where
  schema : table.schema.Fits
  few : table.rowCount < Snapshot.countBound
  keys : ∀ entry ∈ table.rows.entries, Text.IsShort entry.1
  rows : ∀ entry ∈ table.rows.entries, Row.Fits entry.2

/-- Whether the format has room for tables. -/
structure Tables.Fits (tables : Tables) : Prop where
  few : tables.size < Snapshot.countBound
  names : ∀ entry ∈ tables.entries, Text.IsShort entry.1
  tables : ∀ entry ∈ tables.entries, entry.2.Fits

instance (column : Column) : Decidable column.Fits :=
  decidable_of_iff (Text.IsShort column.name ∧
      (∀ length ∈ column.maxLength, length < Snapshot.sizeBound) ∧
      ∀ target ∈ column.references, Text.IsShort target)
    ⟨fun ⟨name, maxLength, target⟩ => ⟨name, maxLength, target⟩,
      fun fits => ⟨fits.name, fits.maxLength, fits.target⟩⟩

instance (schema : TableSchema) : Decidable schema.Fits :=
  decidable_of_iff (Text.IsShort schema.name ∧ schema.columns.length < Snapshot.countBound ∧
      (∀ column ∈ schema.columns, column.Fits) ∧ schema.keyIndex < Snapshot.sizeBound ∧
      Text.IsShort schema.keyStrategy)
    ⟨fun ⟨name, few, columns, keyIndex, keyStrategy⟩ => ⟨name, few, columns, keyIndex, keyStrategy⟩,
      fun fits => ⟨fits.name, fits.few, fits.columns, fits.keyIndex, fits.keyStrategy⟩⟩

instance (row : Row) : Decidable (Row.Fits row) :=
  decidable_of_iff (row.length < Snapshot.countBound ∧
      ∀ value ∈ row, ∀ content ∈ value.text?, Text.IsShort content)
    ⟨fun ⟨few, texts⟩ => ⟨few, fun content member => texts (.text content) member content rfl⟩,
      fun fits => ⟨fits.few, fun value member content same => by
        cases value <;> cases same
        exact fits.texts _ member⟩⟩

instance (table : Table) : Decidable table.Fits :=
  decidable_of_iff (table.schema.Fits ∧ table.rowCount < Snapshot.countBound ∧
      (∀ entry ∈ table.rows.entries, Text.IsShort entry.1) ∧
      ∀ entry ∈ table.rows.entries, Row.Fits entry.2)
    ⟨fun ⟨schema, few, keys, rows⟩ => ⟨schema, few, keys, rows⟩,
      fun fits => ⟨fits.schema, fits.few, fits.keys, fits.rows⟩⟩

instance (tables : Tables) : Decidable tables.Fits :=
  decidable_of_iff (tables.size < Snapshot.countBound ∧
      (∀ entry ∈ tables.entries, Text.IsShort entry.1) ∧
      ∀ entry ∈ tables.entries, entry.2.Fits)
    ⟨fun ⟨few, names, tables⟩ => ⟨few, names, tables⟩,
      fun fits => ⟨fits.few, fits.names, fits.tables⟩⟩

/-! ## From data to values -/

theorem mapM_map_eq_some {α β : Type} {encode : α → β} {decode : β → Option α} {items : List α}
    (decodes : ∀ item ∈ items, decode (encode item) = some item) :
    (items.map encode).mapM decode = some items := by
  induction items with
  | nil => rfl
  | cons item items ih =>
      obtain ⟨first, others⟩ := List.forall_mem_cons.mp decodes
      simp [List.mapM_cons, first, ih others]

theorem Datum.int64?_integer (number : Int64) :
    Datum.int64? (.integer number.toInt) = some number := by
  have lower : -0x8000000000000000 ≤ number.toInt := number.le_toInt
  have upper : number.toInt < 0x8000000000000000 := number.toInt_lt
  simp [Datum.int64?, Datum.integer?, lower, upper]

theorem Datum.natural?_integer {bound number : Nat} (below : number < bound) :
    Datum.natural? bound (.integer number) = some number := by
  simp [Datum.natural?, Datum.integer?, below]

theorem Datum.fields?_array {names : List String} {items : List Datum}
    (length : items.length = names.length) :
    Datum.fields? names (.array items) = some (items.map some) := by
  rw [Datum.fields?, if_pos length]

/-- A missing value and one that is not nil are told apart. -/
theorem Datum.optional?_ofOption {α : Type} (encode : α → Datum) (decode : Datum → Option α)
    (content : Option α) (notNil : ∀ value, encode value ≠ .nil)
    (decodes : ∀ value ∈ content, decode (encode value) = some value) :
    Datum.optional? decode (.ofOption encode content) = some content := by
  cases content with
  | none => rfl
  | some value =>
      rw [Datum.ofOption, Datum.optional?, decodes value rfl]
      · rfl
      · exact notNil value

theorem Value.ofDatum?_toDatum (value : Value) : Value.ofDatum? value.toDatum = some value := by
  cases value with
  | null => rfl
  | integer number =>
      change (Datum.int64? (.integer number.toInt)).map Value.integer = _
      rw [Datum.int64?_integer, Option.map_some]
  | float number => rfl
  | text content => rfl
  | boolean truth => rfl

theorem DataType.ofDatum?_toDatum (type : DataType) :
    DataType.ofDatum? type.toDatum = some type := by
  cases type <;> rfl

theorem Column.ofDatum?_toDatum {column : Column} (fits : column.Fits) :
    Column.ofDatum? column.toDatum = some column := by
  have maxLength := Datum.optional?_ofOption (fun length => .integer (length : Nat))
    (Datum.natural? Snapshot.sizeBound) column.maxLength (fun _ => nofun)
    fun length member => Datum.natural?_integer (fits.maxLength length member)
  have references := Datum.optional?_ofOption (fun table => .array [.text table])
    Column.targetOfDatum? column.references (fun _ => nofun) fun _ _ => rfl
  simp [Column.ofDatum?, Column.toDatum, Datum.fields?_array, Datum.required?, Datum.omissible?,
    Datum.text?, Datum.boolean?, DataType.ofDatum?_toDatum, maxLength, references]

theorem Columns.ofDatum?_array {columns : Columns} (fits : ∀ column ∈ columns, column.Fits) :
    Columns.ofDatum? (.array [.array (columns.map Column.toDatum)]) = some columns := by
  have each := mapM_map_eq_some fun column member => Column.ofDatum?_toDatum (fits column member)
  simp [Columns.ofDatum?, Datum.fields?_array, Datum.required?, Datum.items?, each]

/-- The fields stay variables here, for the bound of a place is too large to compute with. -/
theorem TableSchema.ofDatum?_array {schema : TableSchema}
    {name columns keyIndex keyStrategy : Datum}
    (readName : name.text? = some schema.name)
    (readColumns : Columns.ofDatum? columns = some schema.columns)
    (readKeyIndex : keyIndex.natural? Snapshot.sizeBound = some schema.keyIndex)
    (readKeyStrategy : keyStrategy.text? = some schema.keyStrategy) :
    TableSchema.ofDatum? (.array [name, columns, keyIndex, keyStrategy]) = some schema := by
  simp [TableSchema.ofDatum?, Datum.fields?_array, Datum.required?, readName, readColumns,
    readKeyIndex, readKeyStrategy]

theorem TableSchema.ofDatum?_toDatum {schema : TableSchema} (fits : schema.Fits) :
    TableSchema.ofDatum? schema.toDatum = some schema :=
  TableSchema.ofDatum?_array rfl (Columns.ofDatum?_array fits.columns)
    (Datum.natural?_integer fits.keyIndex) rfl

theorem Row.ofDatum?_toDatum (row : Row) : Row.ofDatum? (Row.toDatum row) = some row := by
  have each := mapM_map_eq_some fun value (_ : value ∈ row) => Value.ofDatum?_toDatum value
  simp [Row.ofDatum?, Row.toDatum, Datum.items?, each]

theorem KeyMap.ofDatum?_toDatum {α : Type} {encode : α → Datum} {decode : Datum → Option α}
    {map : KeyMap α} (decodes : ∀ entry ∈ map.entries, decode (encode entry.2) = some entry.2) :
    KeyMap.ofDatum? decode (map.toDatum encode) = some map := by
  have each : (map.entries.map fun entry => (Datum.text entry.1, encode entry.2)).mapM
      (fun entry => do return (← entry.1.text?, ← decode entry.2)) = some map.entries :=
    mapM_map_eq_some fun entry member => by simp [Datum.text?, decodes entry member]
  rw [KeyMap.ofDatum?, KeyMap.toDatum, Datum.map?, Option.bind_eq_bind, Option.bind_some, each]
  exact congrArg some map.ofList_entries

theorem Table.ofDatum?_toDatum {table : Table} (fits : table.Fits) :
    Table.ofDatum? table.toDatum = some table := by
  have rows : KeyMap.ofDatum? Row.ofDatum? (table.rows.toDatum Row.toDatum) = some table.rows :=
    KeyMap.ofDatum?_toDatum fun entry _ => Row.ofDatum?_toDatum entry.2
  simp [Table.ofDatum?, Table.toDatum, Datum.fields?_array, Datum.required?,
    TableSchema.ofDatum?_toDatum fits.schema, rows]

theorem Tables.ofDatum?_toDatum {tables : Tables} (fits : tables.Fits) :
    KeyMap.ofDatum? Table.ofDatum? (tables.toDatum Table.toDatum) = some tables :=
  KeyMap.ofDatum?_toDatum fun entry member => Table.ofDatum?_toDatum (fits.tables entry member)

/-! ## Data that fit -/

section Fits

variable {levels : Nat}

theorem Datum.Fits.variant {name : String} {content : Datum} (short : Text.IsShort name)
    (fits : Datum.Fits (levels + 1) content) : Datum.Fits (levels + 2) (.variant name content) := by
  refine .map (by simp) ?_ ?_
  · simpa using Datum.Fits.text short
  · simpa using fits

theorem Datum.Fits.ofOption {α : Type} {encode : α → Datum} {content : Option α}
    (fits : ∀ value ∈ content, Datum.Fits (levels + 1) (encode value)) :
    Datum.Fits (levels + 1) (.ofOption encode content) := by
  cases content with
  | none => exact .nil
  | some value => exact fits value rfl

theorem Datum.Fits.natural {number : Nat} (bound : number < Snapshot.sizeBound) :
    Datum.Fits (levels + 1) (.integer number) := by
  have large : Snapshot.sizeBound = 0x10000000000000000 := rfl
  exact .integer (by omega) (by omega)

theorem Value.fits_toDatum {value : Value}
    (short : ∀ content, value = .text content → Text.IsShort content) :
    Datum.Fits (levels + 2) value.toDatum := by
  cases value with
  | null => exact .text (by decide)
  | integer number =>
      have lower : -0x8000000000000000 ≤ number.toInt := number.le_toInt
      have upper : number.toInt < 0x8000000000000000 := number.toInt_lt
      exact .variant (by decide) (.integer lower (by omega))
  | float number => exact .variant (by decide) (.float number)
  | text content => exact .variant (by decide) (.text (short content rfl))
  | boolean truth => exact .variant (by decide) (.boolean truth)

theorem DataType.fits_toDatum (type : DataType) : Datum.Fits (levels + 1) type.toDatum := by
  cases type <;> exact .text (by decide)

theorem Column.fits_toDatum {column : Column} (fits : column.Fits) :
    Datum.Fits (levels + 3) column.toDatum := by
  refine .array (by simp) ?_
  have reference (target : String) (member : target ∈ column.references) :
      Datum.Fits (levels + 2) (.array [.text target]) := by
    refine .array (by simp) ?_
    simpa using Datum.Fits.text (fits.target target member)
  simp only [List.forall_mem_cons]
  exact ⟨.text fits.name, column.type.fits_toDatum, .boolean _,
    .ofOption fun length member => .natural (fits.maxLength length member), .boolean _,
    .ofOption reference, by simp⟩

theorem TableSchema.fits_toDatum {schema : TableSchema} (fits : schema.Fits) :
    Datum.Fits (levels + 6) schema.toDatum := by
  have columns : Datum.Fits (levels + 4) (.array (schema.columns.map Column.toDatum)) := by
    refine .array (by rw [List.length_map]; exact fits.few) ?_
    rintro _ mapped
    obtain ⟨column, member, rfl⟩ := List.mem_map.mp mapped
    exact Column.fits_toDatum (fits.columns column member)
  have record : Datum.Fits (levels + 5) (.array [.array (schema.columns.map Column.toDatum)]) := by
    refine .array (by simp) ?_
    simpa using columns
  refine .array (by simp) ?_
  simp only [List.forall_mem_cons]
  exact ⟨.text fits.name, record, .natural fits.keyIndex, .text fits.keyStrategy, by simp⟩

theorem Row.fits_toDatum {row : Row} (fits : row.Fits) :
    Datum.Fits (levels + 3) (Row.toDatum row) := by
  refine .array (by rw [List.length_map]; exact fits.few) ?_
  rintro _ mapped
  obtain ⟨value, member, rfl⟩ := List.mem_map.mp mapped
  exact Value.fits_toDatum fun content same => fits.texts content (same ▸ member)

theorem KeyMap.fits_toDatum {α : Type} {encode : α → Datum} {map : KeyMap α}
    (few : map.size < Snapshot.countBound) (keys : ∀ entry ∈ map.entries, Text.IsShort entry.1)
    (values : ∀ entry ∈ map.entries, Datum.Fits (levels + 1) (encode entry.2)) :
    Datum.Fits (levels + 2) (map.toDatum encode) := by
  refine .map (by rw [List.length_map]; exact few) ?_ ?_
  · rintro _ mapped
    obtain ⟨entry, member, rfl⟩ := List.mem_map.mp mapped
    exact .text (keys entry member)
  · rintro _ mapped
    obtain ⟨entry, member, rfl⟩ := List.mem_map.mp mapped
    exact values entry member

theorem Table.fits_toDatum {table : Table} (fits : table.Fits) :
    Datum.Fits (levels + 7) table.toDatum := by
  have rows : Datum.Fits (levels + 6) (table.rows.toDatum Row.toDatum) :=
    KeyMap.fits_toDatum fits.few fits.keys fun entry member =>
      Row.fits_toDatum (fits.rows entry member)
  refine .array (by simp) ?_
  simp only [List.forall_mem_cons]
  exact ⟨TableSchema.fits_toDatum fits.schema, rows, by simp⟩

theorem Tables.fits_toDatum {tables : Tables} (fits : tables.Fits) :
    Datum.Fits (levels + 8) (tables.toDatum Table.toDatum) :=
  KeyMap.fits_toDatum fits.few fits.names fun entry member =>
    Table.fits_toDatum (fits.tables entry member)

end Fits

/-! ## Whole snapshots -/

namespace Snapshot

theorem foldl_rowCount_le {tables : List Table}
    (few : ∀ table ∈ tables, table.rowCount < countBound) (start : Nat) :
    tables.foldl (fun total table => total + table.rowCount) start ≤
      start + tables.length * countBound := by
  induction tables generalizing start with
  | nil => simp
  | cons table tables ih =>
      obtain ⟨first, others⟩ := List.forall_mem_cons.mp few
      refine (ih others (start + table.rowCount)).trans ?_
      rw [List.length_cons, Nat.succ_mul]
      omega

variable {tables : Tables}

theorem rowCount_lt (fits : tables.Fits) (moment : Timestamp) :
    (ofTables tables moment).rowCount < sizeBound := by
  have few : ∀ table ∈ tables.values, table.rowCount < countBound := by
    intro table member
    obtain ⟨entry, entryMember, rfl⟩ := List.mem_map.mp member
    exact (fits.tables entry entryMember).few
  have total := foldl_rowCount_le few 0
  have count : tables.values.length < countBound := by
    rw [KeyMap.values, List.length_map]
    exact fits.few
  have product : tables.values.length * countBound < countBound * countBound :=
    Nat.mul_lt_mul_of_pos_right count (by decide)
  have square : countBound * countBound = sizeBound := by decide
  change tables.values.foldl (fun total table => total + table.rowCount) 0 < sizeBound
  omega

theorem tableCount_lt (fits : tables.Fits) (moment : Timestamp) :
    (ofTables tables moment).tableCount < sizeBound := by
  have count : tables.size < countBound := fits.few
  have bounds : countBound < sizeBound := by decide
  exact count.trans bounds

theorem fits_metadata {moment : Timestamp} (fits : tables.Fits) (short : Text.IsShort moment.text) :
    Datum.Fits 1022 (.array [.text moment.text, .integer (ofTables tables moment).rowCount,
      .integer (ofTables tables moment).tableCount]) := by
  refine .array (by simp) ?_
  simp only [List.forall_mem_cons]
  exact ⟨.text short, .natural (rowCount_lt fits moment), .natural (tableCount_lt fits moment),
    by simp⟩

theorem fits_toDatum {moment : Timestamp} (fits : tables.Fits) (short : Text.IsShort moment.text) :
    Datum.Fits Datum.levelLimit (ofTables tables moment).toDatum := by
  have version : currentVersion < sizeBound := by decide
  refine Datum.Fits.array (by simp) ?_
  simp only [List.forall_mem_cons]
  exact ⟨.natural version, Tables.fits_toDatum fits, fits_metadata fits short, by simp⟩

theorem metadataOfDatum?_array {createdAt rowCount tableCount : Datum} {text : String}
    {rows count : Nat} (readText : createdAt.plainText? = some text)
    (readRows : rowCount.natural? sizeBound = some rows)
    (readCount : tableCount.natural? sizeBound = some count) :
    metadataOfDatum? (.array [createdAt, rowCount, tableCount]) =
      (Timestamp.parse? text).map fun moment => (moment, rows, count) := by
  cases parsed : Timestamp.parse? text <;>
    simp [metadataOfDatum?, Datum.fields?_array, Datum.required?, readText, readRows, readCount,
      parsed]

theorem ofDatum?_array {version tables metadata : Datum} {number : Nat} {read : Tables}
    (readVersion : version.natural? 0x100000000 = some number)
    (readTables : KeyMap.ofDatum? Table.ofDatum? tables = some read) :
    ofDatum? (.array [version, tables, metadata]) =
      (metadataOfDatum? metadata).map fun (createdAt, rowCount, tableCount) =>
        { version := number, tables := read, createdAt, rowCount, tableCount } := by
  cases readMetadata : metadataOfDatum? metadata <;>
    simp [ofDatum?, Datum.fields?_array, Datum.required?, readVersion, readTables, readMetadata]

theorem ofDatum?_toDatum (fits : tables.Fits) (moment : Timestamp) :
    ofDatum? (ofTables tables moment).toDatum =
      (Timestamp.parse? moment.text).map fun createdAt =>
        { ofTables tables moment with createdAt } := by
  have rows := Datum.natural?_integer (rowCount_lt fits moment)
  have count := Datum.natural?_integer (tableCount_lt fits moment)
  have text : Datum.plainText? (.text (ofTables tables moment).createdAt.text) = some moment.text :=
    rfl
  have version : Datum.natural? 0x100000000 (.integer currentVersion) = some currentVersion :=
    Datum.natural?_integer (by decide)
  refine (ofDatum?_array version (Tables.ofDatum?_toDatum fits)).trans ?_
  rw [metadataOfDatum?_array text rows count, Option.map_map]
  rfl

/-- **The image of tables is read back as these tables.**  Only the moment may come out otherwise,
as its text is read. -/
theorem decode?_image {moment : Timestamp} (fits : tables.Fits)
    (short : Text.IsShort moment.text) :
    decode? (ofTables tables moment).image =
      match Timestamp.parse? moment.text with
      | some createdAt => .ok { ofTables tables moment with createdAt }
      | none => .error .malformed := by
  have bytes : Datum.read (ofTables tables moment).image =
      some ((ofTables tables moment).toDatum, []) := by
    have read := Datum.readWithin_write (fits_toDatum fits short) []
    rwa [List.append_nil] at read
  rw [decode?, bytes, Option.bind_eq_bind, Option.bind_some]
  dsimp only
  rw [ofDatum?_toDatum fits]
  cases Timestamp.parse? moment.text with
  | none => rfl
  | some createdAt => rfl

end Snapshot

end EntityStore
