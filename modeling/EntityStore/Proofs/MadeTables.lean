import EntityStore.Proofs.RegistryTables

/-!
# Tables made by binding

A registry that finds no table for one of its mappings makes one.  Such a table has
the columns of the mapping, with the key in the first of them, and keeps both
whatever happens to the database afterwards (`Table.Houses`).  Hence the checks of
the table are those of the mapping: a row passes them exactly when the mapping
allows it, one field at a time.

A table that was there before would only have to have the same columns.  Its key
could be in any of them, so that what is said here is not true of such tables.
-/

set_option autoImplicit false

namespace EntityStore

/-! ## What a layout decides -/

theorem Column.validate_of_sameLayout {left right : Column} (same : left.sameLayout right = true)
    (value : Value) : left.validate value = right.validate value := by
  simp only [Column.sameLayout, Bool.and_eq_true, beq_iff_eq] at same
  obtain ⟨⟨⟨⟨name, type⟩, nullable⟩, maxLength⟩, -⟩ := same
  simp only [Column.validate, name, type, nullable, maxLength]

namespace Columns

variable {left right : Columns}

theorem length_eq_of_sameLayout (same : left.sameLayout right = true) :
    left.length = right.length := by
  induction left generalizing right with
  | nil =>
      cases right with
      | nil => rfl
      | cons => cases same
  | cons column left ih =>
      cases right with
      | nil => cases same
      | cons other right =>
          rw [Columns.sameLayout, Bool.and_eq_true] at same
          rw [List.length_cons, List.length_cons, ih same.2]

theorem validate_of_sameLayout (same : left.sameLayout right = true) (row : Row) :
    left.validate row = right.validate row := by
  induction left generalizing right row with
  | nil =>
      cases right with
      | nil => rfl
      | cons => cases same
  | cons column left ih =>
      cases right with
      | nil => cases same
      | cons other right =>
          rw [Columns.sameLayout, Bool.and_eq_true] at same
          cases row with
          | nil => rfl
          | cons value row =>
              rw [Columns.validate, Columns.validate, column.validate_of_sameLayout same.1,
                ih same.2]

end Columns

/-! ## What a mapping allows -/

/-- Whether a field may hold a value: NULL where it may be missing, else a value of its type, and
no text longer than it is declared. -/
structure FieldMapping.Accepts (field : FieldMapping) (value : Value) : Prop where
  nullable : value = .null → field.nullable = true
  typed : value ≠ .null → field.type.admits value = true
  short : ∀ limit length, field.length = some limit → value.charLength? = some length →
    length ≤ limit

theorem FieldMapping.validate_toColumn_iff {field : FieldMapping} {value : Value} :
    field.toColumn.validate value = .ok () ↔ field.Accepts value := by
  rw [Column.validate]
  split_ifs with null nullable untyped
  · obtain rfl := Value.isNull_iff.mp null
    exact ⟨fun _ => ⟨fun _ => nullable, fun other => absurd rfl other, nofun⟩, fun _ => rfl⟩
  · obtain rfl := Value.isNull_iff.mp null
    exact ⟨nofun, fun accepts => absurd (accepts.nullable rfl) nullable⟩
  · have present : value ≠ .null := fun same => null (Value.isNull_iff.mpr same)
    exact ⟨nofun, fun accepts => by simp [FieldMapping.toColumn, accepts.typed present] at untyped⟩
  · have typed : field.toColumn.type.admits value = true := by simpa using untyped
    have present : value ≠ .null := fun same => null (Value.isNull_iff.mpr same)
    constructor
    · intro valid
      refine ⟨fun same => absurd same present, fun _ => typed, ?_⟩
      intro limit length limited measured
      simp only [FieldMapping.toColumn, limited, measured] at valid
      split at valid
      · cases valid
      · next fits => exact Nat.le_of_not_lt fits
    · intro accepts
      split
      · next limit length limited measured =>
          rw [if_neg (Nat.not_lt.mpr (accepts.short limit length limited measured))]
      · rfl

namespace EntityMapping

variable {mapping : EntityMapping}

/-- The columns of the table, the key first. -/
def tableColumns (mapping : EntityMapping) : Columns :=
  mapping.key.toColumn.asPrimaryKey :: mapping.columns.map FieldMapping.toColumn

theorem keyIndex_tableSchema (mapping : EntityMapping) (strategy : String) :
    (mapping.tableSchema strategy).keyIndex = 0 := rfl

theorem length_tableColumns (mapping : EntityMapping) :
    mapping.tableColumns.length = mapping.width := by
  rw [tableColumns, List.length_cons, List.length_map, width]

/-- Whether a row has one value for each column of a mapping, and the column allows it. -/
structure Allows (mapping : EntityMapping) (row : Row) : Prop where
  width : row.length = mapping.width
  valid : mapping.tableColumns.validate row = .ok ()

/-- A row is allowed when its key is and the other fields accept their values. -/
theorem allows_cons_iff {key : Value} {values : Row} :
    mapping.Allows (key :: values) ↔
      mapping.key.toColumn.asPrimaryKey.validate key = .ok () ∧
        values.length = mapping.columns.length ∧
        ∀ (place : Nat) (field : FieldMapping) (value : Value),
          mapping.columns[place]? = some field → values[place]? = some value →
            field.Accepts value := by
  have fields : Columns.validate (mapping.columns.map FieldMapping.toColumn) values = .ok () ↔
      ∀ (place : Nat) (field : FieldMapping) (value : Value),
        mapping.columns[place]? = some field → values[place]? = some value →
          field.Accepts value := by
    simp only [Columns.validate_eq_ok_iff, List.getElem?_map, ← FieldMapping.validate_toColumn_iff]
    constructor
    · intro valid place field value fieldAt
      exact valid place field.toColumn value (by rw [fieldAt]; rfl)
    · intro accepts place column value columnAt
      obtain ⟨field, fieldAt, rfl⟩ := Option.map_eq_some_iff.mp columnAt
      exact accepts place field value fieldAt
  constructor
  · rintro ⟨width, valid⟩
    rw [tableColumns, Columns.validate, bind_eq_ok_iff] at valid
    obtain ⟨_, keyValid, valuesValid⟩ := valid
    exact ⟨keyValid, Nat.succ.inj width, fields.mp valuesValid⟩
  · rintro ⟨keyValid, width, accepts⟩
    exact ⟨congrArg (· + 1) width, bind_eq_ok_iff.mpr ⟨(), keyValid, fields.mpr accepts⟩⟩

end EntityMapping

/-! ## Tables that were made for a mapping -/

/-- Whether a table has the columns of a mapping and its key in the first of them. -/
structure Table.Houses (table : Table) (mapping : EntityMapping) : Prop where
  layout : table.schema.columns.sameLayout mapping.tableColumns = true
  keyFirst : table.schema.keyIndex = 0

namespace Table.Houses

variable {table : Table} {mapping : EntityMapping} {key : String} {row : Row}

theorem validateRow_eq_ok_iff (houses : table.Houses mapping) :
    table.validateRow row = .ok () ↔ mapping.Allows row := by
  have width : table.schema.columns.length = mapping.width :=
    (Columns.length_eq_of_sameLayout houses.layout).trans mapping.length_tableColumns
  rw [Table.validateRow_eq_ok_iff, Columns.validate_of_sameLayout houses.layout, width]
  exact ⟨fun ⟨fits, valid⟩ => ⟨fits, valid⟩, fun allows => ⟨allows.width, allows.valid⟩⟩

theorem admits_iff (houses : table.Houses mapping) :
    table.schema.Admits key row ↔
      mapping.Allows row ∧ row[0]? = some (.text key) ∧ key ≠ "" := by
  rw [Table.admits_iff, houses.validateRow_eq_ok_iff, Table.keyOf_eq_ok_iff, houses.keyFirst]

/-- What a row refers to by its table is what it holds in the reference fields of the mapping. -/
theorem refers_iff (houses : table.Houses mapping) {target referenced : String} :
    table.schema.Refers row target referenced ↔
      ∃ (place : Nat) (field : FieldMapping), mapping.fields[place]? = some field ∧
        field.reference = some target ∧ row[place]? = some (.text referenced) := by
  have declared (place : Nat) :
      (table.schema.columns[place]?).map (·.references) =
        mapping.fields[place]?.map (·.reference) :=
    (Columns.references_eq_of_sameLayout houses.layout place).trans
      (mapping.references_tableSchema "" place)
  constructor
  · rintro ⟨place, column, columnAt, references, held⟩
    have fieldAt := declared place
    rw [columnAt, Option.map_some, references, eq_comm, Option.map_eq_some_iff] at fieldAt
    obtain ⟨field, fieldAt, reference⟩ := fieldAt
    exact ⟨place, field, fieldAt, reference, held⟩
  · rintro ⟨place, field, fieldAt, reference, held⟩
    have columnAt := declared place
    rw [fieldAt, Option.map_some, reference, Option.map_eq_some_iff] at columnAt
    obtain ⟨column, columnAt, references⟩ := columnAt
    exact ⟨place, column, columnAt, references, held⟩

end Table.Houses

/-! ## Binding -/

theorem Catalog.isSome_get?_iff {catalog : Catalog} {table : String} :
    (catalog.get? table).isSome = true ↔ ∃ mapping ∈ catalog.mappings, mapping.table = table := by
  simp only [get?, List.find?_isSome, beq_iff_eq]

/-- Whether the table of a name, if there is one, has its key in the first column. -/
def Tables.KeyFirst (tables : Tables) (name : String) : Prop :=
  ∀ ⦃table : Table⦄, tables.get? name = some table → table.schema.keyIndex = 0

theorem Tables.KeyFirst.insert {tables : Tables} {name other : String} {written : Table}
    (keyFirst : tables.KeyFirst name) (first : other = name → written.schema.keyIndex = 0) :
    KeyFirst (KeyMap.insert tables other written) name := by
  intro table found
  rw [KeyMap.get?_insert] at found
  split at found
  · next same =>
      cases found
      exact first same.symm
  · exact keyFirst found

/-- Making sure of a table with the key in the first column moves no key. -/
theorem Database.ensureTable_keyFirst {σ : Type} {database : Database} {name : String}
    (keyFirst : database.tables.KeyFirst name) (save : Saver σ) {schema : TableSchema}
    (first : schema.keyIndex = 0) (medium : σ) :
    (database.ensureTable save schema medium).database.tables.KeyFirst name := by
  rw [ensureTable]
  split
  · rw [createTable]
    split
    · exact keyFirst
    · rw [flush_database]
      exact keyFirst.insert fun _ => first
  · next existing found =>
      split_ifs
      · exact keyFirst
      · exact keyFirst
      · simp only [flush_database]
        refine keyFirst.insert ?_
        rintro rfl
        have existingFirst : existing.schema.keyIndex = 0 := keyFirst found
        exact existingFirst

theorem Registry.ensureTables_keyFirst {σ : Type} {save : Saver σ} {strategy : KeyStrategy}
    {database : Database} {medium : σ} {name : String} (mappings : List EntityMapping)
    (keyFirst : database.tables.KeyFirst name) :
    (ensureTables save strategy database medium mappings).database.tables.KeyFirst name := by
  induction mappings generalizing database medium with
  | nil => exact keyFirst
  | cons mapping mappings ih =>
      have ensured := Database.ensureTable_keyFirst keyFirst save
        (mapping.keyIndex_tableSchema strategy.name) medium
      rw [ensureTables]
      split
      · exact ih ensured
      · exact ensured

/-- A registry is only bound when its catalog fits its strategy. -/
theorem Registry.bind_validates {σ : Type} {save : Saver σ} {now : Nat} {registry : Registry}
    {pool : Pool} {database : Database} {medium : σ}
    (bound : (registry.bind save now pool database medium).answer = .ok ()) :
    registry.catalog.validate registry.strategy = .ok () := by
  rw [bind] at bound
  split_ifs at bound
  split at bound
  · cases bound
  · next valid => exact valid

/-- Whether a registry was bound to a database and made the table of a mapping there.  The
database may have taken further steps since. -/
inductive Database.MadeBy (database : Database) (registry : Registry) (mapping : EntityMapping) :
    Prop where
  | intro {σ : Type} {save : Saver σ} {now : Nat} {pool : Pool} {origin : Database} {medium : σ}
      (reachable : origin.Reachable) (member : mapping ∈ registry.catalog.mappings)
      (missing : origin.tables.get? mapping.table = none)
      (bound : (registry.bind save now pool origin medium).answer = .ok ())
      (evolves : (registry.bind save now pool origin medium).database.Evolves database)

namespace Database.MadeBy

variable {database later : Database} {registry : Registry} {mapping : EntityMapping}

theorem evolve (made : database.MadeBy registry mapping) (evolves : database.Evolves later) :
    later.MadeBy registry mapping := by
  obtain ⟨reachable, member, missing, bound, before⟩ := made
  exact .intro reachable member missing bound (before.trans evolves)

theorem registers (made : database.MadeBy registry mapping) : database.Registers mapping := by
  obtain ⟨reachable, member, -, bound, evolves⟩ := made
  exact .intro reachable member bound evolves

theorem member (made : database.MadeBy registry mapping) :
    mapping ∈ registry.catalog.mappings := by
  obtain ⟨-, member, -, -, -⟩ := made
  exact member

theorem validates (made : database.MadeBy registry mapping) :
    registry.catalog.validate registry.strategy = .ok () := by
  obtain ⟨-, -, -, bound, -⟩ := made
  exact Registry.bind_validates bound

/-- Every other mapping of the catalog has its table as well. -/
theorem carries (made : database.MadeBy registry mapping) {other : EntityMapping}
    (member : other ∈ registry.catalog.mappings) : database.tables.Carries other := by
  obtain ⟨reachable, -, -, bound, evolves⟩ := made
  exact (Registers.intro reachable member bound evolves).carries

/-- **The table is there, with the columns of the mapping and the key in the first of them.** -/
theorem houses (made : database.MadeBy registry mapping) :
    ∃ table, database.tables.get? mapping.table = some table ∧ table.Houses mapping := by
  cases made with
  | @intro σ save now pool origin medium reachable member missing bound evolves =>
      have initially : origin.tables.KeyFirst mapping.table :=
        fun table found => nomatch missing.symm.trans found
      obtain ⟨table, strategy, found, layout⟩ :=
        Registry.bind_carries reachable.wellFormed bound mapping member
      have keyFirst : table.schema.keyIndex = 0 := by
        rw [(Registry.bind_database bound).2] at found
        exact Registry.ensureTables_keyFirst registry.catalog.mappings initially found
      have wellFormed := (reachable.evolve (Registry.bind_evolves bound)).wellFormed
      obtain ⟨kept, keptFound, columns, keyIndex⟩ := (evolves.tables wellFormed).keepsShapes found
      exact ⟨kept, keptFound, columns ▸ layout, keyIndex.trans keyFirst⟩

end Database.MadeBy

end EntityStore
