import EntityStore.Table
import EntityStore.Proofs.Checks
import EntityStore.Proofs.KeyMapLaws

/-!
# What tables contain

A table admits a row under a key when the row has one value for each column, every
column accepts its value, and the value at the place of the key is the key, which is
not empty.  This is all that inserting and updating check of a row by itself, so
both are described here by what they admit: inserting adds an admitted row under a
new key, updating replaces a stored row by an admitted one under the same key
(`Table.insert_eq_ok_iff`, `Table.update_eq_ok_iff`).

A table is well formed when it admits each of its rows under the key of the row.
-/

set_option autoImplicit false

namespace EntityStore

/-! ## Columns and rows -/

theorem Columns.validate_eq_ok_iff {columns : Columns} {row : Row} :
    columns.validate row = .ok () ↔
      ∀ (place : Nat) (column : Column) (value : Value), columns[place]? = some column →
        row[place]? = some value → column.validate value = .ok () := by
  induction columns generalizing row with
  | nil => simp [Columns.validate]
  | cons column columns ih =>
      cases row with
      | nil => simp [Columns.validate]
      | cons value row =>
          rw [Columns.validate, bind_eq_ok_iff]
          constructor
          · rintro ⟨_, first, others⟩ place column' value' columnAt valueAt
            cases place with
            | zero =>
                cases columnAt
                cases valueAt
                exact first
            | succ place => exact ih.mp others place column' value' columnAt valueAt
          · intro valid
            exact ⟨(), valid 0 column value rfl rfl,
              ih.mpr fun place column' value' => valid (place + 1) column' value'⟩

theorem Column.sameLayout_refl (column : Column) : column.sameLayout column = true := by
  simp [Column.sameLayout]

theorem Columns.sameLayout_refl (columns : Columns) : columns.sameLayout columns = true := by
  induction columns with
  | nil => rfl
  | cons column columns ih => rw [Columns.sameLayout, column.sameLayout_refl, ih, Bool.and_true]

namespace TableSchema

/-- What a table asks of a row that it is to keep under a key. -/
structure Admits (schema : TableSchema) (key : String) (row : Row) : Prop where
  width : row.length = schema.columns.length
  valid : ∀ (place : Nat) (column : Column) (value : Value), schema.columns[place]? = some column →
    row[place]? = some value → column.validate value = .ok ()
  keyed : row[schema.keyIndex]? = some (.text key)
  nonempty : key ≠ ""

/-- What a schema admits depends on its columns and its key alone. -/
theorem Admits.of_same_shape {schema other : TableSchema} {key : String} {row : Row}
    (admits : schema.Admits key row) (columns : other.columns = schema.columns)
    (keyIndex : other.keyIndex = schema.keyIndex) : other.Admits key row where
  width := by rw [columns, admits.width]
  valid := by rw [columns]; exact admits.valid
  keyed := by rw [keyIndex, admits.keyed]
  nonempty := admits.nonempty

end TableSchema

namespace Table

/-! ## The checks of a table -/

theorem validateRow_eq_ok_iff {table : Table} {row : Row} :
    table.validateRow row = .ok () ↔
      row.length = table.schema.columns.length ∧ table.schema.columns.validate row = .ok () := by
  rw [validateRow]
  split
  · next different =>
      constructor
      · intro impossible
        cases impossible
      · exact fun fits => absurd fits.1 different
  · next same =>
      exact ⟨fun valid => ⟨Decidable.not_not.mp same, valid⟩, fun fits => fits.2⟩

theorem keyOf_eq_ok_iff {table : Table} {row : Row} {key : String} :
    table.keyOf row = .ok key ↔ row[table.schema.keyIndex]? = some (.text key) ∧ key ≠ "" := by
  rw [keyOf]
  split
  · next content found =>
      rw [found]
      split
      · next empty =>
          have isEmpty : content = "" := String.isEmpty_iff.mp empty
          constructor
          · intro impossible
            cases impossible
          · rintro ⟨same, nonempty⟩
            cases same
            exact absurd isEmpty nonempty
      · next notEmpty =>
          constructor
          · intro same
            cases same
            exact ⟨rfl, fun empty => notEmpty (String.isEmpty_iff.mpr empty)⟩
          · rintro ⟨same, -⟩
            cases same
            rfl
  · next value notText found =>
      rw [found]
      constructor
      · intro impossible
        cases impossible
      · rintro ⟨same, -⟩
        cases same
        exact absurd rfl (notText key)
  · next missing =>
      rw [missing]
      exact ⟨nofun, fun found => (nomatch found.1)⟩

/-- A row passes the checks of a table exactly when the table admits it under the key it names. -/
theorem admits_iff {table : Table} {key : String} {row : Row} :
    table.schema.Admits key row ↔ table.validateRow row = .ok () ∧ table.keyOf row = .ok key := by
  rw [validateRow_eq_ok_iff, keyOf_eq_ok_iff, Columns.validate_eq_ok_iff]
  exact ⟨fun admits => ⟨⟨admits.width, admits.valid⟩, admits.keyed, admits.nonempty⟩,
    fun ⟨⟨width, valid⟩, keyed, nonempty⟩ => ⟨width, valid, keyed, nonempty⟩⟩

/-! ## Writing -/

/-- The table with a row under a key. -/
def withRow (table : Table) (key : String) (row : Row) : Table :=
  { table with rows := table.rows.insert key row }

theorem get?_withRow (table : Table) (key : String) (row : Row) (wanted : String) :
    (table.withRow key row).get? wanted = if wanted = key then some row else table.get? wanted :=
  KeyMap.get?_insert table.rows key row wanted

theorem get?_erase (table : Table) (key wanted : String) :
    (table.erase key).get? wanted = if wanted = key then none else table.get? wanted :=
  KeyMap.get?_erase table.rows key wanted

theorem contains_iff {table : Table} {key : String} :
    table.contains key = true ↔ ∃ row, table.get? key = some row :=
  KeyMap.contains_iff

/-- Inserting succeeds exactly when the row is admitted under a key that is new. -/
theorem insert_eq_ok_iff {table later : Table} {row : Row} {key : String} :
    table.insert row = .ok (later, key) ↔
      table.schema.Admits key row ∧ table.get? key = none ∧ later = table.withRow key row := by
  rw [admits_iff, insert]
  simp only [bind_eq_ok_iff]
  constructor
  · rintro ⟨_, valid, named, keyed, inserted⟩
    split at inserted
    · cases inserted
    · next free =>
        cases inserted
        exact ⟨⟨valid, keyed⟩, Option.not_isSome_iff_eq_none.mp free, rfl⟩
  · rintro ⟨⟨valid, keyed⟩, missing, rfl⟩
    have free : ¬ table.contains key = true := Option.not_isSome_iff_eq_none.mpr missing
    refine ⟨(), valid, key, keyed, ?_⟩
    rw [if_neg free]
    rfl

/-- Updating succeeds exactly when the row is admitted under the key of a stored one. -/
theorem update_eq_ok_iff {table later : Table} {key : String} {row old : Row} :
    table.update key row = .ok (later, old) ↔
      table.schema.Admits key row ∧ table.get? key = some old ∧
        later = table.withRow key row := by
  rw [admits_iff, update]
  simp only [bind_eq_ok_iff]
  constructor
  · rintro ⟨_, valid, named, keyed, updated⟩
    split at updated
    · cases updated
    · next same =>
        obtain rfl : named = key := Decidable.not_not.mp same
        split at updated
        · cases updated
        · next found =>
            cases updated
            exact ⟨⟨valid, keyed⟩, found, rfl⟩
  · rintro ⟨⟨valid, keyed⟩, found, rfl⟩
    refine ⟨(), valid, key, keyed, ?_⟩
    rw [if_neg (not_not_intro rfl), found]
    rfl

/-! ## Well-formed tables -/

/-- A table that admits each of its rows under the key of the row. -/
def WellFormed (table : Table) : Prop :=
  ∀ ⦃key : String⦄ ⦃row : Row⦄, table.get? key = some row → table.schema.Admits key row

namespace WellFormed

variable {table : Table} {key : String} {row : Row}

theorem ofSchema (schema : TableSchema) : (Table.ofSchema schema).WellFormed := by
  intro key row found
  cases found

theorem withRow (wellFormed : table.WellFormed) (admits : table.schema.Admits key row) :
    (table.withRow key row).WellFormed := by
  intro wanted stored found
  rw [get?_withRow] at found
  split at found
  · next same =>
      cases found
      exact same ▸ admits
  · exact wellFormed found

theorem erase (wellFormed : table.WellFormed) (key : String) : (table.erase key).WellFormed := by
  intro wanted stored found
  rw [get?_erase] at found
  split at found
  · cases found
  · exact wellFormed found

theorem withKeyStrategy (wellFormed : table.WellFormed) (strategy : String) :
    (table.withKeyStrategy strategy).WellFormed :=
  fun _ _ found => (wellFormed found).of_same_shape rfl rfl

end WellFormed

end Table

end EntityStore
