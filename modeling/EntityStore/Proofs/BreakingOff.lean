import EntityStore.Proofs.UndoLog

/-!
# Writes that break off

The checks of a write report what they find.  What the columns of a table find wrong
with a row is one of four things (`Fault.ofColumns`), and the other checks report a
table that is missing, a reference, a key, or a row that is or is not there.

Only one step takes something for granted: a row that fits the columns of its table is
asked for its key.  So a write breaks off only where the table has no column at the
place of its key (`Tables.not_hasKey_of_write`).  That is the place of the first primary
key, or else the first place, so it is missing when a table has no columns at all.
-/

set_option autoImplicit false

namespace EntityStore

/-! ## Faults that the columns of a table find -/

/-- Whether a fault says that a row does not fit the columns of its table: a wrong number of
values, a value of another type, a NULL or a text that is too long. -/
def Fault.ofColumns : Fault → Bool
  | .execution (.rowWidth _ _) => true
  | .typeMismatch _ => true
  | .constraint (.nullColumn _) => true
  | .constraint (.tooLong _ _ _) => true
  | _ => false

theorem Column.ofColumns_of_validate {column : Column} {value : Value} {fault : Fault}
    (refused : column.validate value = .error fault) : fault.ofColumns = true := by
  rw [validate] at refused
  split at refused
  · split at refused
    · cases refused
    · cases refused
      rfl
  · split at refused
    · cases refused
      rfl
    · split at refused
      · split at refused
        · cases refused
          rfl
        · cases refused
      · cases refused

theorem Columns.ofColumns_of_validate {columns : Columns} {row : Row} {fault : Fault}
    (refused : columns.validate row = .error fault) : fault.ofColumns = true := by
  induction columns generalizing row with
  | nil => cases refused
  | cons column columns ih =>
      cases row with
      | nil => cases refused
      | cons value row =>
          rcases bind_eq_error_iff.mp refused with first | ⟨_, -, others⟩
          · exact column.ofColumns_of_validate first
          · exact ih others

/-- The check of a row against the columns finds nothing else. -/
theorem Table.ofColumns_of_validateRow {table : Table} {row : Row} {fault : Fault}
    (refused : table.validateRow row = .error fault) : fault.ofColumns = true := by
  rw [validateRow] at refused
  split at refused
  · cases refused
    rfl
  · exact Columns.ofColumns_of_validate refused

/-! ## Tables with a key -/

/-- Whether there is a column at the place of the key. -/
def TableSchema.HasKey (schema : TableSchema) : Prop := schema.keyIndex < schema.columns.length

instance (schema : TableSchema) : Decidable schema.HasKey := Nat.decLt ..

namespace Table

variable {table : Table} {row : Row} {key : String}

/-- A row of the right width has a value at the place of the key, if there is such a column. -/
theorem not_hasKey_of_keyOf (valid : table.validateRow row = .ok ())
    (breaks : table.keyOf row = .error .panic) : ¬ table.schema.HasKey := by
  intro hasKey
  have width := (validateRow_eq_ok_iff.mp valid).1
  rw [keyOf] at breaks
  split at breaks
  · split at breaks
    · cases breaks
    · cases breaks
  · cases breaks
  · next missing =>
      rw [List.getElem?_eq_none_iff, width] at missing
      exact Nat.not_le.mpr hasKey missing

theorem not_hasKey_of_insert (breaks : table.insert row = .error .panic) :
    ¬ table.schema.HasKey := by
  rw [insert] at breaks
  rcases bind_eq_error_iff.mp breaks with invalid | ⟨_, valid, breaks⟩
  · cases ofColumns_of_validateRow invalid
  rcases bind_eq_error_iff.mp breaks with unkeyed | ⟨_, -, breaks⟩
  · exact not_hasKey_of_keyOf valid unkeyed
  split at breaks
  · cases breaks
  · cases breaks

theorem not_hasKey_of_update (breaks : table.update key row = .error .panic) :
    ¬ table.schema.HasKey := by
  rw [update] at breaks
  rcases bind_eq_error_iff.mp breaks with invalid | ⟨_, valid, breaks⟩
  · cases ofColumns_of_validateRow invalid
  rcases bind_eq_error_iff.mp breaks with unkeyed | ⟨_, -, breaks⟩
  · exact not_hasKey_of_keyOf valid unkeyed
  split at breaks
  · cases breaks
  · split at breaks
    · cases breaks
    · cases breaks

end Table

/-! ## Writes -/

namespace Tables

variable {tables : Tables} {next : Write} {name key : String} {row : Row}

/-- The schema of a table. -/
def schema? (tables : Tables) (name : String) : Option TableSchema :=
  (tables.get? name).map (·.schema)

/-- Whether every table that writes are about has a column for its key. -/
def Keyed (tables : Tables) (writes : List Write) : Prop :=
  ∀ next ∈ writes, ∀ schema ∈ tables.schema? next.table, schema.HasKey

instance (tables : Tables) (writes : List Write) : Decidable (tables.Keyed writes) :=
  List.decidableBAll ..

theorem find_ne_panic : tables.find name ≠ .error .panic := by
  intro breaks
  rw [find] at breaks
  split at breaks
  · cases breaks
  · cases breaks

theorem checkReferences_ne_panic : tables.checkReferences name row ≠ .error .panic := by
  intro breaks
  rw [checkReferences] at breaks
  rcases bind_eq_error_iff.mp breaks with missing | ⟨_, -, breaks⟩
  · exact find_ne_panic missing
  obtain ⟨reference, -, error⟩ := exists_of_forM_eq_error breaks
  rw [checkReference] at error
  split at error
  · rcases bind_eq_error_iff.mp error with missing | ⟨target, -, error⟩
    · exact find_ne_panic missing
    · split at error
      · cases error
      · cases error
  · cases error

theorem checkNotReferenced_ne_panic : tables.checkNotReferenced name key ≠ .error .panic := by
  intro breaks
  rw [checkNotReferenced] at breaks
  split at breaks
  · cases breaks
  · cases breaks

/-- **A write breaks off only for want of a key column.** -/
theorem not_hasKey_of_write (breaks : tables.write next = .error .panic) :
    ∃ schema ∈ tables.schema? next.table, ¬ schema.HasKey := by
  have stored {name : String} {table : Table} (found : tables.find name = .ok table) :
      tables.schema? name = some table.schema := by
    rw [schema?, find_eq_ok_iff.mp found, Option.map_some]
  cases next with
  | insert name row =>
      rw [write] at breaks
      rcases bind_eq_error_iff.mp breaks with references | ⟨_, -, breaks⟩
      · exact absurd references checkReferences_ne_panic
      rcases bind_eq_error_iff.mp breaks with missing | ⟨table, found, breaks⟩
      · exact absurd missing find_ne_panic
      rcases bind_eq_error_iff.mp breaks with inserted | ⟨_, -, impossible⟩
      · exact ⟨table.schema, stored found, table.not_hasKey_of_insert inserted⟩
      · cases impossible
  | update name key row =>
      rw [write] at breaks
      rcases bind_eq_error_iff.mp breaks with references | ⟨_, -, breaks⟩
      · exact absurd references checkReferences_ne_panic
      rcases bind_eq_error_iff.mp breaks with missing | ⟨table, found, breaks⟩
      · exact absurd missing find_ne_panic
      rcases bind_eq_error_iff.mp breaks with updated | ⟨_, -, impossible⟩
      · exact ⟨table.schema, stored found, table.not_hasKey_of_update updated⟩
      · cases impossible
  | delete name key =>
      rw [write] at breaks
      rcases bind_eq_error_iff.mp breaks with referenced | ⟨_, -, breaks⟩
      · exact absurd referenced checkNotReferenced_ne_panic
      rcases bind_eq_error_iff.mp breaks with missing | ⟨_, -, breaks⟩
      · exact absurd missing find_ne_panic
      split at breaks
      · cases breaks
      · cases breaks

end Tables

end EntityStore
