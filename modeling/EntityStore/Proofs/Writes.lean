import EntityStore.Database
import EntityStore.Proofs.TableContents

/-!
# What one write does

A write is carried out under exactly the conditions that `Tables.Performs` lists for
its kind, and then changes one row of one table.  Everything that is proved about
writes is derived from this relation (`Tables.write_eq_ok_iff`): which invariants
they keep, which step takes them back, and what they leave alone.

The conditions that span tables speak of references.  A row refers to a key of a
table when one of its columns is a reference to that table and holds the key.  The
references of a written row have to name keys that are there, and a deleted row has
to be one that no row of any table refers to.
-/

set_option autoImplicit false

namespace EntityStore

/-! ## References -/

theorem Columns.mem_referencesFrom_iff {columns : Columns} {start place : Nat} {target : String} :
    (place, target) ∈ columns.referencesFrom start ↔
      ∃ offset column, place = start + offset ∧ columns[offset]? = some column ∧
        column.references = some target := by
  induction columns generalizing start with
  | nil => simp [Columns.referencesFrom]
  | cons head rest ih =>
      -- Offset zero is the first column, the other offsets are those of the rest.
      rw [← Nat.or_exists_add_one, Columns.referencesFrom]
      cases declared : head.references with
      | none => simp [declared, ih, Nat.add_assoc, Nat.add_comm 1]
      | some held => simp [declared, ih, Nat.add_assoc, Nat.add_comm 1, eq_comm]

theorem Columns.mem_references_iff {columns : Columns} {place : Nat} {target : String} :
    (place, target) ∈ columns.references ↔
      ∃ column, columns[place]? = some column ∧ column.references = some target := by
  simp [Columns.references, Columns.mem_referencesFrom_iff]

/-- Whether a row of a table holds a key in a column that is a reference to a table. -/
def TableSchema.Refers (schema : TableSchema) (row : Row) (target key : String) : Prop :=
  ∃ (place : Nat) (column : Column), schema.columns[place]? = some column ∧
    column.references = some target ∧ row[place]? = some (.text key)

namespace Tables

variable {tables later : Tables}

/-- Whether there is a row under a key of a table. -/
def Holds (tables : Tables) (name key : String) : Prop :=
  ∃ table row, tables.get? name = some table ∧ table.get? key = some row

theorem find_eq_ok_iff {name : String} {table : Table} :
    tables.find name = .ok table ↔ tables.get? name = some table := by
  rw [find]
  cases tables.get? name with
  | none => exact ⟨nofun, nofun⟩
  | some other => exact ⟨fun same => by cases same; rfl, fun same => by cases same; rfl⟩

theorem checkReference_eq_ok_iff {name : String} {columns : Columns} {row : Row}
    {reference : Nat × String} :
    tables.checkReference name columns row reference = .ok () ↔
      ∀ key, row[reference.1]? = some (.text key) → tables.Holds reference.2 key := by
  rw [checkReference]
  split
  · next held found =>
      rw [bind_eq_ok_iff]
      constructor
      · rintro ⟨target, targetFound, checked⟩ key same
        cases found.symm.trans same
        split at checked
        · next contained =>
            obtain ⟨stored, storedFound⟩ := Table.contains_iff.mp contained
            exact ⟨target, stored, find_eq_ok_iff.mp targetFound, storedFound⟩
        · cases checked
      · intro named
        obtain ⟨target, stored, targetFound, storedFound⟩ := named held found
        refine ⟨target, find_eq_ok_iff.mpr targetFound, ?_⟩
        rw [if_pos (Table.contains_iff.mpr ⟨stored, storedFound⟩)]
  · next notText =>
      exact ⟨fun _ key found => absurd found (notText key), fun _ => rfl⟩

theorem checkReferences_eq_ok_iff {name : String} {row : Row} :
    tables.checkReferences name row = .ok () ↔
      ∃ table, tables.get? name = some table ∧
        ∀ target key, table.schema.Refers row target key → tables.Holds target key := by
  rw [checkReferences, bind_eq_ok_iff]
  refine exists_congr fun table => and_congr find_eq_ok_iff ?_
  rw [forM_eq_ok_iff]
  constructor
  · rintro checked target key ⟨place, column, columnAt, references, held⟩
    have member := Columns.mem_references_iff.mpr ⟨column, columnAt, references⟩
    exact checkReference_eq_ok_iff.mp (checked (place, target) member) key held
  · rintro named ⟨place, target⟩ member
    obtain ⟨column, columnAt, references⟩ := Columns.mem_references_iff.mp member
    exact checkReference_eq_ok_iff.mpr fun key held =>
      named target key ⟨place, column, columnAt, references, held⟩

theorem refersTo_iff {referrer : Table} {name key : String} :
    refersTo referrer name key = true ↔
      ∃ rowKey row, referrer.get? rowKey = some row ∧ referrer.schema.Refers row name key := by
  simp only [refersTo, List.any_eq_true, Bool.and_eq_true, beq_iff_eq, Table.anyReferences,
    Prod.exists, Columns.mem_references_iff, Table.scan, KeyMap.mem_values_iff]
  constructor
  · rintro ⟨place, target, ⟨column, columnAt, references⟩, rfl, row, ⟨rowKey, found⟩, held⟩
    exact ⟨rowKey, row, found, place, column, columnAt, references, held⟩
  · rintro ⟨rowKey, row, found, place, column, columnAt, references, held⟩
    exact ⟨place, name, ⟨column, columnAt, references⟩, rfl, row, ⟨rowKey, found⟩, held⟩

theorem checkNotReferenced_eq_ok_iff {name key : String} :
    tables.checkNotReferenced name key = .ok () ↔
      ∀ referrer table rowKey row, tables.get? referrer = some table →
        table.get? rowKey = some row → ¬ table.schema.Refers row name key := by
  rw [checkNotReferenced]
  split
  · next referrer table first =>
      constructor
      · intro impossible
        cases impossible
      · intro unnamed
        have found := KeyMap.mem_entries_iff.mp (List.mem_of_find?_eq_some first)
        have passed := List.find?_some first
        obtain ⟨rowKey, row, rowFound, refers⟩ := refersTo_iff.mp passed
        exact absurd refers (unnamed referrer table rowKey row found rowFound)
  · next noneRefers =>
      refine ⟨fun _ referrer table rowKey row found rowFound refers => ?_, fun _ => rfl⟩
      have passed := List.find?_eq_none.mp noneRefers (referrer, table)
        (KeyMap.mem_entries_iff.mpr found)
      exact passed (refersTo_iff.mpr ⟨rowKey, row, rowFound, refers⟩)

/-! ## Carrying out a write -/

/-- When a write is carried out, what it makes of the tables, and the step that takes it back. -/
inductive Performs (tables : Tables) : Write → Tables → Undo → Prop where
  | insert {name key : String} {row : Row} {table : Table}
      (found : tables.get? name = some table)
      (references : ∀ target referenced, table.schema.Refers row target referenced →
        tables.Holds target referenced)
      (admits : table.schema.Admits key row) (missing : table.get? key = none) :
      Performs tables (.insert name row) (tables.insert name (table.withRow key row))
        (.remove name key)
  | update {name key : String} {row old : Row} {table : Table}
      (found : tables.get? name = some table)
      (references : ∀ target referenced, table.schema.Refers row target referenced →
        tables.Holds target referenced)
      (admits : table.schema.Admits key row) (stored : table.get? key = some old) :
      Performs tables (.update name key row) (tables.insert name (table.withRow key row))
        (.restore name key old)
  | delete {name key : String} {old : Row} {table : Table}
      (found : tables.get? name = some table)
      (unreferenced : ∀ referrer other rowKey row, tables.get? referrer = some other →
        other.get? rowKey = some row → ¬ other.schema.Refers row name key)
      (stored : table.get? key = some old) :
      Performs tables (.delete name key) (tables.insert name (table.erase key))
        (.reinsert name old)

theorem performs_of_write {next : Write} {step : Undo}
    (written : tables.write next = .ok (later, step)) : tables.Performs next later step := by
  cases next with
  | insert name row =>
      simp only [write, bind_eq_ok_iff, Prod.exists] at written
      obtain ⟨_, references, table, found, table', key, inserted, done⟩ := written
      obtain ⟨admits, missing, rfl⟩ := Table.insert_eq_ok_iff.mp inserted
      cases done
      obtain ⟨same, sameFound, named⟩ := checkReferences_eq_ok_iff.mp references
      rw [find_eq_ok_iff] at found
      cases found.symm.trans sameFound
      exact .insert found named admits missing
  | update name key row =>
      simp only [write, bind_eq_ok_iff, Prod.exists] at written
      obtain ⟨_, references, table, found, table', old, updated, done⟩ := written
      obtain ⟨admits, stored, rfl⟩ := Table.update_eq_ok_iff.mp updated
      cases done
      obtain ⟨same, sameFound, named⟩ := checkReferences_eq_ok_iff.mp references
      rw [find_eq_ok_iff] at found
      cases found.symm.trans sameFound
      exact .update found named admits stored
  | delete name key =>
      simp only [write, bind_eq_ok_iff] at written
      obtain ⟨_, unreferenced, table, found, deleted⟩ := written
      split at deleted
      · cases deleted
      · next old stored =>
          cases deleted
          exact .delete (find_eq_ok_iff.mp found) (checkNotReferenced_eq_ok_iff.mp unreferenced)
            stored

theorem Performs.write_eq {next : Write} {step : Undo}
    (performed : tables.Performs next later step) :
    tables.write next = .ok (later, step) := by
  cases performed with
  | @insert name key row table found references admits missing =>
      simp only [write, bind_eq_ok_iff, Prod.exists]
      exact ⟨(), checkReferences_eq_ok_iff.mpr ⟨table, found, references⟩, table,
        find_eq_ok_iff.mpr found, _, key, Table.insert_eq_ok_iff.mpr ⟨admits, missing, rfl⟩, rfl⟩
  | @update name key row old table found references admits stored =>
      simp only [write, bind_eq_ok_iff, Prod.exists]
      exact ⟨(), checkReferences_eq_ok_iff.mpr ⟨table, found, references⟩, table,
        find_eq_ok_iff.mpr found, _, old, Table.update_eq_ok_iff.mpr ⟨admits, stored, rfl⟩, rfl⟩
  | @delete name key old table found unreferenced stored =>
      simp only [write, bind_eq_ok_iff]
      refine ⟨(), checkNotReferenced_eq_ok_iff.mpr unreferenced, table,
        find_eq_ok_iff.mpr found, ?_⟩
      rw [stored]

/-- **A write succeeds exactly as the relation says.** -/
theorem write_eq_ok_iff {next : Write} {step : Undo} :
    tables.write next = .ok (later, step) ↔ tables.Performs next later step :=
  ⟨performs_of_write, Performs.write_eq⟩

end Tables

end EntityStore
