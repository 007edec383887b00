import EntityStore.Connection
import EntityStore.Proofs.Reachability

/-!
# The store invariant

In every reachable database a table stands under its own name, and each of its rows
is admitted under the key it is kept under: one value for each column, each accepted
by its column, and the key in its place.  The invariant itself is the one that taking
writes back relies on (`Tables.WellFormed`).

What readers see follows from it.  A row names its key, so the rows of a table are
listed by keys that strictly increase, and the row under a key is the one of the list
that names the key.  The columns of a table and the place of its key never change,
whatever happens to its rows.
-/

set_option autoImplicit false

namespace EntityStore

open Connection (rowKey?)

/-! ## Rows by the keys they name -/

theorem rowKey?_eq_some_iff {keyIndex : Nat} {row : Row} {key : String} :
    rowKey? keyIndex row = some key ↔ row[keyIndex]? = some (.text key) := by
  rw [rowKey?, Option.bind_eq_some_iff]
  constructor
  · rintro ⟨value, found, named⟩
    cases value with
    | text content =>
        cases named
        exact found
    | null | integer | float | boolean => cases named
  · exact fun found => ⟨.text key, found, rfl⟩

theorem TableSchema.Admits.rowKey?_eq {schema : TableSchema} {key : String} {row : Row}
    (admits : schema.Admits key row) : rowKey? schema.keyIndex row = some key :=
  rowKey?_eq_some_iff.mpr admits.keyed

/-- Whether rows are listed by the keys they name, in strictly increasing order. -/
def Row.Ascending (keyIndex : Nat) (rows : List Row) : Prop :=
  ∃ keys : List String, keys.Pairwise (· < ·) ∧ rows.map (rowKey? keyIndex) = keys.map some

namespace Table.WellFormed

variable {table : Table}

theorem rowKey?_of_mem (wellFormed : table.WellFormed) {entry : String × Row}
    (member : entry ∈ table.rows.entries) :
    rowKey? table.schema.keyIndex entry.2 = some entry.1 :=
  (wellFormed (KeyMap.mem_entries_iff.mp member)).rowKey?_eq

/-- The rows of a table name the keys they are kept under, in order. -/
theorem map_rowKey?_scan (wellFormed : table.WellFormed) :
    table.scan.map (rowKey? table.schema.keyIndex) = table.rows.keys.map some := by
  simp only [Table.scan, KeyMap.values, KeyMap.keys, List.map_map]
  exact List.map_congr_left fun entry member => wellFormed.rowKey?_of_mem member

theorem ascending_scan (wellFormed : table.WellFormed) :
    Row.Ascending table.schema.keyIndex table.scan :=
  ⟨table.rows.keys, table.rows.keys_sorted, wellFormed.map_rowKey?_scan⟩

/-- The row under a key is the listed one that names the key. -/
theorem get?_eq_some_iff (wellFormed : table.WellFormed) {key : String} {row : Row} :
    table.get? key = some row ↔
      row ∈ table.scan ∧ rowKey? table.schema.keyIndex row = some key := by
  constructor
  · intro found
    exact ⟨KeyMap.mem_values_iff.mpr ⟨key, found⟩, (wellFormed found).rowKey?_eq⟩
  · rintro ⟨member, named⟩
    obtain ⟨held, found⟩ := KeyMap.mem_values_iff.mp member
    cases (wellFormed found).rowKey?_eq.symm.trans named
    exact found

/-- Looking a key up is finding it in the list of rows. -/
theorem find?_scan (wellFormed : table.WellFormed) (key : String) :
    table.scan.find? (fun row => rowKey? table.schema.keyIndex row = some key) =
      table.get? key := by
  cases stored : table.get? key with
  | none =>
      refine List.find?_eq_none.mpr fun row member named => ?_
      have found := wellFormed.get?_eq_some_iff.mpr ⟨member, of_decide_eq_true named⟩
      exact nomatch stored.symm.trans found
  | some row =>
      obtain ⟨member, named⟩ := wellFormed.get?_eq_some_iff.mp stored
      cases first : table.scan.find? (fun row => rowKey? table.schema.keyIndex row = some key) with
      | none => exact absurd (decide_eq_true named) (List.find?_eq_none.mp first row member)
      | some other =>
          have otherNamed : rowKey? table.schema.keyIndex other = some key := by
            simpa using List.find?_some first
          have found := wellFormed.get?_eq_some_iff.mpr
            ⟨List.mem_of_find?_eq_some first, otherNamed⟩
          exact found.symm.trans stored

end Table.WellFormed

/-! ## The shapes of tables -/

namespace Tables

variable {tables later : Tables}

/-- Whether every table is still there later, with the same columns and the key in the same
place. -/
def KeepsShapes (tables later : Tables) : Prop :=
  ∀ ⦃name : String⦄ ⦃table : Table⦄, tables.get? name = some table →
    ∃ kept, later.get? name = some kept ∧ kept.schema.columns = table.schema.columns ∧
      kept.schema.keyIndex = table.schema.keyIndex

namespace KeepsShapes

theorem refl (tables : Tables) : tables.KeepsShapes tables :=
  fun _ table found => ⟨table, found, rfl, rfl⟩

theorem trans {between : Tables} (first : tables.KeepsShapes between)
    (second : between.KeepsShapes later) : tables.KeepsShapes later := by
  intro name table found
  obtain ⟨middle, middleFound, middleColumns, middleKey⟩ := first found
  obtain ⟨kept, keptFound, columns, key⟩ := second middleFound
  exact ⟨kept, keptFound, columns.trans middleColumns, key.trans middleKey⟩

theorem insert {name : String} {table written : Table} (found : tables.get? name = some table)
    (columns : written.schema.columns = table.schema.columns)
    (keyIndex : written.schema.keyIndex = table.schema.keyIndex) :
    tables.KeepsShapes (tables.insert name written) := by
  intro other stored otherFound
  by_cases same : other = name
  · subst same
    cases found.symm.trans otherFound
    exact ⟨written, KeyMap.get?_insert_self .., columns, keyIndex⟩
  · exact ⟨stored, by rw [KeyMap.get?_insert_of_ne _ same, otherFound], rfl, rfl⟩

theorem insert_of_missing {name : String} (missing : tables.get? name = none) (written : Table) :
    tables.KeepsShapes (tables.insert name written) := by
  intro other stored found
  exact ⟨stored, KeyMap.get?_insert_of_missing missing found written, rfl, rfl⟩

end KeepsShapes

theorem Changes.keepsShapes (changes : tables.Changes later) : tables.KeepsShapes later := by
  cases changes with
  | created missing => exact .insert_of_missing missing _
  | switched found => exact .insert found rfl rfl
  | written performed =>
      cases performed with
      | insert found | update found | delete found => exact .insert found rfl rfl

theorem Evolves.keepsShapes (evolves : tables.Evolves later) : tables.KeepsShapes later := by
  induction evolves with
  | refl => exact .refl _
  | tail _ changes ih => exact ih.trans changes.keepsShapes

end Tables

/-! ## The invariant -/

namespace Database

variable {database : Database}

theorem get_eq_ok_iff {name key : String} {answer : Option Row} :
    database.get name key = .ok answer ↔
      ∃ table, database.tables.get? name = some table ∧ table.get? key = answer := by
  rw [get, bind_eq_ok_iff]
  refine exists_congr fun table => and_congr Tables.find_eq_ok_iff ?_
  exact ⟨fun same => by cases same; rfl, fun same => by cases same; rfl⟩

/-- **The store invariant.**  Every table of a reachable database stands under its name and admits
each row under the key it is kept under; its rows are listed in strictly ascending order of their
keys; the row under a key is the one of the list that names it; and no further steps change the
columns of the table or the place of its key. -/
theorem Reachable.store_invariant (reachable : database.Reachable) {name : String} {table : Table}
    (found : database.tables.get? name = some table) :
    table.schema.name = name ∧
    (∀ key row, table.get? key = some row → table.schema.Admits key row) ∧
    (∃ rows, database.scan name = .ok rows ∧ Row.Ascending table.schema.keyIndex rows ∧
      ∀ key, database.get name key =
        .ok (rows.find? fun row => rowKey? table.schema.keyIndex row = some key)) ∧
    ∀ later, database.Evolves later →
      ∃ kept, later.tables.get? name = some kept ∧ kept.schema.columns = table.schema.columns ∧
        kept.schema.keyIndex = table.schema.keyIndex := by
  have wellFormed := reachable.wellFormed
  have rows := wellFormed.rows found
  have tableFound := Tables.find_eq_ok_iff.mpr found
  refine ⟨wellFormed.named found, fun _ _ stored => rows stored, ?_, ?_⟩
  · refine ⟨table.scan, by rw [scan, tableFound]; rfl, rows.ascending_scan, fun key => ?_⟩
    rw [get, tableFound, rows.find?_scan]
    rfl
  · intro later evolves
    exact (evolves.tables wellFormed).keepsShapes found

/-- The persons are listed by name, and each is found under it. -/
theorem staff_listed :
    ∃ rows, Staff.database.scan "staff" = .ok rows ∧ Row.Ascending 0 rows ∧
      ∀ key, Staff.database.get "staff" key =
        .ok (rows.find? fun row => rowKey? 0 row = some key) :=
  (Reachable.store_invariant Staff.database_reachable (rfl :
    Staff.database.tables.get? "staff" = some _)).2.2.1

end Database

end EntityStore
