import EntityStore.Storage
import EntityStore.Proofs.BatchSemantics

/-!
# Restricted deletion

A row is deleted unless a row refers to it.  The check visits the tables one after the
other and stops at the first that holds such a row, so the fault names a table that
depends on the order of the visit; whether the deletion is refused does not
(`Tables.checkVisiting_cases`).

The check asks every row, the one that is to go among them.  So a row that refers to
itself is not deleted either, although nobody else needs it
(`Database.Reachable.delete_restricted`).
-/

set_option autoImplicit false

namespace EntityStore

/-! ## Rows that refer to a key -/

theorem TableSchema.refers_iff {schema : TableSchema} {row : Row} {target key : String} :
    schema.Refers row target key ↔ ∃ reference ∈ schema.columns.references,
      reference.2 = target ∧ row[reference.1]? = some (.text key) := by
  simp only [Refers, Prod.exists, Columns.mem_references_iff]
  constructor
  · rintro ⟨place, column, columnAt, references, held⟩
    exact ⟨place, target, ⟨column, columnAt, references⟩, rfl, held⟩
  · rintro ⟨place, _, ⟨column, columnAt, references⟩, rfl, held⟩
    exact ⟨place, column, columnAt, references, held⟩

instance (schema : TableSchema) (row : Row) (target key : String) :
    Decidable (schema.Refers row target key) :=
  decidable_of_iff' _ TableSchema.refers_iff

namespace Tables

variable {tables : Tables} {name key : String} {visited : List (String × Table)}

/-- Whether the row under a key of a table refers to a key of another. -/
def RowRefers (tables : Tables) (referrer rowKey name key : String) : Prop :=
  ∃ table row, tables.get? referrer = some table ∧ table.get? rowKey = some row ∧
    table.schema.Refers row name key

/-- Whether some row refers to a key. -/
def Referred (tables : Tables) (name key : String) : Prop :=
  ∃ referrer rowKey, tables.RowRefers referrer rowKey name key

/-- Whether a row other than the one under the key refers to it. -/
def OthersRefer (tables : Tables) (name key : String) : Prop :=
  ∃ referrer rowKey, (referrer, rowKey) ≠ (name, key) ∧ tables.RowRefers referrer rowKey name key

theorem othersRefer_iff :
    tables.OthersRefer name key ↔ ∃ entry ∈ tables.entries, ∃ held ∈ entry.2.rows.entries,
      (entry.1, held.1) ≠ (name, key) ∧ entry.2.schema.Refers held.2 name key := by
  simp only [OthersRefer, RowRefers, Prod.exists, KeyMap.mem_entries_iff]
  constructor
  · rintro ⟨referrer, rowKey, different, table, row, found, stored, refers⟩
    exact ⟨referrer, table, found, rowKey, row, stored, different, refers⟩
  · rintro ⟨referrer, table, found, rowKey, row, stored, different, refers⟩
    exact ⟨referrer, rowKey, different, table, row, found, stored, refers⟩

instance (tables : Tables) (name key : String) : Decidable (tables.OthersRefer name key) :=
  decidable_of_iff' _ othersRefer_iff

instance (tables : Tables) (referrer rowKey name key : String) :
    Decidable (tables.RowRefers referrer rowKey name key) :=
  decidable_of_iff (∃ table ∈ tables.get? referrer, ∃ row ∈ table.get? rowKey,
      table.schema.Refers row name key)
    ⟨fun ⟨table, found, row, stored, refers⟩ => ⟨table, row, found, stored, refers⟩,
      fun ⟨table, row, found, stored, refers⟩ => ⟨table, found, row, stored, refers⟩⟩

theorem referred_iff :
    tables.Referred name key ↔
      tables.OthersRefer name key ∨ tables.RowRefers name key name key := by
  constructor
  · rintro ⟨referrer, rowKey, refers⟩
    by_cases same : (referrer, rowKey) = (name, key)
    · cases same
      exact .inr refers
    · exact .inl ⟨referrer, rowKey, same, refers⟩
  · rintro (⟨referrer, rowKey, -, refers⟩ | refers)
    · exact ⟨referrer, rowKey, refers⟩
    · exact ⟨name, key, refers⟩

/-! ## Visiting the tables -/

/-- Checks that no row of the tables of a list names a key. -/
def checkVisiting (visited : List (String × Table)) (name key : String) : Except Fault Unit :=
  match visited.find? fun entry => refersTo entry.2 name key with
  | some (referrer, _) => .error (.constraint (.stillReferenced key name referrer))
  | none => .ok ()

/-- In whatever order the tables are visited, the check passes unless some row refers to the key,
and then it names a table that holds such a row. -/
theorem checkVisiting_cases (perm : visited.Perm tables.entries) (name key : String) :
    (¬ tables.Referred name key ∧ checkVisiting visited name key = .ok ()) ∨
      ∃ referrer rowKey, tables.RowRefers referrer rowKey name key ∧
        checkVisiting visited name key =
          .error (.constraint (.stillReferenced key name referrer)) := by
  rw [checkVisiting]
  split
  · next referrer table first =>
      have found := KeyMap.mem_entries_iff.mp (perm.subset (List.mem_of_find?_eq_some first))
      have passed := List.find?_some first
      obtain ⟨rowKey, row, stored, refers⟩ := refersTo_iff.mp passed
      exact .inr ⟨referrer, rowKey, ⟨table, row, found, stored, refers⟩, rfl⟩
  · next noneRefers =>
      refine .inl ⟨?_, rfl⟩
      rintro ⟨referrer, rowKey, table, row, found, stored, refers⟩
      have member := perm.symm.subset (KeyMap.mem_entries_iff.mpr found)
      exact List.find?_eq_none.mp noneRefers _ member
        (refersTo_iff.mpr ⟨rowKey, row, stored, refers⟩)

/-- Deletes a row, where the tables are visited in the order of a list, and says how to take it
back. -/
def deleteVisiting (tables : Tables) (visited : List (String × Table)) (name key : String) :
    Except Fault (Tables × Undo) := do
  checkVisiting visited name key
  let table ← tables.find name
  match table.get? key with
  | none => .error (.notFound name key)
  | some old => .ok (tables.insert name (table.erase key), .reinsert name old)

/-- Carrying out a deletion visits the tables in the order of their names. -/
theorem write_delete (tables : Tables) (name key : String) :
    tables.write (.delete name key) = tables.deleteVisiting tables.entries name key := rfl

theorem deleteVisiting_cases {table : Table} {row : Row} (perm : visited.Perm tables.entries)
    (found : tables.get? name = some table) (stored : table.get? key = some row) :
    (¬ tables.Referred name key ∧ tables.deleteVisiting visited name key =
        .ok (tables.insert name (table.erase key), .reinsert name row)) ∨
      ∃ referrer rowKey, tables.RowRefers referrer rowKey name key ∧
        tables.deleteVisiting visited name key =
          .error (.constraint (.stillReferenced key name referrer)) := by
  rcases checkVisiting_cases perm name key with ⟨free, passed⟩ | ⟨referrer, rowKey, refers, refused⟩
  · refine .inl ⟨free, ?_⟩
    simp only [deleteVisiting, bind_eq_ok_iff]
    exact ⟨(), passed, table, find_eq_ok_iff.mpr found, by rw [stored]⟩
  · refine .inr ⟨referrer, rowKey, refers, ?_⟩
    rw [deleteVisiting, refused]
    rfl

/-- Erasing a row takes it away and leaves all others. -/
theorem row?_erase {table : Table} (found : tables.get? name = some table)
    (key other wanted : String) :
    row? (tables.insert name (table.erase key)) other wanted =
      if other = name ∧ wanted = key then none else tables.row? other wanted := by
  split
  · next same =>
      rw [same.1, same.2, row?, KeyMap.get?_insert_self, Option.bind_some, Table.get?_erase,
        if_pos rfl]
  · next different =>
      refine row?_insert found fun sameTable => ?_
      rw [Table.get?_erase, if_neg fun sameKey => different ⟨sameTable, sameKey⟩]

end Tables

/-! ## Deleting one row -/

namespace Database

variable {database : Database} {place name key : String} {visited : List (String × Table)}

/-- Deletes a row of a database that keeps no image, where the tables are visited in the order of
a list. -/
def deleteVisiting (database : Database) (visited : List (String × Table)) (name key : String)
    (files : FileTree) : Outcome FileTree Unit :=
  match database.tables.deleteVisiting visited name key with
  | .ok (tables, _) => ⟨.ok (), { database with tables }, files⟩
  | .error fault => ⟨.error fault, database, files⟩

/-- A batch of one deletion is the deletion. -/
theorem apply_delete (wellFormed : database.tables.WellFormed)
    (inMemory : database.location = .memory place) (moment : Timestamp) (name key : String)
    (files : FileTree) :
    database.apply (database.saver moment) [.delete name key] files =
      database.deleteVisiting database.tables.entries name key files := by
  rw [apply_one wellFormed, Tables.write_delete, deleteVisiting]
  cases database.tables.deleteVisiting database.tables.entries name key with
  | error fault => rfl
  | ok written => simp only [saver_of_memory inMemory]

/-- In whatever order the tables are visited, the row is erased unless some row refers to it, and
then the database stays as it is. -/
theorem deleteVisiting_cases {table : Table} {row : Row}
    (perm : visited.Perm database.tables.entries)
    (found : database.tables.get? name = some table) (stored : table.get? key = some row)
    (files : FileTree) :
    (¬ database.tables.Referred name key ∧ database.deleteVisiting visited name key files =
        ⟨.ok (), { database with tables := database.tables.insert name (table.erase key) },
          files⟩) ∨
      ∃ referrer rowKey, database.tables.RowRefers referrer rowKey name key ∧
        database.deleteVisiting visited name key files =
          ⟨.error (.constraint (.stillReferenced key name referrer)), database, files⟩ := by
  rcases Tables.deleteVisiting_cases perm found stored with
    ⟨free, deleted⟩ | ⟨referrer, rowKey, refers, refused⟩
  · exact .inl ⟨free, by rw [deleteVisiting, deleted]⟩
  · exact .inr ⟨referrer, rowKey, refers, by rw [deleteVisiting, refused]⟩

/-- In whatever order the tables are visited, the same deletions are refused and the same database
is left behind; the fault names a table with a row that refers to the key. -/
theorem deleteVisiting_perm {table : Table} {row : Row}
    (perm : visited.Perm database.tables.entries)
    (found : database.tables.get? name = some table) (stored : table.get? key = some row)
    (files : FileTree) :
    let visiting := database.deleteVisiting visited name key files
    let sorted := database.deleteVisiting database.tables.entries name key files
    visiting.database = sorted.database ∧ (visiting.answer = .ok () ↔ sorted.answer = .ok ()) ∧
      ∀ fault, visiting.answer = .error fault → ∃ referrer rowKey,
        database.tables.RowRefers referrer rowKey name key ∧
          fault = .constraint (.stillReferenced key name referrer) := by
  intro visiting sorted
  rcases deleteVisiting_cases perm found stored files with
    ⟨free, deleted⟩ | ⟨referrer, rowKey, refers, refused⟩
  · rcases deleteVisiting_cases (.refl _) found stored files with
      ⟨-, sortedDeleted⟩ | ⟨referrer, rowKey, refers, -⟩
    · have same : visiting = sorted := deleted.trans sortedDeleted.symm
      rw [← same]
      refine ⟨rfl, Iff.rfl, fun fault failed => ?_⟩
      cases (congrArg (·.answer) deleted).symm.trans failed
    · exact absurd ⟨referrer, rowKey, refers⟩ free
  · rcases deleteVisiting_cases (.refl _) found stored files with
      ⟨free, -⟩ | ⟨other, otherKey, -, sortedRefused⟩
    · exact absurd ⟨referrer, rowKey, refers⟩ free
    · rw [show visiting = _ from refused, show sorted = _ from sortedRefused]
      refine ⟨rfl, ⟨nofun, nofun⟩, fun fault failed => ?_⟩
      cases failed
      exact ⟨referrer, rowKey, refers, rfl⟩

/-- **A row is deleted unless a row refers to it, and it counts itself.**  On a reachable database
that keeps no image the deletion of a row that is there is refused for a constraint exactly when
another row refers to it or the row refers to itself, and then nothing changes.  Otherwise the
row goes, and every other row and every schema stays.  The order in which the tables are visited
decides which of them a fault names, and nothing else. -/
theorem Reachable.delete_restricted {row : Row} (reachable : database.Reachable)
    (inMemory : database.location = .memory place)
    (stored : database.tables.row? name key = some row) (moment : Timestamp) (files : FileTree) :
    let needed := database.tables.OthersRefer name key ∨
      database.tables.RowRefers name key name key
    let outcome := database.apply (database.saver moment) [.delete name key] files
    ((∃ cause, outcome.answer = .error (.constraint cause)) ↔ needed) ∧
    (needed → outcome.database = database) ∧
    (¬ needed → outcome.answer = .ok () ∧
      (∀ other, outcome.database.tables.schema? other = database.tables.schema? other) ∧
      ∀ other wanted, outcome.database.tables.row? other wanted =
        if other = name ∧ wanted = key then none else database.tables.row? other wanted) ∧
    outcome = database.deleteVisiting database.tables.entries name key files ∧
    ∀ visited, visited.Perm database.tables.entries →
      let visiting := database.deleteVisiting visited name key files
      visiting.database = outcome.database ∧ (visiting.answer = .ok () ↔ outcome.answer = .ok ()) ∧
        ∀ fault, visiting.answer = .error fault → ∃ referrer rowKey,
          database.tables.RowRefers referrer rowKey name key ∧
            fault = .constraint (.stillReferenced key name referrer) := by
  intro needed outcome
  obtain ⟨table, found, held⟩ := Option.bind_eq_some_iff.mp stored
  have visits : outcome = database.deleteVisiting database.tables.entries name key files :=
    apply_delete reachable.wellFormed inMemory moment name key files
  have whether : database.tables.Referred name key ↔ needed := Tables.referred_iff
  have order (visited : List (String × Table)) (perm : visited.Perm database.tables.entries) :=
    deleteVisiting_perm perm found held files
  rw [← visits] at order
  rw [← whether]
  rcases deleteVisiting_cases (.refl _) found held files with
    ⟨free, deleted⟩ | ⟨referrer, rowKey, refers, refused⟩
  · have outcomeIs := visits.trans deleted
    refine ⟨⟨fun ⟨_, failed⟩ => ?_, fun referred => absurd referred free⟩,
      fun referred => absurd referred free, fun _ => ?_, visits, order⟩
    · cases (congrArg (·.answer) outcomeIs).symm.trans failed
    · rw [outcomeIs]
      exact ⟨rfl, Tables.schema?_insert found rfl, Tables.row?_erase found key⟩
  · have outcomeIs := visits.trans refused
    have referred : database.tables.Referred name key := ⟨referrer, rowKey, refers⟩
    exact ⟨⟨fun _ => referred, fun _ => ⟨_, congrArg (·.answer) outcomeIs⟩⟩,
      fun _ => congrArg (·.database) outcomeIs, fun free => absurd referred free, visits, order⟩

/-- Bob may go and Ada may not, for Bob answers to her. -/
theorem staff_deleted :
    let outcome (key : String) :=
      Staff.database.apply (Staff.database.saver ⟨0, 0⟩) [.delete "staff" key] .empty
    (∃ cause, (outcome "ada").answer = .error (.constraint cause)) ∧
      (outcome "bob").answer = .ok () ∧
      (outcome "bob").database.tables.row? "staff" "bob" = none ∧
      (outcome "bob").database.tables.row? "staff" "ada" = some [.text "ada", .null] := by
  intro outcome
  obtain ⟨refused, -⟩ := Reachable.delete_restricted Staff.database_reachable rfl
    (rfl : Staff.database.tables.row? "staff" "ada" = some _) ⟨0, 0⟩ .empty
  obtain ⟨-, -, removed, -⟩ := Reachable.delete_restricted Staff.database_reachable rfl
    (rfl : Staff.database.tables.row? "staff" "bob" = some _) ⟨0, 0⟩ .empty
  obtain ⟨deleted, -, rows⟩ := removed (by decide)
  exact ⟨refused.mpr (by decide), deleted, rows "staff" "bob", rows "staff" "ada"⟩

end Database

/-! ## A person who answers to herself -/

namespace Staff

/-- The database after one person was written and then made to answer to herself. -/
def ownSuperior : Database :=
  ((((Database.inMemory "staff").createTable count schema 0).database.apply count
    [.insert "staff" [.text "ada", .null]] 1).database.apply count
      [.update "staff" "ada" [.text "ada", .text "ada"]] 2).database

theorem ownSuperior_reachable : ownSuperior.Reachable :=
  (((Database.Reachable.empty _).advance (.create count schema 0)).advance
    (.apply count _ 1)).advance (.apply count _ 2)

end Staff

namespace Database

/-- Nobody else answers to Ada, and she may not go all the same, for she answers to herself. -/
theorem own_superior_stays :
    Staff.ownSuperior.Reachable ∧ Staff.ownSuperior.location = .memory "staff" ∧
      Staff.ownSuperior.tables.row? "staff" "ada" = some [.text "ada", .text "ada"] ∧
      ¬ Staff.ownSuperior.tables.OthersRefer "staff" "ada" ∧
      (Staff.ownSuperior.apply (Staff.ownSuperior.saver ⟨0, 0⟩) [.delete "staff" "ada"]
        .empty).answer = .error (.constraint (.stillReferenced "ada" "staff" "staff")) :=
  ⟨Staff.ownSuperior_reachable, rfl, rfl, by decide, rfl⟩

end Database

end EntityStore
