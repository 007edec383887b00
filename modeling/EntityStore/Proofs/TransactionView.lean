import EntityStore.Proofs.BatchSemantics
import EntityStore.Proofs.ConnectionReads

/-!
# What a transaction sees

Inside a transaction a connection sees the stored tables with its kept back writes
laid over them.  When the writes are carried out, each does to the rows of its table
what laying it over them does.  So a commit that succeeds leaves behind what the view
of each table showed before it.
-/

set_option autoImplicit false

namespace EntityStore

/-! ## The view and the commit -/

namespace Tables

variable {tables later : Tables} {name : String} {table : Table}

open Connection (overlayRows)

theorem rows_insert (next : Write) {target changed : Table}
    (found : tables.get? name = some table) (targetFound : tables.get? next.table = some target)
    (schema : changed.schema = target.schema)
    (rows : changed.rows = overlayRows target.schema.keyIndex target.rows next) :
    ∃ kept, (tables.insert next.table changed).get? name = some kept ∧
      kept.schema = table.schema ∧
      kept.rows = if next.table = name then overlayRows table.schema.keyIndex table.rows next
        else table.rows := by
  by_cases same : next.table = name
  · rw [if_pos same]
    subst same
    cases found.symm.trans targetFound
    exact ⟨changed, KeyMap.get?_insert_self .., schema, rows⟩
  · rw [if_neg same]
    exact ⟨table, by rw [KeyMap.get?_insert_of_ne tables (Ne.symm same), found], rfl, rfl⟩

/-- A write does to the rows of its table what laying it over them does. -/
theorem Performs.rows_eq {next : Write} {step : Undo}
    (performed : tables.Performs next later step) (found : tables.get? name = some table) :
    ∃ kept, later.get? name = some kept ∧ kept.schema = table.schema ∧
      kept.rows = if next.table = name then overlayRows table.schema.keyIndex table.rows next
        else table.rows := by
  cases performed with
  | insert targetFound _ admits _ =>
      refine rows_insert (.insert _ _) found targetFound rfl ?_
      rw [overlayRows, admits.rowKey?_eq]
      rfl
  | update targetFound => exact rows_insert (.update _ _ _) found targetFound rfl rfl
  | delete targetFound => exact rows_insert (.delete _ _) found targetFound rfl rfl

/-- Writes in sequence do to the rows of a table what laying them over it does. -/
theorem rows_inSequence {writes : List Write} (done : tables.inSequence writes = .ok later)
    (found : tables.get? name = some table) :
    ∃ kept, later.get? name = some kept ∧
      kept.rows = (writes.filter fun next => next.table = name).foldl
        (overlayRows table.schema.keyIndex) table.rows := by
  induction writes generalizing tables table with
  | nil =>
      cases done
      exact ⟨table, found, rfl⟩
  | cons next rest ih =>
      rw [inSequence_cons, bind_eq_ok_iff] at done
      obtain ⟨⟨between, step⟩, written, done⟩ := done
      obtain ⟨middle, middleFound, schema, rows⟩ :=
        (write_eq_ok_iff.mp written).rows_eq found
      obtain ⟨kept, keptFound, keptRows⟩ := ih done middleFound
      refine ⟨kept, keptFound, ?_⟩
      rw [keptRows, schema, rows]
      by_cases same : next.table = name
      · rw [if_pos same, List.filter_cons, if_pos (decide_eq_true same), List.foldl_cons]
      · rw [if_neg same, List.filter_cons, if_neg (by simpa using same)]

end Tables

namespace Database

variable {database : Database}

/-- The kept back writes of a connection, once carried out, leave behind what it saw. -/
theorem reads_of_inSequence {connection : Connection} {later : Database}
    (wellFormed : database.tables.WellFormed) (isOpen : connection.checkOpen = .ok ())
    (written : database.tables.inSequence connection.pending = .ok later.tables) (name : String) :
    connection.settled.scan later name = connection.scan database name ∧
      ∀ key, connection.settled.get later name key = connection.get database name key := by
  have settledOpen := connection.checkOpen_settled
  cases found : database.tables.get? name with
  | none =>
      have missing := Tables.schema?_inSequence written name
      rw [Tables.schema?, Tables.schema?, found, Option.map_none, Option.map_eq_none_iff] at missing
      rw [Connection.scan_of_missing isOpen found, Connection.scan_of_missing settledOpen missing]
      refine ⟨rfl, fun key => ?_⟩
      rw [Connection.get_of_missing isOpen found, Connection.get_of_missing settledOpen missing]
  | some table =>
      have laterWellFormed := (Tables.evolves_of_inSequence written).wellFormed wellFormed
      obtain ⟨kept, keptFound, rows⟩ := Tables.rows_inSequence written found
      have same : connection.settled.view name kept = connection.view name table :=
        (Connection.view_of_pending_eq_nil rfl name kept).trans rows
      rw [Connection.scan_eq_view isOpen found (wellFormed.rows found),
        Connection.scan_eq_view settledOpen keptFound (laterWellFormed.rows keptFound), same]
      refine ⟨rfl, fun key => ?_⟩
      rw [Connection.get_eq_view isOpen found, Connection.get_eq_view settledOpen keptFound, same]

/-- **A transaction shows what its commit would leave behind.**  For each table there is one map
of rows whose answers `get` gives and whose values `scan` lists, and it is that of the stored rows
while nothing is kept back.  When the commit succeeds, both give the same answers right after it
as right before it, for every table and every key. -/
theorem Reachable.transaction_view (reachable : database.Reachable) {connection : Connection}
    (inside : connection.isInTransaction = true) :
    (∀ name table, database.tables.get? name = some table →
      ∃ rows : KeyMap Row, connection.scan database name = .ok rows.values ∧
        (∀ key, connection.get database name key = .ok (rows.get? key)) ∧
        (connection.pending = [] → rows = table.rows)) ∧
    ∀ {σ : Type} (save : Saver σ) (medium : σ),
      (connection.commit save database medium).2.answer = .ok () →
        ∀ name,
          (connection.commit save database medium).1.scan
              (connection.commit save database medium).2.database name =
            connection.scan database name ∧
          ∀ key,
            (connection.commit save database medium).1.get
                (connection.commit save database medium).2.database name key =
              connection.get database name key := by
  have wellFormed := reachable.wellFormed
  have isOpen := Connection.checkOpen_of_inTransaction inside
  refine ⟨fun name table found => ?_, fun save medium committed name => ?_⟩
  · exact ⟨connection.view name table,
      Connection.scan_eq_view isOpen found (wellFormed.rows found),
      Connection.get_eq_view isOpen found,
      fun nothingKept => Connection.view_of_pending_eq_nil nothingKept name table⟩
  · rw [Connection.commit, if_pos inside] at committed ⊢
    exact reads_of_inSequence wellFormed isOpen (apply_tables_of_ok wellFormed committed) name

/-- A person who was let go and came back, seen before the commit as after it. -/
theorem staff_transaction_view :
    let connection : Connection :=
      { id := 1, username := "sa", phase := .inTransaction
        pending := [.delete "staff" "bob", .insert "staff" [.text "bob", .null]] }
    let after := connection.commit Staff.count Staff.database 2
    (∃ rows : KeyMap Row, connection.scan Staff.database "staff" = .ok rows.values ∧
      ∀ key, connection.get Staff.database "staff" key = .ok (rows.get? key)) ∧
    ∀ key, after.1.get after.2.database "staff" key =
      connection.get Staff.database "staff" key := by
  intro connection after
  obtain ⟨agree, shown⟩ := Reachable.transaction_view Staff.database_reachable
    (rfl : connection.isInTransaction = true)
  obtain ⟨rows, scanned, got, -⟩ := agree "staff" _ rfl
  exact ⟨⟨rows, scanned, got⟩, (shown Staff.count 2 rfl "staff").2⟩

end Database

end EntityStore
