import EntityStore.Proofs.StoreInvariant

/-!
# What connections read

A connection lays its kept back writes over the stored rows in two ways, for one key
and for all keys at once.  Both come to one map of rows, the view of the table: `get`
is its answer and `scan` lists it.  This takes no more of the writes than that they
are there; they may repeat keys, name none, or be bound to be refused.

The stored rows are laid out again by the keys they name before the writes go over
them, which changes nothing, for in a well-formed table these are the keys they are
kept under.

Outside a transaction a connection keeps no writes back, so its view of a table is
the table.
-/

set_option autoImplicit false

namespace EntityStore.Connection

variable {keyIndex : Nat} {name key : String}

/-! ## One view of a table -/

theorem get?_overlayRows (keyIndex : Nat) (key : String) (rows : KeyMap Row) (next : Write) :
    (overlayRows keyIndex rows next).get? key = overlayRow keyIndex key (rows.get? key) next := by
  cases next with
  | insert table new =>
      rw [overlayRows, overlayRow]
      cases named : rowKey? keyIndex new with
      | none => rfl
      | some other =>
          dsimp only
          rw [KeyMap.get?_insert]
          by_cases same : key = other
          · rw [if_pos same, if_pos (congrArg some same.symm)]
          · rw [if_neg same, if_neg fun equal => same (Option.some.inj equal).symm]
  | update table written new =>
      rw [overlayRows, overlayRow, KeyMap.get?_insert]
      exact if_congr eq_comm rfl rfl
  | delete table deleted =>
      rw [overlayRows, overlayRow, KeyMap.get?_erase]
      exact if_congr eq_comm rfl rfl

/-- Looking a key up after writes is laying the writes over what it had. -/
theorem get?_foldl_overlayRows (keyIndex : Nat) (key : String) (rows : KeyMap Row)
    (writes : List Write) :
    (writes.foldl (overlayRows keyIndex) rows).get? key =
      writes.foldl (overlayRow keyIndex key) (rows.get? key) := by
  induction writes generalizing rows with
  | nil => rfl
  | cons next rest ih => rw [List.foldl_cons, List.foldl_cons, ih, get?_overlayRows]

/-- The rows of a well-formed table are those that the list of them names. -/
theorem keyed_scan {table : Table} (wellFormed : table.WellFormed) :
    keyed table.schema.keyIndex table.scan = table.rows := by
  have each : (table.scan.filterMap fun row =>
      (rowKey? table.schema.keyIndex row).map fun key => (key, row)) = table.rows.entries := by
    rw [Table.scan, KeyMap.values, List.filterMap_map]
    refine (List.filterMap_congr fun entry member => ?_).trans List.filterMap_some
    rw [Function.comp_apply, wellFormed.rowKey?_of_mem member]
    rfl
  rw [keyed, each, KeyMap.ofList_entries]

/-- The rows of a stored table with the writes of a connection laid over them. -/
def view (connection : Connection) (name : String) (table : Table) : KeyMap Row :=
  (connection.pendingFor name).foldl (overlayRows table.schema.keyIndex) table.rows

variable {connection : Connection} {database : Database} {table : Table}

theorem view_of_pending_eq_nil (settled : connection.pending = []) (name : String)
    (table : Table) : connection.view name table = table.rows := by
  rw [view, pendingFor, settled]
  rfl

theorem get_eq_view (isOpen : connection.checkOpen = .ok ())
    (found : database.tables.get? name = some table) (key : String) :
    connection.get database name key = .ok ((connection.view name table).get? key) := by
  rw [get, isOpen, Tables.find_eq_ok_iff.mpr found, view, get?_foldl_overlayRows]
  rfl

theorem scan_eq_view (isOpen : connection.checkOpen = .ok ())
    (found : database.tables.get? name = some table) (wellFormed : table.WellFormed) :
    connection.scan database name = .ok (connection.view name table).values := by
  have laidOver : connection.view name table =
      (connection.pendingFor name).foldl (overlayRows table.schema.keyIndex)
        (keyed table.schema.keyIndex table.scan) := by
    rw [view, keyed_scan wellFormed]
  simp only [scan, isOpen, Tables.find_eq_ok_iff.mpr found]
  by_cases settled : connection.pending = []
  · rw [view_of_pending_eq_nil settled, settled]
    rfl
  · rw [laidOver]
    have kept : connection.pending.isEmpty = false := List.isEmpty_eq_false_iff.mpr settled
    simp only [bind, Except.bind, kept, Bool.false_eq_true, if_false]
    rfl

theorem get_of_missing (isOpen : connection.checkOpen = .ok ())
    (missing : database.tables.get? name = none) (key : String) :
    connection.get database name key = .error (.tableNotFound name) := by
  rw [get, isOpen, Tables.find, missing]
  rfl

theorem scan_of_missing (isOpen : connection.checkOpen = .ok ())
    (missing : database.tables.get? name = none) :
    connection.scan database name = .error (.tableNotFound name) := by
  rw [scan, isOpen, Tables.find, missing]
  rfl

theorem checkOpen_of_inTransaction (inside : connection.isInTransaction = true) :
    connection.checkOpen = .ok () := by
  have phase : connection.phase = .inTransaction := eq_of_beq inside
  rw [checkOpen, isOpen, phase]
  rfl

theorem checkOpen_settled (connection : Connection) : connection.settled.checkOpen = .ok () := rfl

/-! ## Connections outside a transaction -/

/-- Whether a connection was opened and used in any way. -/
inductive Issued : Connection → Prop where
  | opened (id : Nat) (username : String) : Issued { id, username }
  | executed {σ : Type} {connection : Connection} (issued : Issued connection) (save : Saver σ)
      (next : Write) (database : Database) (medium : σ) :
      Issued (connection.execute save next database medium).1
  | begun {connection later : Connection} (issued : Issued connection)
      (done : connection.begin = .ok later) : Issued later
  | committed {σ : Type} {connection : Connection} (issued : Issued connection) (save : Saver σ)
      (database : Database) (medium : σ) : Issued (connection.commit save database medium).1
  | rolledBack {connection later : Connection} (issued : Issued connection)
      (done : connection.rollback = .ok later) : Issued later
  | closed {connection : Connection} (issued : Issued connection) : Issued connection.close

/-- Outside a transaction nothing is kept back. -/
theorem Issued.pending_eq_nil {connection : Connection} (issued : connection.Issued)
    (outside : connection.isInTransaction = false) : connection.pending = [] := by
  induction issued with
  | opened id username => rfl
  | executed issued save next database medium ih =>
      rw [execute] at outside ⊢
      split at outside
      · exact ih outside
      · exact ih outside
      · next inside =>
          split at outside
          · simp [isInTransaction, inside] at outside
          · exact ih outside
  | begun issued done ih =>
      rw [begin] at done
      split at done
      · cases done
      · cases done
      · cases done
        cases outside
  | committed issued save database medium ih =>
      rw [commit] at outside ⊢
      split_ifs at outside ⊢
      · rfl
      · exact ih outside
  | rolledBack issued done ih =>
      rw [rollback] at done
      split at done
      · cases done
        rfl
      · cases done
  | @closed connection issued ih =>
      rw [close]
      split
      · rfl
      · next notInside => exact ih (Bool.eq_false_of_not_eq_true notInside)

/-- What such a connection reads is what is stored. -/
theorem get_of_pending_eq_nil {connection : Connection} {database : Database} {table key : String}
    {answer : Option Row} (settled : connection.pending = [])
    (read : connection.get database table key = .ok answer) :
    database.get table key = .ok answer := by
  rw [Connection.get, bind_eq_ok_iff] at read
  obtain ⟨_, -, read⟩ := read
  rw [pendingFor, settled] at read
  exact read

end EntityStore.Connection
