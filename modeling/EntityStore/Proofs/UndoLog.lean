import EntityStore.Proofs.Writes

/-!
# Taking writes back

The log of a batch is replayed through the same checked operations that writes go
through, and a step that its table refuses is passed over.  In well-formed tables no
step is refused: what a write replaced or deleted was admitted by its table, so it is
admitted again under its old key, and what a write inserted is still there.  Hence
each step takes back its write exactly (`Performs.undo_eq`), and the whole log, latest
step first, leads back to the tables before the batch (`revert_writeAll`).

With that a batch can be described without its log.  `inSequence` carries out writes
one after the other and knows nothing of taking them back; a batch succeeds when it
does and the save after it succeeds, and otherwise leaves the database as it was, or
with the writes before the one that broke off (`Database.apply_eq`).
-/

set_option autoImplicit false

namespace EntityStore

namespace Tables

variable {tables later : Tables} {next : Write} {step : Undo}

/-! ## Well-formed tables -/

/-- Tables that stand under their own names and admit their rows. -/
structure WellFormed (tables : Tables) : Prop where
  named : ∀ ⦃name : String⦄ ⦃table : Table⦄, tables.get? name = some table →
    table.schema.name = name
  rows : ∀ ⦃name : String⦄ ⦃table : Table⦄, tables.get? name = some table → table.WellFormed

namespace WellFormed

theorem empty : WellFormed KeyMap.empty where
  named _ _ found := nomatch found
  rows _ _ found := nomatch found

theorem insert {name : String} {table : Table} (wellFormed : tables.WellFormed)
    (named : table.schema.name = name) (rows : table.WellFormed) :
    WellFormed (tables.insert name table) where
  named := by
    intro other stored found
    rw [KeyMap.get?_insert] at found
    split at found
    · next same =>
        cases found
        exact named.trans same.symm
    · exact wellFormed.named found
  rows := by
    intro other stored found
    rw [KeyMap.get?_insert] at found
    split at found
    · cases found
      exact rows
    · exact wellFormed.rows found

/-- A table may be replaced by another of the same name. -/
theorem replace {name : String} {table written : Table} (wellFormed : tables.WellFormed)
    (found : tables.get? name = some table) (named : written.schema.name = table.schema.name)
    (rows : written.WellFormed) : WellFormed (tables.insert name written) :=
  wellFormed.insert (named.trans (wellFormed.named found)) rows

end WellFormed

theorem Performs.wellFormed (performed : tables.Performs next later step)
    (wellFormed : tables.WellFormed) : later.WellFormed := by
  cases performed with
  | insert found _ admits _ | update found _ admits _ =>
      exact wellFormed.replace found rfl ((wellFormed.rows found).withRow admits)
  | delete found _ _ =>
      exact wellFormed.replace found rfl ((wellFormed.rows found).erase _)

/-! ## One step back -/

/-- The tables are as before when the table that was written is. -/
theorem insert_back {name : String} {table : Table} (found : tables.get? name = some table)
    (written : Table) : (tables.insert name written).insert name table = tables := by
  rw [KeyMap.insert_insert, KeyMap.insert_of_get? found]

theorem find_insert_bind {name : String} {table : Table} {α : Type} {answer : α}
    (operate : Table → Except Fault α) (done : operate table = .ok answer) :
    find (tables.insert name table) name >>= operate = .ok answer :=
  bind_eq_ok_iff.mpr ⟨table, find_eq_ok_iff.mpr (KeyMap.get?_insert_self _ _ _), done⟩

/-- **Taking back a write that was carried out gives the tables before it.** -/
theorem Performs.undo_eq (performed : tables.Performs next later step)
    (wellFormed : tables.WellFormed) : later.undo step = tables := by
  cases performed with
  | @insert name key row table found _ _ missing =>
      have back : (table.withRow key row).erase key = table := by
        simp only [Table.erase, Table.withRow, KeyMap.erase_insert missing]
      simp only [undo, KeyMap.get?_insert_self, back]
      exact insert_back found _
  | @update name key row old table found _ _ stored =>
      have back : (table.withRow key row).update key old = .ok (table, row) := by
        refine Table.update_eq_ok_iff.mpr ⟨wellFormed.rows found stored, ?_, ?_⟩
        · rw [Table.get?_withRow, if_pos rfl]
        · simp only [Table.withRow, KeyMap.insert_insert, KeyMap.insert_of_get? stored]
      simp only [undo, find_insert_bind (fun table => table.update key old) back]
      exact insert_back found _
  | @delete name key old table found _ stored =>
      have back : (table.erase key).insert old = .ok (table, key) := by
        refine Table.insert_eq_ok_iff.mpr ⟨wellFormed.rows found stored, ?_, ?_⟩
        · rw [Table.get?_erase, if_pos rfl]
        · simp only [Table.erase, Table.withRow, KeyMap.insert_erase stored]
      simp only [undo, find_insert_bind (fun table => table.insert old) back]
      exact insert_back found _

/-! ## The whole log -/

/-- Replaying the log of a batch, wherever the batch ended, leads back to where it began. -/
theorem revert_writeAll (wellFormed : tables.WellFormed) (writes : List Write) (log : List Undo) :
    (tables.writeAll log writes).tables.revert (tables.writeAll log writes).log =
      tables.revert log := by
  induction writes generalizing tables log with
  | nil => rfl
  | cons next rest ih =>
      simp only [writeAll]
      split
      · next later step written =>
          have performed := write_eq_ok_iff.mp written
          rw [ih (performed.wellFormed wellFormed), revert, List.foldl_cons,
            performed.undo_eq wellFormed, revert]
      · rfl

/-! ## Batches without a log -/

/-- The tables after writes that are carried out one after the other, each on the tables that the
one before it left behind, or the fault of the first that is refused. -/
def inSequence (tables : Tables) : List Write → Except Fault Tables
  | [] => .ok tables
  | next :: rest =>
      match tables.write next with
      | .ok (later, _) => inSequence later rest
      | .error fault => .error fault

/-- The tables after as many writes as are carried out before one is refused. -/
def upTo (tables : Tables) : List Write → Tables
  | [] => tables
  | next :: rest =>
      match tables.write next with
      | .ok (later, _) => upTo later rest
      | .error _ => tables

/-- What is carried out before a write is refused is carried out in sequence. -/
theorem inSequence_upTo (tables : Tables) (writes : List Write) :
    ∃ done, done <+: writes ∧ tables.inSequence done = .ok (tables.upTo writes) := by
  induction writes generalizing tables with
  | nil => exact ⟨[], List.prefix_refl _, rfl⟩
  | cons next rest ih =>
      cases written : tables.write next with
      | ok result =>
          obtain ⟨done, first, carriedOut⟩ := ih result.1
          refine ⟨next :: done, List.cons_prefix_cons.mpr ⟨rfl, first⟩, ?_⟩
          rw [inSequence, upTo, written]
          exact carriedOut
      | error fault =>
          refine ⟨[], List.nil_prefix, ?_⟩
          rw [upTo, written, inSequence]

theorem upTo_eq (tables : Tables) (log : List Undo) (writes : List Write) :
    tables.upTo writes = (tables.writeAll log writes).tables := by
  induction writes generalizing tables log with
  | nil => rfl
  | cons next rest ih =>
      simp only [upTo, writeAll]
      cases tables.write next with
      | ok written => exact ih written.1 (written.2 :: log)
      | error fault => rfl

theorem inSequence_eq (tables : Tables) (log : List Undo) (writes : List Write) :
    tables.inSequence writes =
      match (tables.writeAll log writes).fault with
      | none => .ok (tables.writeAll log writes).tables
      | some fault => .error fault := by
  induction writes generalizing tables log with
  | nil => rfl
  | cons next rest ih =>
      simp only [inSequence, writeAll]
      cases tables.write next with
      | ok written => exact ih written.1 (written.2 :: log)
      | error fault => rfl

end Tables

namespace Database

variable {σ : Type}

/-- Saves the tables that a batch leaves behind.  An empty batch leaves nothing to save. -/
def saveAfter (save : Saver σ) (writes : List Write) : Saver σ := fun tables medium =>
  if writes.isEmpty then .ok medium else save tables medium

/-- **A batch is its writes in sequence and the save after them, or nothing at all**, unless one of
them breaks off. -/
theorem apply_eq {database : Database} (wellFormed : database.tables.WellFormed) (save : Saver σ)
    (writes : List Write) (medium : σ) :
    database.apply save writes medium =
      match database.tables.inSequence writes with
      | .error .panic =>
          ⟨.error .panic, { database with tables := database.tables.upTo writes }, medium⟩
      | .error fault => ⟨.error fault, database, medium⟩
      | .ok tables =>
          match saveAfter save writes tables medium with
          | .ok medium => ⟨.ok (), { database with tables }, medium⟩
          | .error fault => ⟨.error fault, database, medium⟩ := by
  have reverted := Tables.revert_writeAll wellFormed writes []
  rw [Tables.inSequence_eq database.tables [] writes, Tables.upTo_eq database.tables [] writes]
  cases writes with
  | nil => rfl
  | cons next rest =>
      simp only [apply, saveAfter, List.isEmpty_cons, Bool.false_eq_true, if_false]
      rw [reverted]
      cases (database.tables.writeAll [] (next :: rest)).fault with
      | some fault => cases fault <;> rfl
      | none => rfl

/-- A batch of one write has nothing before it that could stay. -/
theorem apply_one {database : Database} (wellFormed : database.tables.WellFormed) (save : Saver σ)
    (next : Write) (medium : σ) :
    database.apply save [next] medium =
      match database.tables.write next with
      | .error fault => ⟨.error fault, database, medium⟩
      | .ok (tables, _) =>
          match save tables medium with
          | .ok medium => ⟨.ok (), { database with tables }, medium⟩
          | .error fault => ⟨.error fault, database, medium⟩ := by
  rw [apply_eq wellFormed, Tables.inSequence, Tables.upTo]
  cases database.tables.write next with
  | error fault => cases fault <;> rfl
  | ok written => rfl

end Database

end EntityStore
