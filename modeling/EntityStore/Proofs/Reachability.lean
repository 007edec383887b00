import EntityStore.Proofs.Reopening
import EntityStore.Proofs.UndoLog
import Mathlib.Logic.Relation

/-!
# Reachable databases

A database is reachable when it comes from an empty one by making tables, by making
sure of them, by batches of writes, and by being opened again from an image of its
tables.  The operations may succeed or fail, and the save at their end may do
anything: it is a parameter of each step.

Whatever happens on the way, the tables only change in three ways: a table without
rows is added under a new name, a table takes another key strategy, or one write is
carried out (`Tables.Changes`).  A batch that is refused does not change them at all,
for it is taken back, and one that breaks off stops between two changes.  An invariant
of these changes is one of all reachable databases (`Database.Reachable.invariant`).
-/

set_option autoImplicit false

namespace EntityStore

namespace Tables

variable {tables later : Tables}

/-! ## Changes of tables -/

/-- One change that an operation on a database makes to its tables. -/
inductive Changes (tables : Tables) : Tables → Prop where
  | created {schema : TableSchema} (missing : tables.get? schema.name = none) :
      Changes tables (tables.insert schema.name (.ofSchema schema))
  | switched {name strategy : String} {table : Table} (found : tables.get? name = some table) :
      Changes tables (tables.insert name (table.withKeyStrategy strategy))
  | written {next : Write} {step : Undo} {later : Tables}
      (performed : tables.Performs next later step) : Changes tables later

/-- Any number of changes. -/
abbrev Evolves : Tables → Tables → Prop := Relation.ReflTransGen Changes

theorem Changes.wellFormed (changes : tables.Changes later) (wellFormed : tables.WellFormed) :
    later.WellFormed := by
  cases changes with
  | created missing => exact wellFormed.insert rfl (.ofSchema _)
  | switched found =>
      exact wellFormed.replace found rfl ((wellFormed.rows found).withKeyStrategy _)
  | written performed => exact performed.wellFormed wellFormed

theorem Evolves.wellFormed (evolves : tables.Evolves later) (wellFormed : tables.WellFormed) :
    later.WellFormed := by
  induction evolves with
  | refl => exact wellFormed
  | tail _ changes ih => exact changes.wellFormed ih

/-- What every change keeps is kept by any number of them. -/
theorem Evolves.invariant {holds : Tables → Prop} (evolves : tables.Evolves later)
    (kept : ∀ ⦃earlier next : Tables⦄, earlier.WellFormed → earlier.Changes next →
      holds earlier → holds next)
    (wellFormed : tables.WellFormed) (initially : holds tables) : holds later := by
  induction evolves with
  | refl => exact initially
  | tail before changes ih => exact kept (Evolves.wellFormed before wellFormed) changes ih

/-- Writes in sequence are changes one after the other. -/
theorem evolves_of_inSequence {writes : List Write} (done : tables.inSequence writes = .ok later) :
    tables.Evolves later := by
  induction writes generalizing tables with
  | nil =>
      cases done
      exact .refl
  | cons next rest ih =>
      rw [inSequence] at done
      split at done
      · next between step written =>
          exact .head (.written (write_eq_ok_iff.mp written)) (ih done)
      · cases done

theorem evolves_upTo (tables : Tables) (writes : List Write) :
    tables.Evolves (tables.upTo writes) := by
  obtain ⟨done, -, carriedOut⟩ := tables.inSequence_upTo writes
  exact evolves_of_inSequence carriedOut

end Tables

namespace Database

variable {σ : Type} {database later : Database}

/-! ## Steps of a database -/

/-- One operation on a database, whatever it answers and however its save ends, or opening an
image of its tables. -/
inductive Advances (database : Database) : Database → Prop where
  | create {σ : Type} (save : Saver σ) (schema : TableSchema) (medium : σ) :
      Advances database (database.createTable save schema medium).database
  | ensure {σ : Type} (save : Saver σ) (schema : TableSchema) (medium : σ) :
      Advances database (database.ensureTable save schema medium).database
  | apply {σ : Type} (save : Saver σ) (writes : List Write) (medium : σ) :
      Advances database (database.apply save writes medium).database
  | reopen {reopened : Database} (reopens : database.Reopens reopened) :
      Advances database reopened

/-- Any number of steps. -/
abbrev Evolves : Database → Database → Prop := Relation.ReflTransGen Advances

/-- Whether a database comes from an empty one. -/
def Reachable (database : Database) : Prop :=
  ∃ location, Evolves ⟨.empty, location⟩ database

theorem flush_database (save : Saver σ) (database : Database) (medium : σ) :
    (flush save database medium).database = database := by
  rw [flush]
  split
  · rfl
  · rfl

theorem createTable_evolves (save : Saver σ) (schema : TableSchema) (database : Database)
    (medium : σ) :
    database.tables.Evolves (database.createTable save schema medium).database.tables := by
  rw [createTable]
  split
  · exact .refl
  · next free =>
      rw [flush_database]
      exact .single (.created (Option.not_isSome_iff_eq_none.mp free))

theorem ensureTable_evolves (save : Saver σ) (schema : TableSchema) (database : Database)
    (medium : σ) :
    database.tables.Evolves (database.ensureTable save schema medium).database.tables := by
  rw [ensureTable]
  split
  · exact createTable_evolves save schema database medium
  · next existing found =>
      split_ifs
      · exact .refl
      · exact .refl
      · simp only [flush_database]
        exact .single (.switched found)

theorem apply_evolves (wellFormed : database.tables.WellFormed) (save : Saver σ)
    (writes : List Write) (medium : σ) :
    database.tables.Evolves (database.apply save writes medium).database.tables := by
  rw [apply_eq wellFormed]
  split
  · exact Tables.evolves_upTo ..
  · exact .refl
  · next tables done =>
      split
      · exact Tables.evolves_of_inSequence done
      · exact .refl

theorem Advances.evolves (advances : database.Advances later)
    (wellFormed : database.tables.WellFormed) : database.tables.Evolves later.tables := by
  cases advances with
  | create save schema medium => exact createTable_evolves save schema database medium
  | ensure save schema medium => exact ensureTable_evolves save schema database medium
  | apply save writes medium => exact apply_evolves wellFormed save writes medium
  | reopen reopens => exact reopens.tables_eq ▸ .refl

/-! ## Invariants -/

/-- **Whatever steps a database takes, its tables evolve by changes.** -/
theorem Evolves.tables (evolves : database.Evolves later)
    (wellFormed : database.tables.WellFormed) : database.tables.Evolves later.tables := by
  induction evolves with
  | refl => exact .refl
  | tail _ advances ih => exact ih.trans (advances.evolves (ih.wellFormed wellFormed))

namespace Reachable

theorem empty (location : Location) : Reachable ⟨.empty, location⟩ := ⟨location, .refl⟩

theorem evolve (reachable : database.Reachable) (evolves : database.Evolves later) :
    later.Reachable := by
  obtain ⟨location, before⟩ := reachable
  exact ⟨location, before.trans evolves⟩

theorem advance (reachable : database.Reachable) (advances : database.Advances later) :
    later.Reachable :=
  reachable.evolve (.single advances)

theorem wellFormed (reachable : database.Reachable) : database.tables.WellFormed := by
  obtain ⟨location, evolves⟩ := reachable
  exact (evolves.tables .empty).wellFormed .empty

/-- **What is true of no tables and kept by every change is true of all reachable tables.** -/
theorem invariant {holds : Tables → Prop} (reachable : database.Reachable)
    (kept : ∀ ⦃earlier next : Tables⦄, earlier.WellFormed → earlier.Changes next →
      holds earlier → holds next)
    (initially : holds .empty) : holds database.tables := by
  obtain ⟨location, evolves⟩ := reachable
  exact (evolves.tables .empty).invariant kept .empty initially

end Reachable

end Database

/-! ## A small reachable database -/

namespace Staff

/-- A table of persons, each of whom may answer to another. -/
def schema : TableSchema :=
  .ofColumns "staff"
    [({ name := "id", type := .text } : Column).asPrimaryKey,
      ({ name := "superior", type := .text } : Column).referencing "staff"] "uuid4-compact"

/-- A saver that counts its saves. -/
def count : Saver Nat := fun _ saves => .ok (saves + 1)

/-- The database after the table was made and two persons were written. -/
def database : Database :=
  (((Database.inMemory "staff").createTable count schema 0).database.apply count
    [.insert "staff" [.text "ada", .null], .insert "staff" [.text "bob", .text "ada"]] 1).database

theorem database_reachable : database.Reachable :=
  ((Database.Reachable.empty _).advance (.create count schema 0)).advance (.apply count _ 1)

end Staff

end EntityStore
