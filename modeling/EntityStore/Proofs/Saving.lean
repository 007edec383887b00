import EntityStore.Proofs.EntityLaws
import EntityStore.Context
import EntityStore.Proofs.TransactionView

/-!
# What a save writes

Saving an entity is drafting one write and issuing it (`WorkUnit.save_cases`).  There
are three drafts: a new entity gets the next key and is inserted, an entity whose key
is seen is updated, and one whose key is not is inserted under it.  All that is proved
about saves goes by these cases.

Whichever it is, the draft puts the row of the entity under its key when it is laid
over a table.  A write that is issued with success does to the view of a connection
just that, be it applied at once or kept back (`Connection.execute_lays`).
-/

set_option autoImplicit false

namespace EntityStore

/-! ## Issuing a write -/

namespace Connection

variable {σ : Type} {connection : Connection} {database : Database} {next : Write}

theorem checkOpen_eq_ok_iff : connection.checkOpen = .ok () ↔ connection.phase ≠ .closed := by
  rw [checkOpen, isOpen]
  split
  · next isOpen => exact ⟨fun _ => by simpa using isOpen, fun _ => rfl⟩
  · next closed =>
      constructor
      · intro impossible
        cases impossible
      · exact fun isOpen => absurd (by simpa using isOpen) closed

/-- The view of a table with one more write kept back. -/
theorem view_append (name : String) (table : Table) :
    { connection with pending := connection.pending ++ [next] }.view name table =
      if next.table = name then
        overlayRows table.schema.keyIndex (connection.view name table) next
      else connection.view name table := by
  simp only [view, pendingFor, List.filter_append, List.foldl_append]
  by_cases same : next.table = name
  · rw [if_pos same, List.filter_cons, if_pos (decide_eq_true same), List.filter_nil,
      List.foldl_cons, List.foldl_nil]
  · rw [if_neg same, List.filter_cons, if_neg (by simpa using same), List.filter_nil,
      List.foldl_nil]

/-- What becomes of the tables as a connection sees them when a write is issued with success. -/
structure Lays (connection : Connection) (database : Database) (next : Write)
    (later : Connection) (written : Database) : Prop where
  isOpen : connection.checkOpen = .ok ()
  laterOpen : later.checkOpen = .ok ()
  views : ∀ ⦃name : String⦄ ⦃table : Table⦄, database.tables.get? name = some table →
    ∃ kept, written.tables.get? name = some kept ∧ kept.schema = table.schema ∧
      later.view name kept = if next.table = name then
          overlayRows table.schema.keyIndex (connection.view name table) next
        else connection.view name table
  missing : ∀ ⦃name : String⦄, database.tables.get? name = none →
    written.tables.get? name = none

/-- **A write that is issued with success is laid over what the connection sees.** -/
theorem execute_lays (issued : connection.Issued) (wellFormed : database.tables.WellFormed)
    {save : Saver σ} {medium : σ}
    (succeeded : (connection.execute save next database medium).2.answer = .ok ()) :
    connection.Lays database next (connection.execute save next database medium).1
      (connection.execute save next database medium).2.database := by
  cases phase : connection.phase with
  | closed =>
      simp only [execute, phase] at succeeded
      cases succeeded
  | active =>
      simp only [execute, phase] at succeeded ⊢
      have isOpen : connection.checkOpen = .ok () := checkOpen_eq_ok_iff.mpr (by simp [phase])
      have settled : connection.pending = [] :=
        issued.pending_eq_nil (by rw [isInTransaction, phase]; rfl)
      have written := Database.apply_tables_of_ok wellFormed succeeded
      refine ⟨isOpen, isOpen, fun name table found => ?_, fun name missing => ?_⟩
      · rw [Tables.inSequence_cons, bind_eq_ok_iff] at written
        obtain ⟨⟨between, step⟩, performed, done⟩ := written
        cases done
        obtain ⟨kept, keptFound, schema, rows⟩ :=
          (Tables.write_eq_ok_iff.mp performed).rows_eq found
        refine ⟨kept, keptFound, schema, ?_⟩
        rw [view_of_pending_eq_nil settled, view_of_pending_eq_nil settled, rows]
      · have schema := Tables.schema?_inSequence written name
        rw [Tables.schema?, Tables.schema?, missing, Option.map_none,
          Option.map_eq_none_iff] at schema
        exact schema
  | inTransaction =>
      simp only [execute, phase] at succeeded ⊢
      have isOpen : connection.checkOpen = .ok () := checkOpen_eq_ok_iff.mpr (by simp [phase])
      split at succeeded
      · exact ⟨isOpen, rfl, fun name table found => ⟨table, found, rfl, view_append name table⟩,
          fun name missing => missing⟩
      · cases succeeded

namespace Lays

variable {later : Connection} {written : Database}

/-- Where the write lays nothing over a key, the key reads as before. -/
theorem get_eq (lays : connection.Lays database next later written) {name key : String}
    (spared : ∀ table, database.tables.get? name = some table → next.table = name →
      (overlayRows table.schema.keyIndex (connection.view name table) next).get? key =
        (connection.view name table).get? key) :
    later.get written name key = connection.get database name key := by
  cases found : database.tables.get? name with
  | none =>
      rw [get_of_missing lays.isOpen found, get_of_missing lays.laterOpen (lays.missing found)]
  | some table =>
      obtain ⟨kept, keptFound, -, view⟩ := lays.views found
      rw [get_eq_view lays.isOpen found, get_eq_view lays.laterOpen keptFound, view]
      split
      · next same => rw [spared table found same]
      · rfl

/-- Other tables are listed as before. -/
theorem scan_eq (lays : connection.Lays database next later written)
    (wellFormed : database.tables.WellFormed) (laterWellFormed : written.tables.WellFormed)
    {name : String} (other : next.table ≠ name) :
    later.scan written name = connection.scan database name := by
  cases found : database.tables.get? name with
  | none =>
      rw [scan_of_missing lays.isOpen found, scan_of_missing lays.laterOpen (lays.missing found)]
  | some table =>
      obtain ⟨kept, keptFound, -, view⟩ := lays.views found
      rw [scan_eq_view lays.isOpen found (wellFormed.rows found),
        scan_eq_view lays.laterOpen keptFound (laterWellFormed.rows keptFound), view,
        if_neg other]

end Lays

end Connection

/-! ## Drafting it -/

namespace WorkUnit

variable {σ ε : Type} {work : WorkUnit σ} {kind : EntityType ε} {entity : ε}

theorem checkType_eq_ok_iff :
    work.checkType kind = .ok () ↔
      ∃ mapping ∈ work.catalog.mappings, mapping.table = kind.mapping.table := by
  rw [checkType, ← Catalog.isSome_get?_iff, Catalog.contains]
  split
  · next known => exact ⟨fun _ => known, fun _ => rfl⟩
  · next unknown => exact ⟨nofun, fun known => absurd known unknown⟩

/-- What a save is about to do: the write and the key it is for, and the entity and the issuer as
they will be. -/
structure Draft (ε : Type) where
  key : String
  next : Write
  entity : ε
  issuer : KeyIssuer

/-- What saving an entity drafts. -/
inductive Drafts (work : WorkUnit σ) (kind : EntityType ε) (entity : ε) : Draft ε → Prop where
  | fresh (unsaved : kind.id? entity = none) :
      Drafts work kind entity
        { key := work.issuer.next.1
          next := .insert kind.mapping.table (kind.toRow (kind.withId work.issuer.next.1 entity))
          entity := kind.withId work.issuer.next.1 entity
          issuer := work.issuer.next.2 }
  | stored {id : String} {row : Row} (keyed : kind.id? entity = some id)
      (read : work.connection.get work.database kind.mapping.table id = .ok (some row)) :
      Drafts work kind entity
        { key := id
          next := .update kind.mapping.table id (kind.toRow entity)
          entity
          issuer := work.issuer }
  | absent {id : String} (keyed : kind.id? entity = some id)
      (read : work.connection.get work.database kind.mapping.table id = .ok none) :
      Drafts work kind entity
        { key := id
          next := .insert kind.mapping.table (kind.toRow entity)
          entity
          issuer := work.issuer }

/-- **A save is refused before it writes, or it issues the write of a draft.** -/
theorem save_cases (saver : Saver σ) (kind : EntityType ε) (entity : ε) (work : WorkUnit σ) :
    (∃ fault, work.save saver kind entity = ((.error fault, entity), work)) ∨
      ∃ draft, work.Drafts kind entity draft ∧ work.checkType kind = .ok () ∧
        work.save saver kind entity =
          let (answer, later) := { work with issuer := draft.issuer }.execute saver draft.next
          ((answer, draft.entity), later) := by
  rw [save]
  cases known : work.checkType kind with
  | error fault => exact .inl ⟨fault, rfl⟩
  | ok =>
      dsimp only
      cases keyed : kind.id? entity with
      | none => exact .inr ⟨_, .fresh keyed, rfl, rfl⟩
      | some id =>
          dsimp only
          cases read : work.connection.get work.database kind.mapping.table id with
          | error fault =>
              have stored : work.isStored kind id = .error fault := by rw [isStored, read]; rfl
              rw [stored]
              exact .inl ⟨fault, rfl⟩
          | ok answer =>
              have stored : work.isStored kind id = .ok answer.isSome := by rw [isStored, read]; rfl
              rw [stored]
              cases answer with
              | none => exact .inr ⟨_, .absent keyed read, rfl, rfl⟩
              | some row => exact .inr ⟨_, .stored keyed read, rfl, rfl⟩

/-- Saving a new entity of a known type is inserting its row under the next key. -/
theorem save_of_unsaved (saver : Saver σ) (known : work.checkType kind = .ok ())
    (unsaved : kind.id? entity = none) :
    (work.save saver kind entity).1.1 =
      ({ work with issuer := work.issuer.next.2 }.execute saver
        (.insert kind.mapping.table (kind.toRow (kind.withId work.issuer.next.1 entity)))).1 := by
  simp only [save, known, unsaved]

namespace Drafts

variable {draft : Draft ε}

theorem table_eq (drafts : work.Drafts kind entity draft) :
    draft.next.table = kind.mapping.table := by
  cases drafts with
  | fresh | stored | absent => rfl

theorem id?_eq (drafts : work.Drafts kind entity draft) (keyed : kind.Keyed) :
    kind.id? draft.entity = some draft.key := by
  cases drafts with
  | fresh => exact keyed.id?_withId _ _
  | stored known | absent known => exact known

/-- The draft gives the entity its key and changes nothing else about it. -/
theorem entity_eq (drafts : work.Drafts kind entity draft) (faithful : kind.Faithful) :
    draft.entity = kind.withId draft.key entity := by
  cases drafts with
  | fresh => rfl
  | stored known | absent known => exact (faithful.withId_of_id? known).symm

/-- An entity that has a key keeps it. -/
theorem key_eq (drafts : work.Drafts kind entity draft) {id : String}
    (known : kind.id? entity = some id) : draft.key = id := by
  cases drafts with
  | fresh unsaved => exact nomatch known.symm.trans unsaved
  | stored keyed | absent keyed => exact Option.some.inj (keyed.symm.trans known)

/-- **The draft puts the row of the entity under its key.** -/
theorem overlayRows_eq (drafts : work.Drafts kind entity draft) (keyed : kind.Keyed)
    (rows : KeyMap Row) :
    Connection.overlayRows 0 rows draft.next =
      rows.insert draft.key (kind.toRow draft.entity) := by
  have named := rowKey?_eq_some_iff.mpr (keyed.keyFirst (drafts.id?_eq keyed))
  cases drafts with
  | fresh | absent => simp only [Connection.overlayRows, named]
  | stored => rfl

end Drafts

end WorkUnit

end EntityStore
