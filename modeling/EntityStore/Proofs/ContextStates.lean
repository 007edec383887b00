import EntityStore.Proofs.Autocommit
import EntityStore.Proofs.Saving

/-!
# States of data contexts

A data context is opened over a database in which a registry made the tables of its
catalog.  From then on it saves and deletes entities of any types, opens, commits and
rolls back transactions, and others write to the database in between
(`WorkUnit.Reached`).

At every point the writes that it keeps back have passed the checks of their tables,
and those of them that replace a row name the key that the row has in front
(`WorkUnit.Sound`).  So in a table with its key in front the context sees each row
under its own key, and sees no row that the columns would refuse, although nobody has
checked yet whether the kept back writes can be carried out.
-/

set_option autoImplicit false

namespace EntityStore

/-! ## Writes that were checked -/

/-- Whether a write that replaces a row names the key that the new row has in front. -/
def Write.KeyFirst : Write → Prop
  | .update _ key row => row[0]? = some (.text key)
  | .insert _ _ | .delete _ _ => True

theorem Database.validate_eq_ok_iff {database : Database} {name : String} {row : Row} :
    database.validate name row = .ok () ↔
      ∃ table, database.tables.get? name = some table ∧ table.validateRow row = .ok () := by
  rw [validate, bind_eq_ok_iff]
  exact exists_congr fun table => and_congr_left fun _ => Tables.find_eq_ok_iff

namespace Connection

variable {σ : Type} {connection : Connection} {database later : Database} {next : Write}

/-- A write passes the checks of a transaction as long as the shapes of the tables are the same. -/
theorem checkWrite_of_keepsShapes (checked : checkWrite database next = .ok ())
    (keeps : database.tables.KeepsShapes later.tables) : checkWrite later next = .ok () := by
  have validated {name : String} {row : Row} (valid : database.validate name row = .ok ()) :
      later.validate name row = .ok () := by
    obtain ⟨table, found, valid⟩ := Database.validate_eq_ok_iff.mp valid
    obtain ⟨kept, keptFound, columns, -⟩ := keeps found
    refine Database.validate_eq_ok_iff.mpr ⟨kept, keptFound, ?_⟩
    rw [Table.validateRow_eq_ok_iff] at valid ⊢
    rw [columns]
    exact valid
  cases next with
  | insert name row | update name key row => exact validated checked
  | delete name key =>
      rw [checkWrite] at checked ⊢
      cases found : database.tables.get? name with
      | none =>
          rw [Tables.find, found] at checked
          cases checked
      | some table =>
          obtain ⟨kept, keptFound, -, -⟩ := keeps found
          rw [Tables.find_eq_ok_iff.mpr keptFound]
          rfl

/-- A write is applied, refused or kept back, and it is only kept back when it passes the
checks. -/
theorem execute_keeps (save : Saver σ) (next : Write) (connection : Connection)
    (database : Database) (medium : σ) :
    database.Evolves (connection.execute save next database medium).2.database ∧
      ∀ kept ∈ (connection.execute save next database medium).1.pending,
        kept ∈ connection.pending ∨ (kept = next ∧ checkWrite database next = .ok ()) := by
  rw [execute]
  split
  · exact ⟨.refl, fun kept member => .inl member⟩
  · exact ⟨.single (.apply save [next] medium), fun kept member => .inl member⟩
  · split
    · next checked =>
        refine ⟨.refl, fun kept member => ?_⟩
        rcases List.mem_append.mp member with before | last
        · exact .inl before
        · exact .inr ⟨List.mem_singleton.mp last, checked⟩
    · exact ⟨.refl, fun kept member => .inl member⟩

theorem commit_keeps (save : Saver σ) (connection : Connection) (database : Database)
    (medium : σ) :
    database.Evolves (connection.commit save database medium).2.database ∧
      ∀ kept ∈ (connection.commit save database medium).1.pending, kept ∈ connection.pending := by
  rw [commit]
  split
  · exact ⟨.single (.apply save connection.pending medium),
      fun kept member => absurd member List.not_mem_nil⟩
  · exact ⟨.refl, fun kept member => member⟩

/-! ## Views of checked writes -/

/-- Whether each row of a table passes its checks and has the key in front that it stands under. -/
def RowsKeyed (table : Table) (rows : KeyMap Row) : Prop :=
  ∀ ⦃key : String⦄ ⦃row : Row⦄, rows.get? key = some row →
    table.validateRow row = .ok () ∧ row[0]? = some (.text key)

theorem RowsKeyed.overlay {table : Table} {rows : KeyMap Row} (keyed : RowsKeyed table rows)
    (found : database.tables.get? next.table = some table)
    (checked : checkWrite database next = .ok ()) (keyFirst : next.KeyFirst) :
    RowsKeyed table (overlayRows 0 rows next) := by
  have validated {name : String} {row : Row} (same : database.tables.get? name = some table)
      (valid : database.validate name row = .ok ()) : table.validateRow row = .ok () := by
    obtain ⟨other, otherFound, valid⟩ := Database.validate_eq_ok_iff.mp valid
    cases same.symm.trans otherFound
    exact valid
  intro key row held
  cases next with
  | insert name new =>
      rw [overlayRows] at held
      split at held
      · next other named =>
          rw [KeyMap.get?_insert] at held
          split at held
          · next same =>
              cases held
              exact ⟨validated found checked, same ▸ rowKey?_eq_some_iff.mp named⟩
          · exact keyed held
      · exact keyed held
  | update name other new =>
      rw [overlayRows, KeyMap.get?_insert] at held
      split at held
      · next same =>
          cases held
          exact ⟨validated found checked, same ▸ keyFirst⟩
      · exact keyed held
  | delete name other =>
      rw [overlayRows, KeyMap.get?_erase] at held
      split at held
      · cases held
      · exact keyed held

/-- **In a table with its key in front a connection sees each row under its own key, and none that
the columns refuse.** -/
theorem rowsKeyed_view {name : String} {table : Table}
    (found : database.tables.get? name = some table) (wellFormed : table.WellFormed)
    (first : table.schema.keyIndex = 0)
    (checked : ∀ next ∈ connection.pending, checkWrite database next = .ok () ∧ next.KeyFirst) :
    RowsKeyed table (connection.view name table) := by
  have stored : RowsKeyed table table.rows := by
    intro key row held
    have admits := wellFormed held
    exact ⟨(Table.admits_iff.mp admits).1, first ▸ admits.keyed⟩
  have kept : ∀ next ∈ connection.pendingFor name, next.table = name ∧
      checkWrite database next = .ok () ∧ next.KeyFirst := by
    intro next member
    obtain ⟨pending, same⟩ := List.mem_filter.mp member
    exact ⟨of_decide_eq_true same, checked next pending⟩
  rw [view, first]
  -- The writes are laid over the rows one after the other.
  generalize table.rows = rows at stored
  generalize connection.pendingFor name = writes at kept
  induction writes generalizing rows with
  | nil => exact stored
  | cons next rest ih =>
      obtain ⟨⟨same, passed, keyFirst⟩, others⟩ := List.forall_mem_cons.mp kept
      exact ih _ (stored.overlay (same ▸ found) passed keyFirst) others

end Connection

/-! ## Contexts -/

namespace WorkUnit

variable {σ : Type} {registry : Registry} {work later : WorkUnit σ}

/-- Whether a data context serves a registry: it works with the catalog of the registry, on a
database in which the registry made the tables of the catalog. -/
structure Serves (registry : Registry) (work : WorkUnit σ) : Prop where
  catalog : work.catalog = registry.catalog
  reachable : work.database.Reachable
  made : ∀ mapping ∈ registry.catalog.mappings, work.database.MadeBy registry mapping
  issued : work.connection.Issued

/-- Whether a data context of a registry stands outside a transaction. -/
structure Opened (registry : Registry) (work : WorkUnit σ) : Prop extends Serves registry work where
  outside : work.connection.isInTransaction = false

/-- Whether a data context was opened and used in any way.  In between others may write to the
database and ask for keys. -/
inductive Reached (registry : Registry) : WorkUnit σ → Prop where
  | opened {work : WorkUnit σ} (opened : work.Opened registry) : Reached registry work
  | saved {work : WorkUnit σ} {ε : Type} {kind : EntityType ε} (reached : Reached registry work)
      (saver : Saver σ) (keyFirst : kind.KeyFirst) (entity : ε) :
      Reached registry (work.save saver kind entity).2
  | deleted {work : WorkUnit σ} {ε : Type} (reached : Reached registry work) (saver : Saver σ)
      (kind : EntityType ε) (entity : ε) : Reached registry (work.delete saver kind entity).2
  | begun {work : WorkUnit σ} (reached : Reached registry work) : Reached registry work.begin.2
  | committed {work : WorkUnit σ} (reached : Reached registry work) (saver : Saver σ) :
      Reached registry (work.commit saver).2
  | rolledBack {work : WorkUnit σ} (reached : Reached registry work) :
      Reached registry work.rollback.2
  | shared {work : WorkUnit σ} {database : Database} (reached : Reached registry work)
      (evolves : work.database.Evolves database) (issuer : KeyIssuer) (medium : σ) :
      Reached registry { work with database, issuer, medium }

/-- What is true of a data context at every point: the writes that it keeps back were checked. -/
structure Sound (registry : Registry) (work : WorkUnit σ) : Prop extends Serves registry work where
  checked : ∀ next ∈ work.connection.pending,
    Connection.checkWrite work.database next = .ok () ∧ next.KeyFirst

namespace Serves

theorem step (serves : work.Serves registry) (catalog : later.catalog = work.catalog)
    (evolves : work.database.Evolves later.database) (issued : later.connection.Issued) :
    later.Serves registry where
  catalog := catalog.trans serves.catalog
  reachable := serves.reachable.evolve evolves
  made mapping member := (serves.made mapping member).evolve evolves
  issued := issued

variable {ε : Type} {kind : EntityType ε}

theorem known (serves : work.Serves registry)
    (member : kind.mapping ∈ registry.catalog.mappings) : work.checkType kind = .ok () :=
  checkType_eq_ok_iff.mpr ⟨kind.mapping, serves.catalog ▸ member, rfl⟩

/-- In the table of a type that is known the key comes first. -/
theorem keyFirst (serves : work.Serves registry) (known : work.checkType kind = .ok ()) :
    work.database.tables.KeyFirst kind.mapping.table := by
  obtain ⟨mapping, member, same⟩ := checkType_eq_ok_iff.mp known
  rw [serves.catalog] at member
  obtain ⟨table, found, houses⟩ := (serves.made mapping member).houses
  intro other otherFound
  rw [same] at found
  cases found.symm.trans otherFound
  exact houses.keyFirst

end Serves

theorem Opened.sound (opened : work.Opened registry) : work.Sound registry where
  toServes := opened.toServes
  checked := by
    rw [opened.issued.pending_eq_nil opened.outside]
    exact fun next member => absurd member List.not_mem_nil

theorem Drafts.keyFirst {ε : Type} {kind : EntityType ε} {entity : ε} {draft : Draft ε}
    (drafts : work.Drafts kind entity draft) (keyFirst : kind.KeyFirst) : draft.next.KeyFirst := by
  cases drafts with
  | fresh | absent => trivial
  | stored keyed => exact keyFirst keyed

namespace Sound

/-- A context stays sound when its database evolves and all that it keeps back in addition was
checked before. -/
theorem step (sound : work.Sound registry) (catalog : later.catalog = work.catalog)
    (evolves : work.database.Evolves later.database) (issued : later.connection.Issued)
    (pending : ∀ next ∈ later.connection.pending, next ∈ work.connection.pending ∨
      Connection.checkWrite work.database next = .ok () ∧ next.KeyFirst) :
    later.Sound registry where
  toServes := sound.toServes.step catalog evolves issued
  checked := by
    intro next member
    have keeps := (evolves.tables sound.reachable.wellFormed).keepsShapes
    have passed : Connection.checkWrite work.database next = .ok () ∧ next.KeyFirst := by
      rcases pending next member with before | checked
      · exact sound.checked next before
      · exact checked
    exact ⟨Connection.checkWrite_of_keepsShapes passed.1 keeps, passed.2⟩

theorem execute (sound : work.Sound registry) (saver : Saver σ) {next : Write}
    (keyFirst : next.KeyFirst) (issuer : KeyIssuer) :
    ({ work with issuer }.execute saver next).2.Sound registry := by
  obtain ⟨evolves, pending⟩ :=
    work.connection.execute_keeps saver next work.database work.medium
  refine sound.step rfl evolves (.executed sound.issued saver next _ _) fun kept member => ?_
  rcases pending kept member with before | ⟨rfl, checked⟩
  · exact .inl before
  · exact .inr ⟨checked, keyFirst⟩

theorem save {ε : Type} {kind : EntityType ε} (sound : work.Sound registry) (saver : Saver σ)
    (keyFirst : kind.KeyFirst) (entity : ε) : (work.save saver kind entity).2.Sound registry := by
  obtain ⟨fault, refused⟩ | ⟨draft, drafts, -, saved⟩ := save_cases saver kind entity work
  · rw [refused]
    exact sound
  · rw [saved]
    exact sound.execute saver (drafts.keyFirst keyFirst) draft.issuer

theorem delete {ε : Type} (sound : work.Sound registry) (saver : Saver σ) (kind : EntityType ε)
    (entity : ε) : (work.delete saver kind entity).2.Sound registry := by
  rw [WorkUnit.delete]
  split
  · exact sound
  · split
    · exact sound
    · next id keyed =>
        have keyFirst : Write.KeyFirst (.delete kind.mapping.table id) := trivial
        exact sound.execute saver keyFirst work.issuer

theorem begin (sound : work.Sound registry) : work.begin.2.Sound registry := by
  rw [WorkUnit.begin]
  split
  · next connection begun =>
      refine sound.step rfl .refl (.begun sound.issued begun) fun next member => .inl ?_
      rw [Connection.begin] at begun
      split at begun
      · cases begun
      · cases begun
      · cases begun
        exact member
  · exact sound

theorem commit (sound : work.Sound registry) (saver : Saver σ) :
    (work.commit saver).2.Sound registry := by
  obtain ⟨evolves, pending⟩ := work.connection.commit_keeps saver work.database work.medium
  exact sound.step rfl evolves (.committed sound.issued saver _ _)
    fun next member => .inl (pending next member)

theorem rollback (sound : work.Sound registry) : work.rollback.2.Sound registry := by
  rw [WorkUnit.rollback]
  split
  · next connection done =>
      refine sound.step rfl .refl (.rolledBack sound.issued done) fun next member => ?_
      rw [Connection.rollback] at done
      split at done
      · cases done
        exact absurd member List.not_mem_nil
      · cases done
  · exact sound

end Sound

/-- **Data contexts are sound at every point.** -/
theorem Reached.sound (reached : work.Reached registry) : work.Sound registry := by
  induction reached with
  | opened opened => exact opened.sound
  | saved _ saver keyFirst entity ih => exact ih.save saver keyFirst entity
  | deleted _ saver kind entity ih => exact ih.delete saver kind entity
  | begun _ ih => exact ih.begin
  | committed _ saver ih => exact ih.commit saver
  | rolledBack _ ih => exact ih.rollback
  | shared _ evolves issuer medium ih =>
      exact ih.step rfl evolves ih.issued fun next member => .inl member

end WorkUnit

namespace Finance

/-- The saver of the database in memory, which keeps no image. -/
def saver : Saver FileTree := session.work.database.saver ⟨0, 0⟩

theorem boundInMemory_madeBy {mapping : EntityMapping}
    (member : mapping ∈ registry.catalog.mappings) :
    boundInMemory.database.MadeBy registry mapping :=
  .intro (.empty (.memory "finance")) member rfl (rfl : boundInMemory.answer = .ok ()) .refl

theorem session_opened : session.work.Opened registry where
  catalog := rfl
  reachable := boundInMemory_reachable
  made _ member := boundInMemory_madeBy member
  issued := .opened 1 "sa"
  outside := rfl

end Finance

end EntityStore
