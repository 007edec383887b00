import EntityStore.Proofs.ContextStates
import EntityStore.Proofs.Listing

/-!
# Saving is updating or inserting

After a save that is accepted the context sees the tables it saw before, with one row
put under one key of one table: the row of the saved entity.  Whether it was inserted
or updated, applied or kept back makes no difference.  The rest follows from what the
context saw before: every row stands under its own key and can be read as an entity,
so the saved entity is found under its key, is listed once, and no other row has
changed (`WorkUnit.Reached.save_upserts`).

An entity that has a key is not changed by a save at all, be it accepted or refused.
-/

set_option autoImplicit false

namespace EntityStore

open Connection (rowKey? RowsKeyed)

/-- Whether a catalog keeps no other type in the table of a mapping. -/
def Catalog.KeepsApart (catalog : Catalog) (mapping : EntityMapping) : Prop :=
  ∀ other ∈ catalog.mappings, other.table = mapping.table → other = mapping

instance (catalog : Catalog) (mapping : EntityMapping) : Decidable (catalog.KeepsApart mapping) :=
  inferInstanceAs (Decidable (∀ other ∈ catalog.mappings, _ → _))

namespace WorkUnit

variable {σ ε : Type} {registry : Registry} {work later : WorkUnit σ} {kind : EntityType ε}
  {entity : ε} {saver : Saver σ} {draft : Draft ε}

/-- Whether a context has an entity under a key, and sees everything else as another context
does. -/
structure Stores (later work : WorkUnit σ) (kind : EntityType ε) (id : String) (entity : ε) :
    Prop where
  keyed : kind.id? entity = some id
  found : later.find kind id = .ok (some entity)
  queried : ∃ listed, later.query kind {} = .ok listed
  listedOnce : ∀ order listed, later.query kind { order } = .ok listed →
    listed.filter (fun other => kind.id? other = some id) = [entity]
  otherRows : ∀ table key, (table, key) ≠ (kind.mapping.table, id) →
    later.connection.get later.database table key = work.connection.get work.database table key
  otherTables : ∀ table, table ≠ kind.mapping.table →
    later.connection.scan later.database table = work.connection.scan work.database table
  ownTable : ∃ rows : KeyMap Row,
    work.connection.scan work.database kind.mapping.table = .ok rows.values ∧
      later.connection.scan later.database kind.mapping.table =
        .ok (rows.insert id (kind.toRow entity)).values

theorem find_eq_ok (known : work.checkType kind = .ok ()) {id : String} {row : Row}
    (read : work.connection.get work.database kind.mapping.table id = .ok (some row))
    (decoded : kind.ofRow row = .ok entity) : work.find kind id = .ok (some entity) := by
  rw [find, known, bind_eq_ok_iff]
  refine ⟨(), rfl, bind_eq_ok_iff.mpr ⟨some row, read, ?_⟩⟩
  exact bind_eq_ok_iff.mpr ⟨entity, decoded, rfl⟩

theorem query_eq_ok_iff (known : work.checkType kind = .ok ()) {criteria : Criteria}
    {listed : List ε} :
    work.query kind criteria = .ok listed ↔
      ∃ rows kept, work.connection.scan work.database kind.mapping.table = .ok rows ∧
        criteria.apply kind.mapping rows = .ok kept ∧ kept.mapM kind.ofRow = .ok listed := by
  rw [query, known, bind_eq_ok_iff]
  constructor
  · rintro ⟨_, -, answered⟩
    obtain ⟨rows, scanned, answered⟩ := bind_eq_ok_iff.mp answered
    obtain ⟨kept, applied, read⟩ := bind_eq_ok_iff.mp answered
    exact ⟨rows, kept, scanned, applied, read⟩
  · rintro ⟨rows, kept, scanned, applied, read⟩
    exact ⟨(), rfl, bind_eq_ok_iff.mpr ⟨rows, scanned, bind_eq_ok_iff.mpr ⟨kept, applied, read⟩⟩⟩

section Seen

variable {table : Table} {id : String} {row : Row}

/-- In the table of a faithful type a context sees rows that are read as entities with their
keys. -/
theorem Sound.reads (sound : work.Sound registry) (faithful : kind.Faithful)
    (found : work.database.tables.get? kind.mapping.table = some table)
    (houses : table.Houses kind.mapping)
    (held : (work.connection.view kind.mapping.table table).get? id = some row) :
    rowKey? 0 row = some id ∧ ∃ entity, kind.ofRow row = .ok entity ∧
      kind.id? entity = some id := by
  have wellFormed := sound.reachable.wellFormed.rows found
  obtain ⟨valid, keyed⟩ :=
    Connection.rowsKeyed_view found wellFormed houses.keyFirst sound.checked held
  exact ⟨rowKey?_eq_some_iff.mpr keyed,
    faithful.reads (houses.validateRow_eq_ok_iff.mp valid) keyed⟩

theorem Sound.reads_values (sound : work.Sound registry) (faithful : kind.Faithful)
    (found : work.database.tables.get? kind.mapping.table = some table)
    (houses : table.Houses kind.mapping)
    (member : row ∈ (work.connection.view kind.mapping.table table).values) :
    ∃ entity, kind.ofRow row = .ok entity ∧ kind.id? entity = rowKey? 0 row := by
  obtain ⟨id, held⟩ := KeyMap.mem_values_iff.mp member
  obtain ⟨named, entity, read, keyed⟩ := sound.reads faithful found houses held
  exact ⟨entity, read, keyed.trans named.symm⟩

/-- The entities of a faithful type can be listed as long as the connection is open. -/
theorem Sound.exists_query (sound : work.Sound registry) (faithful : kind.Faithful)
    (known : work.checkType kind = .ok ()) (isOpen : work.connection.checkOpen = .ok ())
    (found : work.database.tables.get? kind.mapping.table = some table)
    (houses : table.Houses kind.mapping) : ∃ listed, work.query kind {} = .ok listed := by
  have scanned := Connection.scan_eq_view isOpen found (sound.reachable.wellFormed.rows found)
  obtain ⟨listed, read⟩ := mapM_eq_ok fun row member =>
    (sound.reads_values faithful found houses member).imp fun entity read => read.1
  exact ⟨listed, (query_eq_ok_iff known).mpr
    ⟨_, _, scanned, Criteria.apply_nothing _ _, read⟩⟩

/-- **A query without restrictions lists the entity under a key once.** -/
theorem Sound.query_listed_once (sound : work.Sound registry) (faithful : kind.Faithful)
    (known : work.checkType kind = .ok ()) (isOpen : work.connection.checkOpen = .ok ())
    (found : work.database.tables.get? kind.mapping.table = some table)
    (houses : table.Houses kind.mapping)
    (held : (work.connection.view kind.mapping.table table).get? id = some row)
    (decoded : kind.ofRow row = .ok entity) {order : List OrderField} {listed : List ε}
    (queried : work.query kind { order } = .ok listed) :
    listed.filter (fun other => kind.id? other = some id) = [entity] := by
  have scanned := Connection.scan_eq_view isOpen found (sound.reachable.wellFormed.rows found)
  have once := KeyMap.filter_values
    (fun _ _ rowHeld => (sound.reads faithful found houses rowHeld).1) held
  obtain ⟨rows, sorted, rowsScanned, applied, read⟩ := (query_eq_ok_iff known).mp queried
  cases scanned.symm.trans rowsScanned
  have permuted := Criteria.perm_of_apply applied
  have sortedOnce := List.perm_singleton.mp (once ▸ permuted.filter _)
  refine EntityType.listed_once ?_ sortedOnce decoded read
  intro other member entity otherRead
  obtain ⟨same, sameRead, keyed⟩ :=
    sound.reads_values faithful found houses (permuted.mem_iff.mp member)
  cases otherRead.symm.trans sameRead
  exact keyed

end Seen

/-- **Once the draft of a save is laid over its tables, the context has the entity under its
key.** -/
theorem Drafts.stores (drafts : work.Drafts kind entity draft) (sound : work.Sound registry)
    (laterSound : later.Sound registry) (faithful : kind.Faithful)
    (member : kind.mapping ∈ registry.catalog.mappings)
    (lays : work.connection.Lays work.database draft.next later.connection later.database) :
    Stores later work kind draft.key draft.entity := by
  obtain ⟨table, found, houses⟩ := (sound.made kind.mapping member).houses
  obtain ⟨kept, keptFound, keptHouses⟩ := (laterSound.made kind.mapping member).houses
  have laterKnown : later.checkType kind = .ok () := laterSound.toServes.known member
  have keyed : kind.id? draft.entity = some draft.key := drafts.id?_eq faithful.toKeyed
  have view : later.connection.view kind.mapping.table kept =
      (work.connection.view kind.mapping.table table).insert draft.key
        (kind.toRow draft.entity) := by
    obtain ⟨same, sameFound, -, laid⟩ := lays.views found
    cases keptFound.symm.trans sameFound
    rw [laid, if_pos drafts.table_eq, houses.keyFirst, drafts.overlayRows_eq faithful.toKeyed]
  have held : (later.connection.view kind.mapping.table kept).get? draft.key =
      some (kind.toRow draft.entity) := by rw [view, KeyMap.get?_insert_self]
  have decoded := faithful.ofRow_toRow keyed
  refine ⟨keyed, ?_, ?_, ?_, ?_, ?_, ?_⟩
  · refine find_eq_ok laterKnown ?_ decoded
    rw [Connection.get_eq_view lays.laterOpen keptFound, held]
  · exact laterSound.exists_query faithful laterKnown lays.laterOpen keptFound keptHouses
  · intro order listed queried
    exact laterSound.query_listed_once faithful laterKnown lays.laterOpen keptFound keptHouses
      held decoded queried
  · intro name key other
    refine lays.get_eq fun target targetFound same => ?_
    obtain rfl : kind.mapping.table = name := drafts.table_eq.symm.trans same
    cases found.symm.trans targetFound
    have different : key ≠ draft.key := by
      rintro rfl
      exact other rfl
    rw [houses.keyFirst, drafts.overlayRows_eq faithful.toKeyed,
      KeyMap.get?_insert_of_ne _ different]
  · intro name other
    have elsewhere : draft.next.table ≠ name := drafts.table_eq ▸ other.symm
    exact lays.scan_eq sound.reachable.wellFormed laterSound.reachable.wellFormed elsewhere
  · refine ⟨_, Connection.scan_eq_view lays.isOpen found
      (sound.reachable.wellFormed.rows found), ?_⟩
    rw [Connection.scan_eq_view lays.laterOpen keptFound
      (laterSound.reachable.wellFormed.rows keptFound), view]

/-- **Saving is updating or inserting.**  An entity that has a key is not changed by a save,
whatever it answers.  When it answers well, the entity has a key, and is otherwise as it was given;
it is found under the key, and a query without restrictions, in whatever order, lists it once and
nothing else with its key; and every other row of every table reads as before.  This is so for the
types of the application in every state that a context can come to, with a transaction open or
not, over the tables that a registry made for them. -/
theorem Reached.save_upserts (reached : work.Reached registry) (kind : Model.Kind)
    (apart : registry.catalog.KeepsApart kind.type.mapping) (saver : Saver σ)
    (entity : kind.Entity) :
    let saved := (work.save saver kind.type entity).1.2
    (∀ id, kind.type.id? entity = some id → saved = entity) ∧
    ((work.save saver kind.type entity).1.1 = .ok () →
      ∃ id, saved = kind.type.withId id entity ∧
        Stores (work.save saver kind.type entity).2 work kind.type id saved) := by
  have sound := reached.sound
  have faithful := kind.faithful
  obtain ⟨fault, refused⟩ | ⟨draft, drafts, known, saved⟩ :=
    save_cases saver kind.type entity work
  · rw [refused]
    exact ⟨fun _ _ => rfl, nofun⟩
  · rw [saved]
    have same := drafts.entity_eq faithful
    refine ⟨fun id keyed => ?_, fun succeeded => ⟨draft.key, same, ?_⟩⟩
    · refine same.trans ?_
      rw [drafts.key_eq keyed, faithful.withId_of_id? keyed]
    · obtain ⟨mapping, listed, table⟩ := checkType_eq_ok_iff.mp known
      have member : kind.type.mapping ∈ registry.catalog.mappings := by
        rw [sound.catalog] at listed
        exact apart mapping listed table ▸ listed
      exact drafts.stores sound
        (sound.execute saver (drafts.keyFirst faithful.keyFirst) draft.issuer) faithful member
        (Connection.execute_lays sound.issued sound.reachable.wellFormed succeeded)

end WorkUnit

/-! ## A domain that comes back -/

namespace Finance

/-- A domain under its key. -/
def domain : Model.Domain :=
  { id := some "d", name := "Finance", rgbColor := "00ff00", mnemonic := "FIN" }

/-- The data context after the domain was saved as a new one and deleted inside a transaction. -/
def deleted : WorkUnit FileTree :=
  ((session.work.begin.2.save saver Model.Domain.entityType { domain with id := none }).2.delete
    saver Model.Domain.entityType domain).2

theorem deleted_reached : deleted.Reached registry :=
  .deleted (.saved (.begun (.opened session_opened)) saver Model.Domain.faithful.keyFirst _) saver
    Model.Domain.entityType domain

end Finance

namespace WorkUnit

/-- The domain is there again when it is saved under its key, and is listed once. -/
theorem finance_save_upserts :
    let later := Finance.deleted.save Finance.saver Model.Domain.entityType Finance.domain
    later.1.1 = .ok () ∧
      Stores later.2 Finance.deleted Model.Domain.entityType "d" Finance.domain := by
  intro later
  have succeeded : later.1.1 = .ok () := by rfl
  obtain ⟨same, stores⟩ := Reached.save_upserts Finance.deleted_reached .domains (by decide)
    Finance.saver Finance.domain
  obtain ⟨id, named, stores⟩ := stores succeeded
  have unchanged : later.1.2 = Finance.domain := same "d" rfl
  have keyed : some "d" = some id := congrArg Model.Domain.id (unchanged.symm.trans named)
  cases keyed
  exact ⟨succeeded, unchanged ▸ stores⟩

end WorkUnit

end EntityStore
