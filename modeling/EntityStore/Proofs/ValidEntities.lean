import EntityStore.Proofs.ContextStates

/-!
# Valid entities can be saved

A registry is only bound when its catalog fits: each key column is long enough for the
keys of the strategy, and each reference goes to a table of the catalog.  Together with
the tables that binding makes this leaves nothing that a caller could not see to by
itself, if the key column is for texts.  A new entity whose values are such as its
mapping declares them, and whose references name rows that are there, is saved then, as
long as the issued key is one of the strategy that nobody has yet
(`WorkUnit.save_valid_new`).

That a key column is for texts is not among the checks.  Nor is it that the types of a
catalog have tables of their own: of two types with one table the first one is kept, and
the other one counts as a type of the catalog all the same.  In both cases a registry is
bound and refuses to save what is valid (`WorkUnit.valid_new_refused`).
-/

set_option autoImplicit false

namespace EntityStore

/-! ## What a bound registry has checked -/

namespace Catalog

variable {catalog : Catalog} {strategy : KeyStrategy} {mapping : EntityMapping}

theorem checkKey_eq_ok_iff :
    checkKey strategy mapping = .ok () ↔
      strategy.keyLength ≤ mapping.key.length.getD unlimitedLength := by
  rw [checkKey]
  split
  · next short => exact ⟨nofun, fun fits => absurd short (Nat.not_lt.mpr fits)⟩
  · next fits => exact ⟨fun _ => Nat.le_of_not_lt fits, fun _ => rfl⟩

theorem checkReference_eq_ok_iff {field : FieldMapping} :
    catalog.checkReference mapping field = .ok () ↔
      ∀ target, field.reference = some target →
        ∃ other ∈ catalog.mappings, other.table = target := by
  rw [checkReference]
  split
  · next none => exact ⟨fun _ target declared => (nomatch none.symm.trans declared), fun _ => rfl⟩
  · next target declared =>
      simp only [declared, Option.some.injEq, forall_eq', ← isSome_get?_iff]
      split
      · next registered => exact ⟨fun _ => registered, fun _ => rfl⟩
      · next missing => exact ⟨nofun, fun registered => absurd registered missing⟩

/-- **A catalog is valid when its key columns hold the keys of the strategy and its references go
to tables of its own.** -/
theorem validate_eq_ok_iff :
    catalog.validate strategy = .ok () ↔
      ∀ mapping ∈ catalog.mappings,
        strategy.keyLength ≤ mapping.key.length.getD unlimitedLength ∧
        ∀ field ∈ mapping.columns, ∀ target, field.reference = some target →
          ∃ other ∈ catalog.mappings, other.table = target := by
  rw [validate, forM_eq_ok_iff]
  refine forall₂_congr fun mapping _ => ?_
  rw [checkMapping, bind_eq_ok_iff]
  constructor
  · rintro ⟨_, key, references⟩
    refine ⟨checkKey_eq_ok_iff.mp key, fun field member target declared => ?_⟩
    have listed : field ∈ mapping.references :=
      List.mem_filter.mpr ⟨member, by rw [declared]; rfl⟩
    exact checkReference_eq_ok_iff.mp (forM_eq_ok_iff.mp references field listed) target declared
  · rintro ⟨key, references⟩
    refine ⟨(), checkKey_eq_ok_iff.mpr key, forM_eq_ok_iff.mpr fun field member => ?_⟩
    exact checkReference_eq_ok_iff.mpr (references field (List.mem_filter.mp member).1)

end Catalog

/-! ## Valid values -/

namespace EntityMapping

variable {mapping : EntityMapping}

/-- Whether the key column of a mapping is for texts, and refers to nothing.  A mapping that is
begun with `ofKey` has such a key. -/
structure HoldsKeys (mapping : EntityMapping) : Prop where
  text : mapping.key.type = .text
  plain : mapping.key.reference = none

/-- The key column holds every text that is not too long for it. -/
theorem HoldsKeys.validate_key (holdsKeys : mapping.HoldsKeys) {key : String}
    (fits : ∀ length, mapping.key.length = some length → key.length ≤ length) :
    mapping.key.toColumn.asPrimaryKey.validate (.text key) = .ok () := by
  have required : (mapping.key.toColumn.asPrimaryKey.validate (.text key)) =
      mapping.key.notNull.toColumn.validate (.text key) := rfl
  rw [required, FieldMapping.validate_toColumn_iff]
  refine ⟨fun null => ?_, fun _ => ?_, fun limit length declared measured => ?_⟩
  · cases null
  · rw [FieldMapping.notNull, holdsKeys.text]
    rfl
  · cases measured
    exact fits limit declared

/-- Whether values, one for each field behind the key, are such as a mapping declares them. -/
structure AcceptsValues (mapping : EntityMapping) (values : List Value) : Prop where
  width : values.length = mapping.columns.length
  accepted : ∀ (place : Nat) (field : FieldMapping) (value : Value),
    mapping.columns[place]? = some field → values[place]? = some value → field.Accepts value

/-- Whether the references among such values name rows that are there. -/
def ReferencesHold (mapping : EntityMapping) (tables : Tables) (values : List Value) : Prop :=
  ∀ (place : Nat) (field : FieldMapping) (target key : String),
    mapping.columns[place]? = some field → field.reference = some target →
      values[place]? = some (.text key) → tables.Holds target key

end EntityMapping

/-! ## Rows of valid entities -/

section Rows

variable {database : Database} {registry : Registry} {mapping : EntityMapping} {key : String}
  {values : List Value}

/-- The key column of a mapping that was registered holds the keys of the strategy. -/
theorem Database.MadeBy.keyLength_le (made : database.MadeBy registry mapping) {length : Nat}
    (declared : mapping.key.length = some length) : registry.strategy.keyLength ≤ length := by
  obtain ⟨fits, -⟩ := Catalog.validate_eq_ok_iff.mp made.validates mapping made.member
  rw [declared, Option.getD_some] at fits
  exact fits

/-- The table that a reference goes to is there. -/
theorem Database.MadeBy.target_exists (made : database.MadeBy registry mapping)
    {field : FieldMapping} (member : field ∈ mapping.columns) {target : String}
    (declared : field.reference = some target) :
    ∃ table, database.tables.get? target = some table := by
  obtain ⟨-, registered⟩ := Catalog.validate_eq_ok_iff.mp made.validates mapping made.member
  obtain ⟨other, otherMember, rfl⟩ := registered field member target declared
  obtain ⟨table, -, found, -⟩ := made.carries otherMember
  exact ⟨table, found⟩

theorem Tables.Performs.inSequence_eq {tables later : Tables} {next : Write} {step : Undo}
    (performed : tables.Performs next later step) : tables.inSequence [next] = .ok later := by
  rw [inSequence_cons, performed.write_eq]
  rfl

/-- **A valid row can be inserted under a new key.** -/
theorem Tables.Performs.insert_valid {tables : Tables} {table : Table}
    (found : tables.get? mapping.table = some table) (houses : table.Houses mapping)
    (holdsKeys : mapping.HoldsKeys) (valid : mapping.AcceptsValues values)
    (references : mapping.ReferencesHold tables values)
    (fits : ∀ length, mapping.key.length = some length → key.length ≤ length)
    (nonempty : key ≠ "") (free : ¬ tables.Holds mapping.table key) :
    tables.Performs (.insert mapping.table (.text key :: values))
      (tables.insert mapping.table (table.withRow key (.text key :: values)))
      (.remove mapping.table key) := by
  have allows : mapping.Allows (.text key :: values) :=
    EntityMapping.allows_cons_iff.mpr ⟨holdsKeys.validate_key fits, valid.width, valid.accepted⟩
  refine .insert found ?_ (houses.admits_iff.mpr ⟨allows, rfl, nonempty⟩) ?_
  · intro target referenced refers
    obtain ⟨place, field, fieldAt, reference, held⟩ := houses.refers_iff.mp refers
    cases place with
    | zero =>
        -- The key is a field as well, but never a reference.
        cases fieldAt
        exact nomatch holdsKeys.plain.symm.trans reference
    | succ place => exact references place field target referenced fieldAt reference held
  · cases stored : table.get? key with
    | none => rfl
    | some row => exact absurd ⟨table, row, found, stored⟩ free

end Rows

/-! ## Saving -/

namespace WorkUnit

variable {σ ε : Type} {registry : Registry} {work : WorkUnit σ} {kind : EntityType ε} {entity : ε}
  {saver : Saver σ} {key : String} {values : List Value}

/-- **A valid new entity of a type whose keys are texts can always be saved.**  In a data context of
a bound registry, over a database where binding made the table of the type and which may have come
to any state since, an entity without a key is saved outside a transaction if the image of the
tables with its row can be, each value is such as its field is declared, each reference names a row
that is there, and the issued key is not empty, not longer than those of the strategy, and not
taken.  The table of the type and those it refers to are there in any case, and the key column is
long enough. -/
theorem save_valid_new (catalog : work.catalog = registry.catalog)
    (made : work.database.MadeBy registry kind.mapping) (holdsKeys : kind.mapping.HoldsKeys)
    (active : work.connection.phase = .active)
    (unsaved : kind.id? entity = none) (issued : work.issuer.next.1 = key)
    (row : kind.toRow (kind.withId key entity) = .text key :: values)
    (saves : ∀ tables,
      work.database.tables.inSequence [.insert kind.mapping.table (.text key :: values)] =
        .ok tables → ∃ saved, saver tables work.medium = .ok saved)
    (valid : kind.mapping.AcceptsValues values)
    (references : kind.mapping.ReferencesHold work.database.tables values) (nonempty : key ≠ "")
    (short : key.length ≤ registry.strategy.keyLength)
    (free : ¬ work.database.tables.Holds kind.mapping.table key) :
    (work.save saver kind entity).1.1 = .ok () ∧
    (∃ table, work.database.tables.get? kind.mapping.table = some table) ∧
    (∀ field ∈ kind.mapping.columns, ∀ target, field.reference = some target →
      ∃ table, work.database.tables.get? target = some table) ∧
    ∀ length, kind.mapping.key.length = some length → registry.strategy.keyLength ≤ length := by
  obtain ⟨table, found, houses⟩ := made.houses
  refine ⟨?_, ⟨table, found⟩, fun field member target declared =>
    made.target_exists member declared, fun length declared => made.keyLength_le declared⟩
  have known : work.checkType kind = .ok () :=
    checkType_eq_ok_iff.mpr ⟨kind.mapping, catalog ▸ made.member, rfl⟩
  have performed := Tables.Performs.insert_valid found houses holdsKeys valid references
    (fun length declared => short.trans (made.keyLength_le declared)) nonempty free
  obtain ⟨saved, kept⟩ := saves _ performed.inSequence_eq
  rw [save_of_unsaved saver known unsaved, issued, row]
  simp only [execute, Connection.execute, active]
  exact (Database.apply_granted_iff made.registers.reachable.wellFormed saver _ _).mpr
    ⟨_, saved, performed.inSequence_eq, kept⟩

end WorkUnit

/-! ## A class of a domain that is there -/

namespace Finance

open Model

theorem database_madeBy {mapping : EntityMapping} (member : mapping ∈ registry.catalog.mappings)
    (missing : (Database.inMemory "finance").tables.get? mapping.table = none) :
    database.MadeBy registry mapping :=
  .intro (.empty (.memory "finance")) member missing (rfl : bound.answer = .ok ())
    (.single (.apply Staff.count writes bound.medium))

end Finance

namespace WorkUnit

open Model

/-- A second class of the domain is saved under the key that is issued for it. -/
theorem finance_save_valid_new :
    (Finance.work.save Staff.count Class.entityType { name := "Ledger", domain := ⟨"d"⟩ }).1.1 =
      .ok () := by
  have made : Finance.database.MadeBy Finance.registry Class.mapping :=
    Finance.database_madeBy (by decide) rfl
  obtain ⟨-, width, accepted⟩ := EntityMapping.allows_cons_iff.mp
    (⟨rfl, rfl⟩ : Class.mapping.Allows [.text "none", .text "Ledger", .text "d"])
  have references : Class.mapping.ReferencesHold Finance.database.tables
      [.text "Ledger", .text "d"] := by
    intro place field target key fieldAt reference held
    match place with
    | 0 =>
        cases fieldAt
        cases reference
    | 1 =>
        cases fieldAt
        cases reference
        cases held
        exact ⟨_, _, rfl, rfl⟩
    | place + 2 => cases fieldAt
  have free : ¬ Finance.database.tables.Holds "vra_class" "none" := by
    rintro ⟨table, row, found, stored⟩
    cases found
    cases stored
  have unsaved : Class.entityType.id? { name := "Ledger", domain := ⟨"d"⟩ } = none := rfl
  have issued : Finance.work.issuer.next.1 = "none" := rfl
  have short : "none".length ≤ Finance.registry.strategy.keyLength := by decide
  exact (save_valid_new rfl made ⟨rfl, rfl⟩ rfl unsaved issued rfl
    (fun _ _ => ⟨_, rfl⟩) ⟨width, accepted⟩ references (by decide) short free).1

end WorkUnit

/-! ## Types that are not checked -/

namespace Office

/-- Tickets, whose keys are numbers. -/
def tickets : EntityMapping :=
  { entity := "Ticket"
    table := "t_ticket"
    key := { field := "id", column := "tck_id", type := .integer, nullable := false }
    columns := [] }

/-- Papers with a title. -/
def papers : EntityMapping :=
  (EntityMapping.ofKey "Paper" "t_document" "doc_id" 23).withField
    { field := "title", column := "doc_title", type := .text }

/-- Memos with a number of pages, in the table of the papers. -/
def memos : EntityMapping :=
  (EntityMapping.ofKey "Memo" "t_document" "doc_id" 23).withField
    { field := "pages", column := "doc_pages", type := .integer }

/-- A registry of types whose keys are single letters. -/
def registry (mappings : List EntityMapping) : Registry :=
  { catalog := .ofMappings mappings, strategy := ⟨"letter", 1⟩ }

/-- The registry bound to an empty database. -/
def bound (mappings : List EntityMapping) : Binding Nat :=
  (registry mappings).bind Staff.count 0 Finance.pool (.inMemory "office") 0

/-- The first data context of the registry, in which the key `k` is issued. -/
def work (mappings : List EntityMapping) : WorkUnit Nat :=
  { catalog := (registry mappings).catalog
    connection := { id := 1, username := "sa" }
    issuer := .listed (registry mappings).strategy [] "k"
    database := (bound mappings).database
    medium := (bound mappings).medium }

end Office

namespace WorkUnit

open Office

/-- A ticket has no other values than its key, and a memo has a number of pages.  Their registries
are bound, and neither of the two can be saved: the key of the ticket is no number, and there is a
title in the place of the number of pages. -/
theorem valid_new_refused :
    (bound [tickets]).answer = .ok () ∧ tickets.AcceptsValues [] ∧
      ((work [tickets]).save Staff.count (.rows tickets) [.null]).1.1 =
        .error (.typeMismatch (.column "tck_id" .integer .text)) ∧
    (bound [papers, memos]).answer = .ok () ∧ memos.AcceptsValues [.integer 3] ∧
      (registry [papers, memos]).catalog.contains memos = true ∧
      ((work [papers, memos]).save Staff.count (.rows memos) [.null, .integer 3]).1.1 =
        .error (.typeMismatch (.column "doc_title" .text .integer)) := by
  obtain ⟨-, width, accepted⟩ := EntityMapping.allows_cons_iff.mp
    (⟨rfl, rfl⟩ : memos.Allows [.text "k", .integer 3])
  exact ⟨rfl, ⟨rfl, nofun⟩, rfl, rfl, ⟨width, accepted⟩, rfl, rfl⟩

end WorkUnit

end EntityStore
