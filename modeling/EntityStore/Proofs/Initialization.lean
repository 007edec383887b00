import EntityStore.Proofs.MadeTables
import EntityStore.Proofs.Resolution

/-!
# Initialization keeps the data

Binding a registry makes sure of one table after the other, and may stop at any of
them.  What it does to the table under a name is little, wherever it stops
(`EntityMapping.Prepares`): the table stays as it is, or takes over the key strategy,
or is made without rows when there was none, and the last two only happen to names of
the catalog.  One table after the other amounts to no more, so that no row and no
column that was there before is touched.

When all tables are there in the end, each with the layout of its mapping and the key
strategy of the registry, there is nothing to do for a second initialization.
-/

set_option autoImplicit false

namespace EntityStore

/-! ## Layouts -/

/-- Whether two columns agree in what a mapping says about them. -/
structure Column.Agrees (left right : Column) : Prop where
  name : left.name = right.name
  type : left.type = right.type
  nullable : left.nullable = right.nullable
  maxLength : left.maxLength = right.maxLength
  references : left.references = right.references

theorem Column.sameLayout_iff {left right : Column} :
    left.sameLayout right = true ↔ left.Agrees right := by
  simp only [Column.sameLayout, Bool.and_eq_true, beq_iff_eq]
  constructor
  · rintro ⟨⟨⟨⟨name, type⟩, nullable⟩, maxLength⟩, references⟩
    exact ⟨name, type, nullable, maxLength, references⟩
  · rintro ⟨name, type, nullable, maxLength, references⟩
    exact ⟨⟨⟨⟨name, type⟩, nullable⟩, maxLength⟩, references⟩

theorem Columns.sameLayout_iff {left right : Columns} :
    left.sameLayout right = true ↔ List.Forall₂ Column.Agrees left right := by
  induction left generalizing right with
  | nil =>
      cases right with
      | nil => exact ⟨fun _ => .nil, fun _ => rfl⟩
      | cons => exact ⟨nofun, nofun⟩
  | cons column left ih =>
      cases right with
      | nil => exact ⟨nofun, nofun⟩
      | cons other right =>
          rw [Columns.sameLayout, Bool.and_eq_true, Column.sameLayout_iff, ih,
            List.forall₂_cons]

/-- Whether a table is what a mapping and a key strategy ask for. -/
structure Table.Realizes (table : Table) (mapping : EntityMapping) (strategy : String) : Prop where
  columns : List.Forall₂ Column.Agrees table.schema.columns mapping.tableColumns
  keyStrategy : table.schema.keyStrategy = strategy

/-! ## What initialization does to a table -/

/-- What making sure of the tables of mappings may do to the table under a name. -/
inductive EntityMapping.Prepares (mappings : List EntityMapping) (strategy name : String) :
    Option Table → Option Table → Prop where
  | kept (stored : Option Table) : Prepares mappings strategy name stored stored
  | switched {mapping : EntityMapping} {table : Table} (member : mapping ∈ mappings)
      (named : mapping.table = name) :
      Prepares mappings strategy name (some table) (some (table.withKeyStrategy strategy))
  | made {mapping : EntityMapping} (member : mapping ∈ mappings) (named : mapping.table = name) :
      Prepares mappings strategy name none (some (.ofSchema (mapping.tableSchema strategy)))

namespace EntityMapping.Prepares

variable {mappings more : List EntityMapping} {strategy name : String}
  {before between after : Option Table}

theorem mono (prepares : Prepares mappings strategy name before after)
    (subset : mappings ⊆ more) : Prepares more strategy name before after := by
  cases prepares with
  | kept => exact .kept _
  | switched member named => exact .switched (subset member) named
  | made member named => exact .made (subset member) named

/-- One step after another does no more than either may. -/
theorem trans (first : Prepares mappings strategy name before between)
    (second : Prepares mappings strategy name between after) :
    Prepares mappings strategy name before after := by
  cases first with
  | kept => exact second
  | switched member named =>
      cases second with
      | kept => exact .switched member named
      | switched => exact .switched member named
  | made member named =>
      cases second with
      | kept => exact .made member named
      | switched => exact .made member named

/-- A table that was there has its columns, its key and its rows afterwards. -/
theorem of_some {table : Table} (prepares : Prepares mappings strategy name (some table) after) :
    ∃ kept, after = some kept ∧ kept.schema.columns = table.schema.columns ∧
      kept.schema.keyIndex = table.schema.keyIndex ∧ kept.rows = table.rows := by
  cases prepares with
  | kept => exact ⟨table, rfl, rfl, rfl, rfl⟩
  | switched => exact ⟨_, rfl, rfl, rfl, rfl⟩

/-- A table that was not there has no rows. -/
theorem of_none (prepares : Prepares mappings strategy name none after) :
    ∀ table ∈ after, table.rows = .empty := by
  cases prepares with
  | kept => exact nofun
  | made =>
      rintro table made
      cases made
      rfl

theorem of_unnamed (prepares : Prepares mappings strategy name before after)
    (unnamed : ∀ mapping ∈ mappings, mapping.table ≠ name) : after = before := by
  cases prepares with
  | kept => rfl
  | switched member named | made member named => exact absurd named (unnamed _ member)

/-- A table that is what is asked for stays so. -/
theorem realizes {table : Table} {mapping : EntityMapping}
    (prepares : Prepares mappings strategy name (some table) after)
    (realized : table.Realizes mapping strategy) :
    ∃ kept, after = some kept ∧ kept.Realizes mapping strategy := by
  cases prepares with
  | kept => exact ⟨table, rfl, realized⟩
  | switched => exact ⟨_, rfl, realized.columns, rfl⟩

end EntityMapping.Prepares

namespace Database

variable {σ : Type} {database : Database} {mapping : EntityMapping} {strategy : String}

open EntityMapping (Prepares)

theorem prepares_insert {tables : Tables} {after : Table}
    (prepares : Prepares [mapping] strategy mapping.table (tables.get? mapping.table) (some after))
    (name : String) :
    Prepares [mapping] strategy name (tables.get? name)
      ((tables.insert mapping.table after).get? name) := by
  rw [KeyMap.get?_insert]
  split
  · next same => exact same ▸ prepares
  · exact .kept _

/-- Making sure of one table may be refused or fail to save, but does no more than it may. -/
theorem ensureTable_prepares (save : Saver σ) (database : Database) (mapping : EntityMapping)
    (strategy : String) (medium : σ) (name : String) :
    Prepares [mapping] strategy name (database.tables.get? name)
      ((database.ensureTable save (mapping.tableSchema strategy) medium).database.tables.get?
        name) := by
  have named : (mapping.tableSchema strategy).name = mapping.table := rfl
  rw [ensureTable, named]
  split
  · next missing =>
      rw [createTable, named]
      split
      · exact .kept _
      · rw [flush_database]
        exact prepares_insert (missing ▸ .made List.mem_cons_self rfl) name
  · next existing found =>
      split_ifs
      · exact .kept _
      · exact .kept _
      · simp only [flush_database]
        exact prepares_insert (found ▸ .switched List.mem_cons_self rfl) name

theorem ensureTable_keyStrategy {save : Saver σ} {schema : TableSchema} {medium : σ} {made : Bool}
    {table : Table} (ensured : (database.ensureTable save schema medium).answer = .ok made)
    (found : (database.ensureTable save schema medium).database.tables.get? schema.name =
      some table) : table.schema.keyStrategy = schema.keyStrategy := by
  cases existing : database.tables.get? schema.name with
  | none =>
      simp only [ensureTable, existing] at ensured found
      cases created : (database.createTable save schema medium).answer with
      | error fault =>
          rw [created] at ensured
          cases ensured
      | ok =>
          rw [createTable_get? created] at found
          cases found
          rfl
  | some stored =>
      simp only [ensureTable, existing] at ensured found
      split_ifs at ensured found with differs same
      · cases existing.symm.trans found
        exact same
      · rw [flush_database, KeyMap.get?_insert_self] at found
        cases found
        rfl

/-- What was made sure of is there as it was asked for. -/
theorem ensureTable_realizes {save : Saver σ} {medium : σ} {made : Bool}
    (ensured : (database.ensureTable save (mapping.tableSchema strategy) medium).answer =
      .ok made) :
    ∃ table, (database.ensureTable save (mapping.tableSchema strategy) medium).database.tables.get?
        mapping.table = some table ∧ table.Realizes mapping strategy := by
  obtain ⟨table, found, layout⟩ := ensureTable_layout ensured
  exact ⟨table, found, Columns.sameLayout_iff.mp layout, ensureTable_keyStrategy ensured found⟩

/-- Nothing is done when the table is there as it is asked for. -/
theorem ensureTable_of_realizes {table : Table}
    (found : database.tables.get? mapping.table = some table)
    (realizes : table.Realizes mapping strategy) (save : Saver σ) (medium : σ) :
    database.ensureTable save (mapping.tableSchema strategy) medium =
      ⟨.ok false, database, medium⟩ := by
  have layout : table.schema.sameLayout (mapping.tableSchema strategy) = true :=
    Columns.sameLayout_iff.mpr realizes.columns
  have named : (mapping.tableSchema strategy).name = mapping.table := rfl
  have keyStrategy : table.schema.keyStrategy = (mapping.tableSchema strategy).keyStrategy :=
    realizes.keyStrategy
  simp only [ensureTable, named, found, layout, keyStrategy]
  simp

end Database

namespace Registry

variable {σ : Type}

open EntityMapping (Prepares)

theorem ensureTables_prepares (save : Saver σ) (strategy : KeyStrategy) (database : Database)
    (medium : σ) (mappings : List EntityMapping) (name : String) :
    Prepares mappings strategy.name name (database.tables.get? name)
      ((ensureTables save strategy database medium mappings).database.tables.get? name) := by
  induction mappings generalizing database medium with
  | nil => exact .kept _
  | cons mapping mappings ih =>
      have first := (database.ensureTable_prepares save mapping strategy.name medium name).mono
        (List.cons_subset_cons mapping (List.nil_subset mappings))
      rw [ensureTables]
      split
      · exact first.trans ((ih ..).mono (List.subset_cons_self mapping mappings))
      · exact first

theorem ensureTables_realizes {save : Saver σ} {strategy : KeyStrategy} {database : Database}
    {medium : σ} {mappings : List EntityMapping}
    (ensured : (ensureTables save strategy database medium mappings).answer = .ok ()) :
    ∀ mapping ∈ mappings, ∃ table,
      (ensureTables save strategy database medium mappings).database.tables.get? mapping.table =
        some table ∧ table.Realizes mapping strategy.name := by
  induction mappings generalizing database medium with
  | nil => exact fun _ member => absurd member List.not_mem_nil
  | cons mapping mappings ih =>
      rw [ensureTables] at ensured ⊢
      split at ensured
      · next made answer =>
          refine List.forall_mem_cons.mpr ⟨?_, ih ensured⟩
          obtain ⟨table, found, realizes⟩ := Database.ensureTable_realizes answer
          have others := ensureTables_prepares save strategy
            (database.ensureTable save (mapping.tableSchema strategy.name) medium).database
            (database.ensureTable save (mapping.tableSchema strategy.name) medium).medium
            mappings mapping.table
          rw [found] at others
          exact others.realizes realizes
      · cases ensured

theorem ensureTables_of_realizes {strategy : KeyStrategy} {database : Database}
    {mappings : List EntityMapping}
    (realized : ∀ mapping ∈ mappings, ∃ table, database.tables.get? mapping.table = some table ∧
      table.Realizes mapping strategy.name) (save : Saver σ) (medium : σ) :
    ensureTables save strategy database medium mappings = ⟨.ok (), database, medium⟩ := by
  induction mappings with
  | nil => rfl
  | cons mapping mappings ih =>
      obtain ⟨⟨table, found, realizes⟩, others⟩ := List.forall_mem_cons.mp realized
      rw [ensureTables, Database.ensureTable_of_realizes found realizes]
      exact ih others

/-! ## Binding -/

section Bound

variable {registry : Registry} {now : Nat} {pool : Pool} {database : Database} {medium : σ}

/-- However binding ends, it does no more to a table than making sure of the tables may. -/
theorem bind_prepares (save : Saver σ) (now : Nat) (registry : Registry) (pool : Pool)
    (database : Database) (medium : σ) (name : String) :
    Prepares registry.catalog.mappings registry.strategy.name name (database.tables.get? name)
      ((registry.bind save now pool database medium).database.tables.get? name) := by
  have ensured := ensureTables_prepares save registry.strategy database medium
    registry.catalog.mappings name
  rw [bind]
  split_ifs
  · exact .kept _
  split
  · exact .kept _
  dsimp only
  split
  · exact .kept _
  split
  · exact ensured
  · exact ensured

theorem bind_registry {save : Saver σ}
    (bound : (registry.bind save now pool database medium).answer = .ok ()) :
    registry.ready = false ∧
      (registry.bind save now pool database medium).registry = { registry with ready := true } := by
  rw [bind] at bound ⊢
  split_ifs at bound ⊢ with ready
  refine ⟨Bool.eq_false_iff.mpr ready, ?_⟩
  split at bound
  · cases bound
  · dsimp only at bound ⊢
    split at bound
    · cases bound
    · split at bound
      · rfl
      · cases bound

theorem tearDown_ready (unbound : registry.ready = false) :
    tearDown { registry with ready := true } = .ok registry := by
  obtain ⟨catalog, strategy, ready⟩ := registry
  cases unbound
  rfl

/-- A registry that finds its tables as it wants them is bound without changing anything. -/
theorem bind_of_realizes (unbound : registry.ready = false)
    (valid : registry.catalog.validate registry.strategy = .ok ())
    (realized : ∀ mapping ∈ registry.catalog.mappings, ∃ table,
      database.tables.get? mapping.table = some table ∧
        table.Realizes mapping registry.strategy.name)
    {probe : Connection} (lends : (pool.acquire now).answer = .ok probe) (save : Saver σ) :
    let binding := registry.bind save now pool database medium
    binding.answer = .ok () ∧ binding.database = database ∧ binding.medium = medium ∧
      binding.registry = { registry with ready := true } := by
  have ensured := ensureTables_of_realizes realized save medium
  simp only [bind, unbound, valid, lends, ensured]
  exact ⟨rfl, rfl, rfl, rfl⟩

end Bound

/-- **Initialization keeps the data.**  However binding a registry ends, every table that was there
has its columns, its key and its rows, a table that was not there has no rows, and nothing happens
to names outside the catalog.  When it succeeds, each mapping has a table with its columns and the
key strategy of the registry, and the registry, torn down and bound once more to a pool that lends
a connection, is bound again and has changed nothing. -/
theorem bind_keeps_data (save : Saver σ) (now : Nat) (registry : Registry) (pool : Pool)
    (database : Database) (medium : σ) :
    let binding := registry.bind save now pool database medium
    (∀ name table, database.tables.get? name = some table →
      ∃ kept, binding.database.tables.get? name = some kept ∧
        kept.schema.columns = table.schema.columns ∧
        kept.schema.keyIndex = table.schema.keyIndex ∧ kept.rows = table.rows) ∧
    (∀ name, database.tables.get? name = none →
      ∀ table ∈ binding.database.tables.get? name, table.rows = .empty) ∧
    (∀ name, (∀ mapping ∈ registry.catalog.mappings, mapping.table ≠ name) →
      binding.database.tables.get? name = database.tables.get? name) ∧
    (binding.answer = .ok () →
      (∀ mapping ∈ registry.catalog.mappings, ∃ table,
        binding.database.tables.get? mapping.table = some table ∧
          table.Realizes mapping registry.strategy.name) ∧
      ∃ tornDown, binding.registry.tearDown = .ok tornDown ∧
        ∀ (saveAgain : Saver σ) (later : Nat) (lender : Pool),
          (∃ probe, (lender.acquire later).answer = .ok probe) →
            let again := tornDown.bind saveAgain later lender binding.database binding.medium
            again.answer = .ok () ∧ again.database = binding.database ∧
              again.medium = binding.medium ∧ again.registry = binding.registry) := by
  intro binding
  have prepares := bind_prepares save now registry pool database medium
  refine ⟨?_, ?_, fun name => (prepares name).of_unnamed, fun bound => ?_⟩
  · intro name table found
    have prepared := prepares name
    rw [found] at prepared
    exact prepared.of_some
  · intro name missing
    have prepared := prepares name
    rw [missing] at prepared
    exact prepared.of_none
  · obtain ⟨ensured, left⟩ := bind_database bound
    obtain ⟨unbound, ready⟩ := bind_registry bound
    have realized : ∀ mapping ∈ registry.catalog.mappings, ∃ table,
        binding.database.tables.get? mapping.table = some table ∧
          table.Realizes mapping registry.strategy.name := by
      rw [left]
      exact ensureTables_realizes ensured
    have tornDown : binding.registry.tearDown = .ok registry := by
      rw [ready]
      exact tearDown_ready unbound
    refine ⟨realized, registry, tornDown, fun saveAgain later lender ⟨probe, lends⟩ => ?_⟩
    rw [ready]
    exact bind_of_realizes unbound (bind_validates bound) realized lends saveAgain

end Registry

/-! ## Tables with rows -/

/-- A registry of the same types that counts its keys. -/
def Finance.counting : Registry := { catalog := Model.catalog, strategy := ⟨"counted", 8⟩ }

/-- The tables of the application take over another key strategy.  The class in them stays, and
binding the registry once more saves nothing. -/
theorem Registry.finance_keeps_data :
    let binding := Finance.counting.bind Staff.count 5 Finance.pool Finance.database 4
    binding.answer = .ok () ∧
      binding.database.get "vra_class" "c" =
        .ok (some [.text "c", .text "Account", .text "d"]) ∧
      (∃ table, binding.database.tables.get? "vra_class" = some table ∧
        table.Realizes Model.Class.mapping "counted") ∧
      ∃ tornDown, binding.registry.tearDown = .ok tornDown ∧
        (tornDown.bind Staff.count 6 binding.pool binding.database binding.medium).medium =
          binding.medium := by
  obtain ⟨kept, -, -, succeeds⟩ :=
    bind_keeps_data Staff.count 5 Finance.counting Finance.pool Finance.database 4
  obtain ⟨realized, tornDown, down, again⟩ := succeeds rfl
  refine ⟨rfl, ?_, realized Model.Class.mapping (by decide), tornDown, down, ?_⟩
  · obtain ⟨table, found, -, -, rows⟩ := kept "vra_class" _ rfl
    exact Database.get_eq_ok_iff.mpr ⟨table, found, congrArg (KeyMap.get? · "c") rows⟩
  · exact (again Staff.count 6 _ ⟨_, rfl⟩).2.2.1

end EntityStore
