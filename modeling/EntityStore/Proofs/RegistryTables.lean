import EntityStore.Registry
import EntityStore.Proofs.ReferentialIntegrity
import EntityStore.Proofs.StoreInvariant

/-!
# The tables of a registry

Binding a registry makes sure of a table for each mapping of its catalog.  A table
that is missing is made, and one that is there has to have the layout of the mapping,
so that in the end each mapping has its table (`Tables.Carries`).  The columns of a
table never change, so this stays true whatever happens to the database afterwards.

A field that is a reference is a column that is one.  What a row of such a table holds
in it is therefore the key of a row, as long as the tables are intact.
-/

set_option autoImplicit false

namespace EntityStore

/-! ## Layouts -/

theorem Columns.references_eq_of_sameLayout {left right : Columns}
    (same : left.sameLayout right = true) (place : Nat) :
    left[place]?.map (·.references) = right[place]?.map (·.references) := by
  induction left generalizing right place with
  | nil =>
      cases right with
      | nil => rfl
      | cons column right => cases same
  | cons column left ih =>
      cases right with
      | nil => cases same
      | cons other right =>
          rw [Columns.sameLayout, Bool.and_eq_true] at same
          obtain ⟨first, others⟩ := same
          cases place with
          | zero =>
              simp only [Column.sameLayout, Bool.and_eq_true, beq_iff_eq] at first
              simp only [List.getElem?_cons_zero, Option.map_some, first.2]
          | succ place => exact ih others place

theorem EntityMapping.references_tableSchema (mapping : EntityMapping) (strategy : String)
    (place : Nat) :
    (mapping.tableSchema strategy).columns[place]?.map (·.references) =
      mapping.fields[place]?.map (·.reference) := by
  cases place with
  | zero => rfl
  | succ place =>
      simp only [EntityMapping.tableSchema, TableSchema.ofColumns, EntityMapping.fields,
        List.getElem?_cons_succ, List.getElem?_map, Option.map_map]
      rfl

namespace Tables

variable {tables later : Tables} {mapping : EntityMapping}

/-- Whether the table of a mapping is there in the layout of the mapping. -/
def Carries (tables : Tables) (mapping : EntityMapping) : Prop :=
  ∃ table strategy, tables.get? mapping.table = some table ∧
    table.schema.sameLayout (mapping.tableSchema strategy) = true

theorem Carries.kept (carries : tables.Carries mapping) (keeps : tables.KeepsShapes later) :
    later.Carries mapping := by
  obtain ⟨table, strategy, found, layout⟩ := carries
  obtain ⟨kept, keptFound, columns, -⟩ := keeps found
  refine ⟨kept, strategy, keptFound, ?_⟩
  rw [TableSchema.sameLayout, columns]
  exact layout

/-- What a row holds in a reference field of its mapping is the key of a row that is there. -/
theorem Carries.holds (carries : tables.Carries mapping) (intact : tables.Intact) {table : Table}
    {key content target : String} {row : Row} {place : Nat} {field : FieldMapping}
    (found : tables.get? mapping.table = some table) (stored : table.get? key = some row)
    (fieldAt : mapping.fields[place]? = some field) (references : field.reference = some target)
    (held : row[place]? = some (.text content)) : tables.Holds target content := by
  obtain ⟨carried, strategy, carriedFound, layout⟩ := carries
  cases found.symm.trans carriedFound
  have declared := (Columns.references_eq_of_sameLayout layout place).trans
    (mapping.references_tableSchema strategy place)
  rw [fieldAt, Option.map_some, references, Option.map_eq_some_iff] at declared
  obtain ⟨column, columnAt, columnReferences⟩ := declared
  exact intact found stored target content ⟨place, column, columnAt, columnReferences, held⟩

end Tables

/-! ## Bound registries -/

namespace Database

variable {σ : Type} {database : Database}

theorem createTable_get? {save : Saver σ} {schema : TableSchema} {medium : σ}
    (created : (database.createTable save schema medium).answer = .ok ()) :
    (database.createTable save schema medium).database.tables.get? schema.name =
      some (.ofSchema schema) := by
  rw [createTable] at created ⊢
  split at created
  · cases created
  · next free =>
      rw [if_neg free, flush_database]
      exact KeyMap.get?_insert_self ..

theorem ensureTable_layout {save : Saver σ} {schema : TableSchema} {medium : σ} {made : Bool}
    (ensured : (database.ensureTable save schema medium).answer = .ok made) :
    ∃ table, (database.ensureTable save schema medium).database.tables.get? schema.name =
        some table ∧ table.schema.sameLayout schema = true := by
  cases existing : database.tables.get? schema.name with
  | none =>
      simp only [ensureTable, existing] at ensured ⊢
      cases created : (database.createTable save schema medium).answer with
      | error fault =>
          rw [created] at ensured
          cases ensured
      | ok =>
          exact ⟨.ofSchema schema, createTable_get? created, schema.columns.sameLayout_refl⟩
  | some table =>
      simp only [ensureTable, existing] at ensured ⊢
      split_ifs at ensured ⊢ with differs same
      · exact ⟨table, existing, by simpa using differs⟩
      · have layout : table.schema.sameLayout schema = true := by simpa using differs
        rw [flush_database]
        exact ⟨_, KeyMap.get?_insert_self .., layout⟩

end Database

namespace Registry

variable {σ : Type}

theorem ensureTables_evolves (save : Saver σ) (strategy : KeyStrategy) (database : Database)
    (medium : σ) (mappings : List EntityMapping) :
    database.Evolves (ensureTables save strategy database medium mappings).database := by
  induction mappings generalizing database medium with
  | nil => exact .refl
  | cons mapping mappings ih =>
      have advances : database.Advances _ :=
        .ensure save (mapping.tableSchema strategy.name) medium
      rw [ensureTables]
      split
      · exact .head advances (ih _ _)
      · exact .single advances

/-- Making sure of tables leaves one of the right layout for each mapping. -/
theorem ensureTables_carries {save : Saver σ} {strategy : KeyStrategy} {database : Database}
    {medium : σ} {mappings : List EntityMapping} (wellFormed : database.tables.WellFormed)
    (ensured : (ensureTables save strategy database medium mappings).answer = .ok ()) :
    ∀ mapping ∈ mappings,
      (ensureTables save strategy database medium mappings).database.tables.Carries mapping := by
  induction mappings generalizing database medium with
  | nil => exact fun _ member => absurd member List.not_mem_nil
  | cons mapping mappings ih =>
      have advances : database.Advances _ :=
        .ensure save (mapping.tableSchema strategy.name) medium
      have evolves := advances.evolves wellFormed
      rw [ensureTables] at ensured ⊢
      split at ensured
      · next made answer =>
          obtain ⟨table, found, layout⟩ := Database.ensureTable_layout answer
          have later := evolves.wellFormed wellFormed
          have carries : Tables.Carries _ mapping := ⟨table, strategy.name, found, layout⟩
          refine List.forall_mem_cons.mpr ⟨carries.kept ?_, ih later ensured⟩
          exact ((ensureTables_evolves ..).tables later).keepsShapes
      · cases ensured

/-- Binding a registry makes sure of the tables of its catalog. -/
theorem bind_database {save : Saver σ} {now : Nat} {registry : Registry} {pool : Pool}
    {database : Database} {medium : σ}
    (bound : (registry.bind save now pool database medium).answer = .ok ()) :
    let ensured := ensureTables save registry.strategy database medium registry.catalog.mappings
    ensured.answer = .ok () ∧
      (registry.bind save now pool database medium).database = ensured.database := by
  intro ensured
  rw [bind] at bound ⊢
  split_ifs at bound ⊢
  split at bound
  · cases bound
  · dsimp only at bound ⊢
    split at bound
    · cases bound
    · split at bound
      · next ensured => exact ⟨ensured, rfl⟩
      · cases bound

section Bound

variable {save : Saver σ} {now : Nat} {registry : Registry} {pool : Pool} {database : Database}
  {medium : σ}

theorem bind_evolves (bound : (registry.bind save now pool database medium).answer = .ok ()) :
    database.Evolves (registry.bind save now pool database medium).database := by
  rw [(bind_database bound).2]
  exact ensureTables_evolves ..

theorem bind_carries (wellFormed : database.tables.WellFormed)
    (bound : (registry.bind save now pool database medium).answer = .ok ()) :
    ∀ mapping ∈ registry.catalog.mappings,
      (registry.bind save now pool database medium).database.tables.Carries mapping := by
  rw [(bind_database bound).2]
  exact ensureTables_carries wellFormed (bind_database bound).1

end Bound

end Registry

/-- Whether a registry whose catalog has a mapping was bound to a database, which may have taken
further steps since. -/
inductive Database.Registers (database : Database) (mapping : EntityMapping) : Prop where
  | intro {σ : Type} {save : Saver σ} {now : Nat} {registry : Registry} {pool : Pool}
      {origin : Database} {medium : σ} (reachable : origin.Reachable)
      (member : mapping ∈ registry.catalog.mappings)
      (bound : (registry.bind save now pool origin medium).answer = .ok ())
      (evolves : (registry.bind save now pool origin medium).database.Evolves database)

namespace Database.Registers

variable {database : Database} {mapping : EntityMapping}

theorem reachable (registers : database.Registers mapping) : database.Reachable := by
  obtain ⟨reachable, -, bound, evolves⟩ := registers
  exact (reachable.evolve (Registry.bind_evolves bound)).evolve evolves

theorem carries (registers : database.Registers mapping) : database.tables.Carries mapping := by
  obtain ⟨reachable, member, bound, evolves⟩ := registers
  have carried := Registry.bind_carries reachable.wellFormed bound mapping member
  have wellFormed := (reachable.evolve (Registry.bind_evolves bound)).wellFormed
  exact carried.kept (evolves.tables wellFormed).keepsShapes

end Database.Registers

end EntityStore
