import EntityStore.Proofs.BatchSemantics
import EntityStore.Proofs.Initialization

/-!
# Tables that were asked for

Who makes sure of a table names its columns, and these say which of them is the key:
the first primary key, or the first column when there is none.  All tables of a database
whose tables were asked for in this way have the key that their own columns declare
(`Database.Declared.tables_declared`).

Making sure of a table compares the columns with those of a table that is there, primary
keys aside.  So it succeeds although the table has another column for a key than the one
that was asked for, and rows are stored under that one from then on.  The table is the one
that was asked for exactly when the columns also agree on the primary keys
(`Database.Declared.ensured_as_requested`).
-/

set_option autoImplicit false

namespace EntityStore

/-! ## Columns that agree on the primary keys -/

/-- A layout and whether it is a primary key are all that there is to a column. -/
theorem Column.eq_of_agrees {left right : Column} (agrees : left.Agrees right)
    (flag : left.primaryKey = right.primaryKey) : left = right := by
  obtain ⟨name, type, nullable, maxLength, references⟩ := agrees
  cases left
  cases right
  cases name
  cases type
  cases nullable
  cases maxLength
  cases references
  cases flag
  rfl

namespace Columns

/-- Which columns are primary keys. -/
def keyFlags (columns : Columns) : List Bool := columns.map (·.primaryKey)

theorem eq_of_agrees {left right : Columns} (agree : List.Forall₂ Column.Agrees left right)
    (flags : left.keyFlags = right.keyFlags) : left = right := by
  induction agree with
  | nil => rfl
  | @cons column other left right agrees _ same =>
      obtain ⟨flag, others⟩ : column.primaryKey = other.primaryKey ∧
          keyFlags left = keyFlags right := List.cons.inj flags
      rw [Column.eq_of_agrees agrees flag, same others]

end Columns

/-! ## Schemas that columns declare -/

namespace TableSchema

/-- Whether the key of a schema is the one that its columns declare. -/
def IsDeclared (schema : TableSchema) : Prop :=
  schema.keyIndex = schema.columns.primaryKeyIndex?.getD 0

theorem isDeclared_ofColumns (name : String) (columns : Columns) (strategy : String) :
    (ofColumns name columns strategy).IsDeclared := rfl

theorem IsDeclared.eq_ofColumns {schema : TableSchema} (declared : schema.IsDeclared) :
    schema = .ofColumns schema.name schema.columns schema.keyStrategy := by
  rw [ofColumns, ← declared]

end TableSchema

namespace Tables

variable {tables later : Tables} {name : String}

/-- Whether every table has the key that its columns declare. -/
def Declared (tables : Tables) : Prop :=
  ∀ ⦃name : String⦄ ⦃schema : TableSchema⦄, tables.schema? name = some schema → schema.IsDeclared

theorem schema?_of_get? {table : Table} (found : tables.get? name = some table) :
    tables.schema? name = some table.schema := by
  rw [schema?, found, Option.map_some]

theorem Declared.empty : Declared .empty := fun _ _ found => nomatch found

theorem Declared.insert (declared : tables.Declared) {table : Table}
    (ofTable : table.schema.IsDeclared) (name : String) :
    Declared (tables.insert name table) := by
  intro other schema found
  rw [schema?, KeyMap.get?_insert] at found
  split at found
  · cases found
    exact ofTable
  · exact declared found

theorem KeepsShapes.columns_eq (keeps : tables.KeepsShapes later) {table kept : Table}
    (found : tables.get? name = some table) (keptFound : later.get? name = some kept) :
    kept.schema.columns = table.schema.columns := by
  obtain ⟨same, sameFound, columns, -⟩ := keeps found
  cases keptFound.symm.trans sameFound
  exact columns

/-- A row that is inserted last is stored under the text in the key column of its table. -/
theorem stored_of_inSequence {writes : List Write} {row : Row} {table : Table}
    (found : tables.get? name = some table)
    (done : tables.inSequence (writes ++ [.insert name row]) = .ok later) :
    ∃ key, row[table.schema.keyIndex]? = some (.text key) ∧ later.row? name key = some row := by
  rw [inSequence_append, bind_eq_ok_iff] at done
  obtain ⟨between, before, last⟩ := done
  obtain ⟨kept, keptFound, -, keyIndex⟩ := (evolves_of_inSequence before).keepsShapes found
  rw [inSequence_cons, bind_eq_ok_iff] at last
  obtain ⟨⟨written, step⟩, write, same⟩ := last
  cases same
  cases write_eq_ok_iff.mp write with
  | @insert _ key _ stored storedFound _ admits _ =>
      cases keptFound.symm.trans storedFound
      refine ⟨key, keyIndex ▸ admits.keyed, ?_⟩
      rw [row?, KeyMap.get?_insert_self, Option.bind_some, Table.get?_withRow, if_pos rfl]

end Tables

/-! ## Databases whose tables were asked for -/

namespace Database

variable {database later : Database}

/-- One operation on a database in which tables are asked for by their columns, or opening an image
of its tables. -/
inductive Operates (database : Database) : Database → Prop where
  | create {σ : Type} (save : Saver σ) (name : String) (columns : Columns) (strategy : String)
      (medium : σ) :
      Operates database
        (database.createTable save (.ofColumns name columns strategy) medium).database
  | ensure {σ : Type} (save : Saver σ) (name : String) (columns : Columns) (strategy : String)
      (medium : σ) :
      Operates database
        (database.ensureTable save (.ofColumns name columns strategy) medium).database
  | apply {σ : Type} (save : Saver σ) (writes : List Write) (medium : σ) :
      Operates database (database.apply save writes medium).database
  | reopen {reopened : Database} (reopens : database.Reopens reopened) :
      Operates database reopened

/-- Whether a database comes from an empty one by asking for tables. -/
def Declared (database : Database) : Prop :=
  ∃ location, Relation.ReflTransGen Operates ⟨.empty, location⟩ database

theorem Operates.advances (operates : database.Operates later) : database.Advances later := by
  cases operates with
  | create save => exact .create save _ _
  | ensure save => exact .ensure save _ _
  | apply save writes medium => exact .apply save writes medium
  | reopen reopens => exact .reopen reopens

variable {σ : Type}

theorem createTable_declared (declared : database.tables.Declared) (save : Saver σ)
    {schema : TableSchema} (ofSchema : schema.IsDeclared) (medium : σ) :
    (database.createTable save schema medium).database.tables.Declared := by
  rw [createTable]
  split
  · exact declared
  · rw [flush_database]
    exact declared.insert ofSchema schema.name

theorem ensureTable_declared (declared : database.tables.Declared) (save : Saver σ)
    {schema : TableSchema} (ofSchema : schema.IsDeclared) (medium : σ) :
    (database.ensureTable save schema medium).database.tables.Declared := by
  rw [ensureTable]
  split
  · exact createTable_declared declared save ofSchema medium
  · next existing found =>
      have own : existing.schema.IsDeclared := declared (Tables.schema?_of_get? found)
      have switched : (existing.withKeyStrategy schema.keyStrategy).schema.IsDeclared := own
      split_ifs
      · exact declared
      · exact declared
      · simp only [flush_database]
        exact declared.insert switched schema.name

theorem apply_declared (wellFormed : database.tables.WellFormed)
    (declared : database.tables.Declared) (save : Saver σ) (writes : List Write) (medium : σ) :
    (database.apply save writes medium).database.tables.Declared := by
  obtain ⟨_, tables, applied, done⟩ := apply_settles wellFormed save writes medium
  rw [applied]
  intro name schema found
  exact declared ((Tables.schema?_inSequence done name).symm.trans found)

theorem Operates.declared (operates : database.Operates later)
    (wellFormed : database.tables.WellFormed) (declared : database.tables.Declared) :
    later.tables.Declared := by
  cases operates with
  | create save => exact createTable_declared declared save (TableSchema.isDeclared_ofColumns ..) _
  | ensure save => exact ensureTable_declared declared save (TableSchema.isDeclared_ofColumns ..) _
  | apply save writes medium => exact apply_declared wellFormed declared save writes medium
  | reopen reopens => exact reopens.tables_eq ▸ declared

/-- Whether every row that is accepted by a table, whatever was written before it, is stored under
the text that it has at some place. -/
def StoresBy (database : Database) (name : String) (keyIndex : Nat) : Prop :=
  ∀ ⦃σ : Type⦄ (save : Saver σ) (writes : List Write) (row : Row) (medium : σ),
    (database.apply save (writes ++ [.insert name row]) medium).answer = .ok () →
      ∃ key, row[keyIndex]? = some (.text key) ∧
        (database.apply save (writes ++ [.insert name row]) medium).database.tables.row? name key =
          some row

/-- The table that is there says where the key of a row is, and goes on to do so. -/
theorem Evolves.storesBy {name : String} {table : Table} (evolves : database.Evolves later)
    (wellFormed : database.tables.WellFormed) (found : database.tables.get? name = some table) :
    later.StoresBy name table.schema.keyIndex := by
  intro σ save writes row medium accepted
  have tables := evolves.tables wellFormed
  obtain ⟨kept, keptFound, -, keyIndex⟩ := tables.keepsShapes found
  rw [← keyIndex]
  exact Tables.stored_of_inSequence keptFound
    (apply_tables_of_ok (tables.wellFormed wellFormed) accepted)

/-- A table that was not there is made as it was asked for. -/
theorem ensureTable_of_missing {save : Saver σ} {schema : TableSchema} {medium : σ} {made : Bool}
    {table : Table} (missing : database.tables.get? schema.name = none)
    (ensured : (database.ensureTable save schema medium).answer = .ok made)
    (found : (database.ensureTable save schema medium).database.tables.get? schema.name =
      some table) : table.schema = schema := by
  simp only [ensureTable, missing] at ensured found
  cases created : (database.createTable save schema medium).answer with
  | error fault =>
      rw [created] at ensured
      cases ensured
  | ok =>
      rw [createTable_get? created] at found
      cases found
      rfl

namespace Declared

theorem reachable (declared : database.Declared) : database.Reachable := by
  obtain ⟨location, operates⟩ := declared
  exact ⟨location, operates.lift id fun _ _ => Operates.advances⟩

theorem operate (declared : database.Declared) (operates : database.Operates later) :
    later.Declared := by
  obtain ⟨location, before⟩ := declared
  exact ⟨location, before.tail operates⟩

/-- All tables that were asked for have the key that their columns declare. -/
theorem tables_declared (declared : database.Declared) : database.tables.Declared := by
  obtain ⟨location, operates⟩ := declared
  induction operates with
  | refl => exact .empty
  | tail before operates tables =>
      have reachable := reachable ⟨location, before⟩
      exact operates.declared reachable.wellFormed tables

/-- A table that was asked for is described by its columns and its key strategy. -/
theorem schema_eq (declared : database.Declared) {name : String} {table : Table}
    (found : database.tables.get? name = some table) :
    table.schema = .ofColumns name table.schema.columns table.schema.keyStrategy := by
  have own := (declared.tables_declared (Tables.schema?_of_get? found)).eq_ofColumns
  rwa [declared.reachable.wellFormed.named found] at own

/-- **A table that was made sure of is the one that was asked for, unless other columns of a table
that was there are primary keys.**  It has the columns that were asked for, primary keys aside,
the key strategy that was asked for, and the key that its own columns declare.  Every row that is
inserted later is stored under the text that it has at the place of that key. -/
theorem ensured_as_requested (declared : database.Declared) {save : Saver σ} {medium : σ}
    {name strategy : String} {columns : Columns} {made : Bool}
    (ensured : (database.ensureTable save (.ofColumns name columns strategy) medium).answer =
      .ok made) :
    let request := TableSchema.ofColumns name columns strategy
    let outcome := database.ensureTable save request medium
    ∃ table, outcome.database.tables.get? name = some table ∧
      List.Forall₂ Column.Agrees table.schema.columns columns ∧
      table.schema = .ofColumns name table.schema.columns strategy ∧
      (table.schema = request ↔
        ∀ schema ∈ database.tables.schema? name, schema.columns.keyFlags = columns.keyFlags) ∧
      ∀ later, outcome.database.Evolves later → later.StoresBy name table.schema.keyIndex := by
  intro request outcome
  obtain ⟨table, found, layout⟩ := ensureTable_layout ensured
  have agree : List.Forall₂ Column.Agrees table.schema.columns columns :=
    Columns.sameLayout_iff.mp layout
  have after : outcome.database.Declared := declared.operate (.ensure save name columns strategy _)
  have own : table.schema = .ofColumns name table.schema.columns strategy := by
    have keyStrategy : table.schema.keyStrategy = strategy := ensureTable_keyStrategy ensured found
    exact keyStrategy ▸ after.schema_eq found
  have keeps : database.tables.KeepsShapes outcome.database.tables :=
    (ensureTable_evolves save request database medium).keepsShapes
  refine ⟨table, found, agree, own, ⟨?_, ?_⟩, fun later evolves =>
    evolves.storesBy after.reachable.wellFormed found⟩
  · intro same schema member
    obtain ⟨existing, before, rfl⟩ := Option.map_eq_some_iff.mp member
    rw [← keeps.columns_eq before found, same]
    rfl
  · intro flags
    cases before : database.tables.get? name with
    | none => exact ensureTable_of_missing before ensured found
    | some existing =>
        have same : table.schema.columns.keyFlags = columns.keyFlags :=
          keeps.columns_eq before found ▸ flags _ (Tables.schema?_of_get? before)
        rw [own, Columns.eq_of_agrees agree same]

end Declared

end Database

/-! ## Contacts by number and by address -/

namespace Contacts

/-- Contacts whose key is their number. -/
def byNumber : Columns :=
  [({ name := "id", type := .text } : Column).asPrimaryKey,
    ({ name := "mail", type := .text } : Column).notNull]

/-- Contacts whose key is their address. -/
def byAddress : Columns :=
  [({ name := "id", type := .text } : Column).notNull,
    ({ name := "mail", type := .text } : Column).asPrimaryKey]

/-- The database after the contacts were made, by number. -/
def database : Database :=
  ((Database.inMemory "m").createTable Staff.count
    (.ofColumns "contacts" byNumber "uuid4-compact") 0).database

theorem database_declared : database.Declared :=
  ⟨_, .single (.create Staff.count "contacts" byNumber "uuid4-compact" 0)⟩

end Contacts

namespace Database.Declared

/-- Asking for the contacts by number again, with another key strategy, gives just that. -/
theorem contacts_by_number :
    let request := TableSchema.ofColumns "contacts" Contacts.byNumber "uuid7"
    let outcome := Contacts.database.ensureTable Staff.count request 1
    outcome.answer = .ok false ∧
      ∃ table, outcome.database.tables.get? "contacts" = some table ∧ table.schema = request ∧
        outcome.database.StoresBy "contacts" 0 := by
  intro request outcome
  have ensured : outcome.answer = .ok false := rfl
  obtain ⟨table, found, -, -, requested, stores⟩ :=
    ensured_as_requested Contacts.database_declared ensured
  have same : table.schema = request := requested.mpr fun schema member => by
    cases member
    rfl
  refine ⟨ensured, table, found, same, ?_⟩
  have place : table.schema.keyIndex = 0 := by rw [same]; rfl
  exact place ▸ stores _ .refl

/-- Asking for the contacts by address succeeds as well, and then a contact is still stored under
its number. -/
theorem contacts_not_by_address :
    let request := TableSchema.ofColumns "contacts" Contacts.byAddress "uuid4-compact"
    let outcome := Contacts.database.ensureTable Staff.count request 1
    let contact : Row := [.text "1", .text "ada@example.org"]
    let written := outcome.database.apply Staff.count [.insert "contacts" contact] 1
    Contacts.database.Declared ∧ outcome.answer = .ok false ∧ request.keyIndex = 1 ∧
      (outcome.database.tables.schema? "contacts").map (·.keyIndex) = some 0 ∧
      written.answer = .ok () ∧
      written.database.tables.row? "contacts" "1" = some contact ∧
      written.database.tables.row? "contacts" "ada@example.org" = none :=
  ⟨Contacts.database_declared, rfl, rfl, rfl, rfl, rfl, rfl⟩

end Database.Declared

end EntityStore
