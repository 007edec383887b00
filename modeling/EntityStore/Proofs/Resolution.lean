import EntityStore.Context
import EntityStore.Proofs.ConnectionReads
import EntityStore.Proofs.EntityReading
import EntityStore.Proofs.RegistryTables

/-!
# Resolving references

A reference that was read from a stored class or attribute can be resolved.  This is
referential integrity as the readers of entities see it.  The table of a registered
type has the layout of its mapping, so that the reference stands in a column that is
one; a connection outside a transaction reads what is stored; and reading an entity
never fails because a row is missing.
-/

set_option autoImplicit false

namespace EntityStore

/-! ## Resolving -/

theorem Tables.find_neverMisses (tables : Tables) (name : String) :
    NeverMisses (tables.find name) := by
  rw [Tables.find]
  split
  · exact .ok _
  · exact .error fun _ _ same => by cases same

namespace Connection

theorem checkOpen_neverMisses (connection : Connection) : NeverMisses connection.checkOpen := by
  rw [checkOpen]
  split
  · exact .ok ()
  · exact .error fun _ _ same => by cases same

theorem get_neverMisses (connection : Connection) (database : Database) (table key : String) :
    NeverMisses (connection.get database table key) := by
  refine connection.checkOpen_neverMisses.bind fun _ _ => ?_
  exact (database.tables.find_neverMisses table).bind fun stored _ => .ok _

end Connection

namespace WorkUnit

variable {σ ε : Type} {work : WorkUnit σ} {kind : EntityType ε}

theorem checkType_neverMisses (work : WorkUnit σ) (kind : EntityType ε) :
    NeverMisses (work.checkType kind) := by
  rw [checkType]
  split
  · exact .ok ()
  · exact .error fun _ _ same => by cases same

theorem find_neverMisses (reads : ∀ row, NeverMisses (kind.ofRow row)) (id : String) :
    NeverMisses (work.find kind id) := by
  refine (work.checkType_neverMisses kind).bind fun _ _ => ?_
  have gets := work.connection.get_neverMisses work.database kind.mapping.table id
  refine gets.bind fun answer _ => ?_
  cases answer with
  | none => exact .ok none
  | some row => exact (reads row).bind fun entity _ => .ok (some entity)

/-- Outside a transaction a key under which there is a row is not found missing. -/
theorem find_ne_none (settled : work.connection.pending = []) {id : String}
    (holds : work.database.tables.Holds kind.mapping.table id) :
    work.find kind id ≠ .ok none := by
  intro missing
  simp only [find, bind_eq_ok_iff] at missing
  obtain ⟨_, -, answer, read, missing⟩ := missing
  obtain ⟨table, row, tableFound, stored⟩ := holds
  obtain ⟨same, sameFound, rfl⟩ :=
    Database.get_eq_ok_iff.mp (Connection.get_of_pending_eq_nil settled read)
  cases tableFound.symm.trans sameFound
  rw [stored, bind_eq_ok_iff] at missing
  obtain ⟨entity, -, impossible⟩ := missing
  cases impossible

/-- Outside a transaction a key of a stored row resolves, or the row cannot be read. -/
theorem resolve_neverMisses (settled : work.connection.pending = [])
    (reads : ∀ row, NeverMisses (kind.ofRow row)) {reference : EntityRef ε}
    (holds : work.database.tables.Holds kind.mapping.table reference.id) :
    NeverMisses (work.resolve kind reference) := by
  refine (find_neverMisses reads reference.id).bind fun answer found => ?_
  cases answer with
  | some entity => exact .ok entity
  | none => exact absurd found (find_ne_none settled holds)

end WorkUnit

/-! ## A small registered database -/

namespace Finance

open Model

/-- A registry of the entity types of the application. -/
def registry : Registry := { catalog := Model.catalog, strategy := KeyEncoding.compact.strategy }

/-- A pool that has lent no connection yet. -/
def pool : Pool := ⟨{ url := .memory "finance" }, [], 0, 1⟩

/-- The registry bound to an empty database. -/
def bound : Binding Nat := registry.bind Staff.count 0 pool (.inMemory "finance") 0

/-- The rows of a domain, a class in it, and an attribute of that. -/
def writes : List Write :=
  [.insert "vra_domain" [.text "d", .text "Finance", .text "00ff00", .text "FIN"],
    .insert "vra_class" [.text "c", .text "Account", .text "d"],
    .insert "vra_attribute" [.text "a", .text "Number", .text "c"]]

/-- The database with these rows. -/
def database : Database := (bound.database.apply Staff.count writes bound.medium).database

/-- The data context of the first connection to it. -/
def work : WorkUnit Nat :=
  { catalog := registry.catalog
    connection := { id := 1, username := "sa" }
    issuer := .listed registry.strategy [] "none"
    database
    medium := 4 }

theorem database_registers {mapping : EntityMapping}
    (member : mapping ∈ registry.catalog.mappings) : database.Registers mapping :=
  .intro (.empty (.memory "finance")) member (rfl : bound.answer = .ok ())
    (.single (.apply Staff.count writes bound.medium))

end Finance

namespace Database

open Model

variable {database : Database}

/-- What a row of a registered table holds in a reference field is the key of a row that is
there. -/
theorem Registers.holds {mapping : EntityMapping} (registers : database.Registers mapping)
    {key content target : String} {row : Row} {place : Nat} {field : FieldMapping}
    (stored : database.get mapping.table key = .ok (some row))
    (fieldAt : mapping.fields[place]? = some field) (references : field.reference = some target)
    (held : row[place]? = some (.text content)) : database.tables.Holds target content := by
  obtain ⟨table, found, rowFound⟩ := get_eq_ok_iff.mp stored
  exact registers.carries.holds registers.reachable.intact found rowFound fieldAt references held

/-- **References hold and resolve.**  In a reachable database, whatever text a stored row holds in
a column that is a reference is the key of a row of the table that the column names.  Hence
outside a transaction the reference of a stored class or attribute is never found missing, once
a registry with the type has been bound. -/
theorem Reachable.references_resolve (reachable : database.Reachable) :
    (∀ name table key row, database.tables.get? name = some table → table.get? key = some row →
      ∀ (place : Nat) (column : Column) (target content : String),
        table.schema.columns[place]? = some column → column.references = some target →
          row[place]? = some (.text content) →
            ∃ referenced stored, database.tables.get? target = some referenced ∧
              referenced.get? content = some stored) ∧
    ∀ {σ : Type} (work : WorkUnit σ), work.database = database → work.connection.Issued →
      work.connection.isInTransaction = false →
        (database.Registers Class.mapping → ∀ key row entity,
          database.get Class.mapping.table key = .ok (some row) → Class.ofRow row = .ok entity →
            ∀ table id, work.resolve Domain.entityType entity.domain ≠
              .error (.notFound table id)) ∧
        (database.Registers Attribute.mapping → ∀ key row entity,
          database.get Attribute.mapping.table key = .ok (some row) →
            Attribute.ofRow row = .ok entity →
              ∀ table id, work.resolve Class.entityType entity.owner ≠
                .error (.notFound table id)) := by
  refine ⟨?_, ?_⟩
  · intro name table key row found stored place column target content columnAt references held
    exact reachable.intact found stored target content ⟨place, column, columnAt, references, held⟩
  · rintro σ work rfl issued outside
    have settled := issued.pending_eq_nil outside
    refine ⟨fun registers key row entity stored read => ?_,
      fun registers key row entity stored read => ?_⟩
    · have holds := registers.holds stored rfl rfl (Class.ofRow_domain read)
      exact WorkUnit.resolve_neverMisses settled Domain.ofRow_neverMisses holds
    · have holds := registers.holds stored rfl rfl (Attribute.ofRow_owner read)
      exact WorkUnit.resolve_neverMisses settled Class.ofRow_neverMisses holds

/-- The class finds its domain, and the attribute its class. -/
theorem finance_references_resolve :
    (∀ table id, Finance.work.resolve Domain.entityType ⟨"d"⟩ ≠ .error (.notFound table id)) ∧
      ∀ table id, Finance.work.resolve Class.entityType ⟨"c"⟩ ≠ .error (.notFound table id) := by
  have classes : Finance.database.Registers Class.mapping :=
    Finance.database_registers (by decide)
  have attributes : Finance.database.Registers Attribute.mapping :=
    Finance.database_registers (by decide)
  obtain ⟨-, resolve⟩ := Reachable.references_resolve classes.reachable
  obtain ⟨ofClass, ofAttribute⟩ := resolve Finance.work rfl (.opened 1 "sa") rfl
  exact ⟨ofClass classes "c" [.text "c", .text "Account", .text "d"]
      { id := some "c", name := "Account", domain := ⟨"d"⟩ } rfl rfl,
    ofAttribute attributes "a" [.text "a", .text "Number", .text "c"]
      { id := some "a", name := "Number", owner := ⟨"c"⟩ } rfl rfl⟩

end Database

end EntityStore
