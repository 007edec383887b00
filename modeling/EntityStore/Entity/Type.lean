import EntityStore.Entity.RowReader

/-!
# Entity types

An entity type is a type of values together with a mapping and the conversions that
go with it: the key of an entity, which it has from its first save on, and its row
in the order of the mapping, to and fro.

A reference holds the key of an entity of another type and nothing else.
-/

set_option autoImplicit false

namespace EntityStore

/-- How the values of a type are kept as rows. -/
structure EntityType (ε : Type) where
  mapping : EntityMapping
  id? : ε → Option String
  withId : String → ε → ε
  toRow : ε → Row
  ofRow : Row → Except Fault ε

/-- The key of an entity of some type. -/
structure EntityRef (ε : Type) where
  id : String
  deriving DecidableEq, Repr

namespace RowReader

variable {ε : Type}

/-- The reference in a field that may not be NULL. -/
def reference (reader : RowReader) (field : String) : Except Fault (EntityRef ε) :=
  (reader.text field).map EntityRef.mk

/-- The reference in a field that may be NULL. -/
def optionalReference (reader : RowReader) (field : String) :
    Except Fault (Option (EntityRef ε)) :=
  (reader.optionalText field).map (Option.map EntityRef.mk)

end RowReader

/-- A field of an entity as a value. -/
structure Property (ε : Type) where
  name : String
  get : ε → Value

namespace EntityType

variable {ε : Type}

/-- The reference to an entity that has been saved. -/
def reference (kind : EntityType ε) (entity : ε) : Except Fault (EntityRef ε) :=
  match kind.id? entity with
  | some id => .ok ⟨id⟩
  | none => .error (.constraint (.unsavedTarget kind.mapping.entity))

/-- The column of a property. -/
def column? (kind : EntityType ε) (property : Property ε) : Option String :=
  (kind.mapping.field? property.name).map (·.column)

/-- The type of plain rows of a mapping.  Its entities are the rows themselves, and the key is the
first value. -/
def rows (mapping : EntityMapping) : EntityType Row :=
  { mapping
    id? := fun row => row.head?.bind Value.text?
    withId := fun id row => row.set 0 (.text id)
    toRow := fun row => row
    ofRow := fun row => (RowReader.ofRow mapping row).map (·.row) }

end EntityType

end EntityStore
