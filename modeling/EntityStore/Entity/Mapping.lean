import EntityStore.Table

/-!
# Mappings

A mapping says how the fields of one entity type become the columns of one table.
The key is a field of its own and always comes first; the other fields follow in the
order of their declaration.  That one order is the order of the values of a row, of
the columns of the table, and of the places that `fieldIndex?` answers.

A mapping that is begun with `ofKey` has a key called `id`, a text that is not NULL.
The key of a mapping that is put together in another way may be any field.
-/

set_option autoImplicit false

namespace EntityStore

/-- One field of an entity type and the column that holds it. -/
structure FieldMapping where
  field : String
  column : String
  type : DataType
  length : Option Nat := none
  nullable : Bool := true
  reference : Option String := none
  deriving DecidableEq, Repr

namespace FieldMapping

/-- A text of limited length. -/
def text (field column : String) (length : Nat) : FieldMapping :=
  { field, column, type := .text, length := some length }

/-- The field with NULL refused. -/
def notNull (mapping : FieldMapping) : FieldMapping := { mapping with nullable := false }

/-- The field with another limit on its length. -/
def limited (mapping : FieldMapping) (length : Nat) : FieldMapping :=
  { mapping with length := some length }

/-- The column of a field. -/
def toColumn (mapping : FieldMapping) : Column :=
  { name := mapping.column
    type := mapping.type
    nullable := mapping.nullable
    maxLength := mapping.length
    references := mapping.reference }

end FieldMapping

/-- The fields of an entity type and the table that holds them. -/
structure EntityMapping where
  entity : String
  table : String
  key : FieldMapping
  columns : List FieldMapping
  deriving DecidableEq, Repr

namespace EntityMapping

/-- The mapping of an entity type that has a key and no other field yet. -/
def ofKey (entity table keyColumn : String) (keyLength : Nat) : EntityMapping :=
  { entity
    table
    key := (FieldMapping.text "id" keyColumn keyLength).notNull
    columns := [] }

/-- The mapping with one more field. -/
def withField (mapping : EntityMapping) (field : FieldMapping) : EntityMapping :=
  { mapping with columns := mapping.columns ++ [field] }

/-- A reference to the entities of another type, as long as their keys may be. -/
def reference (target : EntityMapping) (field column : String) : FieldMapping :=
  { field, column, type := .text, length := target.key.length, reference := some target.table }

/-- All fields, the key first. -/
def fields (mapping : EntityMapping) : List FieldMapping := mapping.key :: mapping.columns

/-- The place of the first field with a name. -/
def fieldIndex? (mapping : EntityMapping) (field : String) : Option Nat :=
  mapping.fields.findIdx? (·.field == field)

/-- The first field with a name. -/
def field? (mapping : EntityMapping) (field : String) : Option FieldMapping :=
  mapping.fields.find? (·.field == field)

/-- The number of values of a row. -/
def width (mapping : EntityMapping) : Nat := mapping.columns.length + 1

/-- The fields that are references. -/
def references (mapping : EntityMapping) : List FieldMapping :=
  mapping.columns.filter (·.reference.isSome)

/-- The schema of the table. -/
def tableSchema (mapping : EntityMapping) (keyStrategy : String) : TableSchema :=
  .ofColumns mapping.table
    (mapping.key.toColumn.asPrimaryKey :: mapping.columns.map FieldMapping.toColumn) keyStrategy

/-- The value of a field in a row, which may be shorter than the mapping. -/
def value (mapping : EntityMapping) (row : Row) (field : String) : Except Fault Value :=
  match mapping.fieldIndex? field with
  | none => .error (.columnNotFound field mapping.table)
  | some place =>
      match row[place]? with
      | some value => .ok value
      | none => .error (.execution (.noValue mapping.table field))

end EntityMapping

end EntityStore
