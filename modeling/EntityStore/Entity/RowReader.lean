import EntityStore.Entity.Mapping

/-!
# Reading rows by field

A reader is a row that has as many values as its mapping has fields, so every field
of the mapping has a value in it.
-/

set_option autoImplicit false

namespace EntityStore

/-- A row of the width of its mapping. -/
structure RowReader where
  mapping : EntityMapping
  row : Row
  fits : row.length = mapping.width

namespace RowReader

/-- The reader of a row of the right width. -/
def ofRow (mapping : EntityMapping) (row : Row) : Except Fault RowReader :=
  if fits : row.length = mapping.width then .ok ⟨mapping, row, fits⟩
  else .error (.execution (.mappedWidth mapping.table row.length mapping.width))

/-- The value of a field. -/
def value (reader : RowReader) (field : String) : Except Fault Value :=
  reader.mapping.value reader.row field

/-- The text of a field that may be NULL. -/
def optionalText (reader : RowReader) (field : String) : Except Fault (Option String) := do
  match ← reader.value field with
  | .null => .ok none
  | .text content => .ok (some content)
  | other => .error (.typeMismatch (.textField field other.kind))

/-- The text of a field that may not be NULL. -/
def text (reader : RowReader) (field : String) : Except Fault String := do
  match ← reader.optionalText field with
  | some content => .ok content
  | none => .error (.constraint (.nullField field reader.mapping.entity))

/-- The key, if there is one yet. -/
def key (reader : RowReader) : Except Fault (Option String) := reader.optionalText "id"

end RowReader

end EntityStore
