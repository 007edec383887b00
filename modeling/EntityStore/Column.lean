import EntityStore.Fault

/-!
# Columns

A column says which values its place in a row may hold: a type, whether NULL is
allowed, a limit on the length of texts in characters, and the table whose keys it
holds when it is a reference.  `Column.validate` is the whole of what a column can
check by itself; keys and references need the other rows and are checked elsewhere.
-/

set_option autoImplicit false

namespace EntityStore

/-- The declaration of one place in the rows of a table. -/
structure Column where
  name : String
  type : DataType
  nullable : Bool := true
  maxLength : Option Nat := none
  primaryKey : Bool := false
  references : Option String := none
  deriving DecidableEq, Repr

namespace Column

/-- The column with NULL refused. -/
def notNull (column : Column) : Column := { column with nullable := false }

/-- The column with a limit on the length of its texts. -/
def limited (column : Column) (length : Nat) : Column :=
  { column with maxLength := some length }

/-- The column as a primary key, which refuses NULL. -/
def asPrimaryKey (column : Column) : Column :=
  { column with primaryKey := true, nullable := false }

/-- The column as a reference to the keys of a table. -/
def referencing (column : Column) (table : String) : Column :=
  { column with references := some table }

/-- Whether a column may hold a value: NULL first, then the type, then the length. -/
def validate (column : Column) (value : Value) : Except Fault Unit :=
  if value.isNull then
    if column.nullable then .ok () else .error (.constraint (.nullColumn column.name))
  else if !column.type.admits value then
    .error (.typeMismatch (.column column.name column.type value.kind))
  else
    match column.maxLength, value.charLength? with
    | some limit, some length =>
        if limit < length then .error (.constraint (.tooLong column.name limit length))
        else .ok ()
    | _, _ => .ok ()

/-- Whether two columns agree in everything but being a primary key. -/
def sameLayout (left right : Column) : Bool :=
  left.name == right.name && left.type == right.type && left.nullable == right.nullable &&
    left.maxLength == right.maxLength && left.references == right.references

end Column

/-! ## Lists of columns -/

/-- The columns of a table in row order. -/
abbrev Columns := List Column

namespace Columns

/-- The place of the first column with a name. -/
def index? (columns : Columns) (name : String) : Option Nat :=
  columns.findIdx? (·.name == name)

/-- The first column with a name. -/
def find? (columns : Columns) (name : String) : Option Column :=
  List.find? (·.name == name) columns

/-- The place of the first primary key. -/
def primaryKeyIndex? (columns : Columns) : Option Nat :=
  columns.findIdx? (·.primaryKey)

/-- The places that hold references, each with the table whose keys it holds. -/
def referencesFrom (start : Nat) : Columns → List (Nat × String)
  | [] => []
  | column :: rest =>
      match column.references with
      | some target => (start, target) :: referencesFrom (start + 1) rest
      | none => referencesFrom (start + 1) rest

/-- The places that hold references, counted from the first column. -/
def references (columns : Columns) : List (Nat × String) := columns.referencesFrom 0

/-- Checks the values of a row against the columns, in order, up to the shorter of the two. -/
def validate : Columns → Row → Except Fault Unit
  | column :: columns, value :: row => do
      column.validate value
      validate columns row
  | _, _ => .ok ()

/-- Whether two lists of columns agree place by place, primary keys aside. -/
def sameLayout : Columns → Columns → Bool
  | [], [] => true
  | left :: lefts, right :: rights => left.sameLayout right && sameLayout lefts rights
  | _, _ => false

end Columns

end EntityStore
