import EntityStore.Entity.Mapping
import EntityStore.Key.Strategy

/-!
# Catalogs

A catalog is the fixed set of entity types that are kept together, each with a table
of its own.  It fits a key strategy when every key column is long enough for the
keys of the strategy, and it is closed when every reference goes to a table of the
catalog.  Tables are made in the order of the catalog.
-/

set_option autoImplicit false

namespace EntityStore

/-- The mappings of entity types, no two of them with one table. -/
structure Catalog where
  mappings : List EntityMapping := []
  deriving DecidableEq, Repr

namespace Catalog

/-- The mapping of a table. -/
def get? (catalog : Catalog) (table : String) : Option EntityMapping :=
  catalog.mappings.find? (·.table == table)

/-- Whether a mapping's table is in the catalog. -/
def contains (catalog : Catalog) (mapping : EntityMapping) : Bool :=
  (catalog.get? mapping.table).isSome

/-- The catalog with one more mapping, unless its table is there already. -/
def add (catalog : Catalog) (mapping : EntityMapping) : Catalog :=
  if catalog.contains mapping then catalog else ⟨catalog.mappings ++ [mapping]⟩

/-- The catalog of mappings in order. -/
def ofMappings (mappings : List EntityMapping) : Catalog := mappings.foldl add {}

/-- The length of a key column that declares none. -/
def unlimitedLength : Nat := 0xFFFFFFFFFFFFFFFF

/-- Checks that the key column of a mapping holds the keys of a strategy. -/
def checkKey (strategy : KeyStrategy) (mapping : EntityMapping) : Except Fault Unit :=
  let length := mapping.key.length.getD unlimitedLength
  if length < strategy.keyLength then
    .error (.config (.shortKeyColumn mapping.table mapping.key.column length strategy.name
      strategy.keyLength))
  else .ok ()

/-- Checks that a reference goes to a table of the catalog. -/
def checkReference (catalog : Catalog) (mapping : EntityMapping) (field : FieldMapping) :
    Except Fault Unit :=
  match field.reference with
  | none => .ok ()
  | some target =>
      if (catalog.get? target).isSome then .ok ()
      else .error (.config (.unregisteredReference mapping.entity field.field target))

/-- Checks one mapping of the catalog. -/
def checkMapping (catalog : Catalog) (strategy : KeyStrategy) (mapping : EntityMapping) :
    Except Fault Unit := do
  checkKey strategy mapping
  mapping.references.forM (catalog.checkReference mapping)

/-- Checks that the catalog is closed and fits a key strategy. -/
def validate (catalog : Catalog) (strategy : KeyStrategy) : Except Fault Unit :=
  catalog.mappings.forM (catalog.checkMapping strategy)

end Catalog

end EntityStore
