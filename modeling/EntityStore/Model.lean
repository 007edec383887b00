import EntityStore.Entity.Catalog
import EntityStore.Entity.Type

/-!
# Domains, classes and attributes

The entity types of the application.  A domain is a part of the business with a
colour and a mnemonic, a class belongs to a domain, and an attribute belongs to a
class.  Each has a table of its own, and what it belongs to is a reference to a row
of the table before it, so the catalog lists the three in this order.
-/

set_option autoImplicit false

namespace EntityStore.Model

/-- The length of every key column. -/
def keyColumnLength : Nat := 23

/-! ## Domains -/

/-- A part of the business. -/
structure Domain where
  id : Option String := none
  name : String
  rgbColor : String
  mnemonic : String
  deriving DecidableEq, Repr

namespace Domain

/-- The table of domains. -/
def mapping : EntityMapping :=
  { entity := "Domain"
    table := "vra_domain"
    key := (FieldMapping.text "id" "dom_id" keyColumnLength).notNull
    columns := [
      (FieldMapping.text "name" "dom_name" 128).notNull,
      (FieldMapping.text "rgb_color" "dom_color" 6).notNull,
      (FieldMapping.text "mnemonic" "dom_mnemonic" 3).notNull] }

/-- The row of a domain. -/
def toRow (domain : Domain) : Row :=
  [.ofText? domain.id, .text domain.name, .text domain.rgbColor, .text domain.mnemonic]

/-- The domain of a row. -/
def ofRow (row : Row) : Except Fault Domain := do
  let reader ← RowReader.ofRow mapping row
  return {
    id := ← reader.key
    name := ← reader.text "name"
    rgbColor := ← reader.text "rgb_color"
    mnemonic := ← reader.text "mnemonic" }

/-- Domains as entities. -/
def entityType : EntityType Domain :=
  { mapping
    id? := id
    withId := fun id domain => { domain with id := some id }
    toRow
    ofRow }

/-- The key. -/
def idProperty : Property Domain := ⟨"id", fun domain => .ofText? domain.id⟩

/-- The name. -/
def nameProperty : Property Domain := ⟨"name", fun domain => .text domain.name⟩

/-- The colour, as six hexadecimal digits. -/
def rgbColorProperty : Property Domain := ⟨"rgb_color", fun domain => .text domain.rgbColor⟩

/-- The mnemonic. -/
def mnemonicProperty : Property Domain := ⟨"mnemonic", fun domain => .text domain.mnemonic⟩

/-- All properties. -/
def properties : List (Property Domain) :=
  [idProperty, nameProperty, rgbColorProperty, mnemonicProperty]

end Domain

/-! ## Classes -/

/-- A class of things in a domain. -/
structure Class where
  id : Option String := none
  name : String
  domain : EntityRef Domain
  deriving DecidableEq, Repr

namespace Class

/-- The table of classes. -/
def mapping : EntityMapping :=
  { entity := "Class"
    table := "vra_class"
    key := (FieldMapping.text "id" "cls_id" keyColumnLength).notNull
    columns := [
      (FieldMapping.text "name" "cls_name" 128).notNull,
      (Domain.mapping.reference "domain" "dom_id").notNull] }

/-- The row of a class. -/
def toRow (entity : Class) : Row :=
  [.ofText? entity.id, .text entity.name, .text entity.domain.id]

/-- The class of a row. -/
def ofRow (row : Row) : Except Fault Class := do
  let reader ← RowReader.ofRow mapping row
  return {
    id := ← reader.key
    name := ← reader.text "name"
    domain := ← reader.reference "domain" }

/-- Classes as entities. -/
def entityType : EntityType Class :=
  { mapping
    id? := id
    withId := fun id entity => { entity with id := some id }
    toRow
    ofRow }

/-- The key. -/
def idProperty : Property Class := ⟨"id", fun entity => .ofText? entity.id⟩

/-- The name. -/
def nameProperty : Property Class := ⟨"name", fun entity => .text entity.name⟩

/-- The domain that a class belongs to. -/
def domainProperty : Property Class := ⟨"domain", fun entity => .text entity.domain.id⟩

/-- All properties. -/
def properties : List (Property Class) := [idProperty, nameProperty, domainProperty]

end Class

/-! ## Attributes -/

/-- An attribute of the things of a class. -/
structure Attribute where
  id : Option String := none
  name : String
  owner : EntityRef Class
  deriving DecidableEq, Repr

namespace Attribute

/-- The table of attributes. -/
def mapping : EntityMapping :=
  { entity := "Attribute"
    table := "vra_attribute"
    key := (FieldMapping.text "id" "att_id" keyColumnLength).notNull
    columns := [
      (FieldMapping.text "name" "att_name" 128).notNull,
      (Class.mapping.reference "class" "cls_id").notNull] }

/-- The row of an attribute. -/
def toRow (entity : Attribute) : Row :=
  [.ofText? entity.id, .text entity.name, .text entity.owner.id]

/-- The attribute of a row. -/
def ofRow (row : Row) : Except Fault Attribute := do
  let reader ← RowReader.ofRow mapping row
  return {
    id := ← reader.key
    name := ← reader.text "name"
    owner := ← reader.reference "class" }

/-- Attributes as entities. -/
def entityType : EntityType Attribute :=
  { mapping
    id? := id
    withId := fun id entity => { entity with id := some id }
    toRow
    ofRow }

/-- The key. -/
def idProperty : Property Attribute := ⟨"id", fun entity => .ofText? entity.id⟩

/-- The name. -/
def nameProperty : Property Attribute := ⟨"name", fun entity => .text entity.name⟩

/-- The class that an attribute belongs to. -/
def classProperty : Property Attribute := ⟨"class", fun entity => .text entity.owner.id⟩

/-- All properties. -/
def properties : List (Property Attribute) := [idProperty, nameProperty, classProperty]

end Attribute

/-- The entity types of the application, each after those it refers to. -/
def catalog : Catalog :=
  .ofMappings [Domain.mapping, Class.mapping, Attribute.mapping]

end EntityStore.Model
