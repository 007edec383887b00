import EntityStore.Model
import EntityStore.Proofs.MadeTables

/-!
# Laws of entity types

What a data context relies on when it keeps the entities of a type as rows.  An
entity with a key puts it first in its row; the row gives the entity back in every
field; and whatever row the columns of the type allow can be read, as an entity with
the key of the row (`EntityType.Faithful`).

The three types of the application are of this kind.  All of their columns are texts
that may not be NULL, so that a row that is allowed is nothing but a list of texts.
-/

set_option autoImplicit false

namespace EntityStore

variable {ε : Type}

namespace EntityType

/-- Whether an entity with a key puts it first in its row. -/
def KeyFirst (kind : EntityType ε) : Prop :=
  ∀ ⦃id : String⦄ ⦃entity : ε⦄, kind.id? entity = some id →
    (kind.toRow entity)[0]? = some (.text id)

theorem KeyFirst.ofText? {kind : EntityType ε}
    (first : ∀ entity, (kind.toRow entity)[0]? = some (.ofText? (kind.id? entity))) :
    kind.KeyFirst := by
  intro id entity keyed
  rw [first, keyed]
  rfl

/-- Whether the entities of a type take the keys they are given and put them first in their
rows. -/
structure Keyed (kind : EntityType ε) : Prop where
  keyFirst : kind.KeyFirst
  id?_withId : ∀ (id : String) (entity : ε), kind.id? (kind.withId id entity) = some id

/-- Whether the entities of a type can be kept as rows and be read again. -/
structure Faithful (kind : EntityType ε) : Prop extends Keyed kind where
  withId_of_id? : ∀ ⦃id : String⦄ ⦃entity : ε⦄, kind.id? entity = some id →
    kind.withId id entity = entity
  ofRow_toRow : ∀ ⦃id : String⦄ ⦃entity : ε⦄, kind.id? entity = some id →
    kind.ofRow (kind.toRow entity) = .ok entity
  reads : ∀ ⦃row : Row⦄ ⦃key : String⦄, kind.mapping.Allows row → row[0]? = some (.text key) →
    ∃ entity, kind.ofRow row = .ok entity ∧ kind.id? entity = some key

end EntityType

/-! ## Rows of texts -/

theorem Column.text_of_validate {column : Column} {value : Value} (text : column.type = .text)
    (required : column.nullable = false) (valid : column.validate value = .ok ()) :
    ∃ content, value = .text content := by
  cases value with
  | text content => exact ⟨content, rfl⟩
  | null => simp [Column.validate, Value.isNull, required] at valid
  | integer | float | boolean =>
      simp [Column.validate, Value.isNull, text, DataType.admits] at valid

/-- What columns of required texts allow is a list of texts. -/
theorem Columns.texts_of_validate {columns : Columns} {row : Row}
    (texts : ∀ column ∈ columns, column.type = .text ∧ column.nullable = false)
    (width : row.length = columns.length) (valid : columns.validate row = .ok ()) :
    ∃ contents : List String, row = contents.map .text := by
  induction columns generalizing row with
  | nil => exact ⟨[], List.eq_nil_of_length_eq_zero width⟩
  | cons column columns ih =>
      cases row with
      | nil => cases width
      | cons value row =>
          rw [Columns.validate, bind_eq_ok_iff] at valid
          obtain ⟨_, first, others⟩ := valid
          obtain ⟨⟨text, required⟩, rest⟩ := List.forall_mem_cons.mp texts
          obtain ⟨content, rfl⟩ := Column.text_of_validate text required first
          obtain ⟨contents, rfl⟩ := ih rest (Nat.succ.inj width) others
          exact ⟨content :: contents, rfl⟩

theorem EntityMapping.Allows.texts {mapping : EntityMapping} {row : Row}
    (allows : mapping.Allows row)
    (texts : ∀ column ∈ mapping.tableColumns, column.type = .text ∧ column.nullable = false) :
    ∃ contents : List String, row = contents.map .text ∧ contents.length = mapping.width := by
  have width := allows.width
  obtain ⟨contents, rfl⟩ := Columns.texts_of_validate texts
    (width.trans mapping.length_tableColumns.symm) allows.valid
  exact ⟨contents, rfl, by rw [← width, List.length_map]⟩

/-! ## The types of the application -/

namespace Model

theorem Domain.faithful : Domain.entityType.Faithful where
  keyFirst := .ofText? fun _ => rfl
  id?_withId _ _ := rfl
  withId_of_id? := by
    rintro id ⟨_, name, rgbColor, mnemonic⟩ ⟨⟩
    rfl
  ofRow_toRow := by
    rintro id ⟨_, name, rgbColor, mnemonic⟩ ⟨⟩
    rfl
  reads := by
    intro row key allows keyed
    obtain ⟨contents, rfl, width⟩ := allows.texts (by decide)
    match contents, width with
    | [id, name, rgbColor, mnemonic], _ =>
        cases keyed
        exact ⟨_, rfl, rfl⟩

theorem Class.faithful : Class.entityType.Faithful where
  keyFirst := .ofText? fun _ => rfl
  id?_withId _ _ := rfl
  withId_of_id? := by
    rintro id ⟨_, name, domain⟩ ⟨⟩
    rfl
  ofRow_toRow := by
    rintro id ⟨_, name, domain⟩ ⟨⟩
    rfl
  reads := by
    intro row key allows keyed
    obtain ⟨contents, rfl, width⟩ := allows.texts (by decide)
    match contents, width with
    | [id, name, domain], _ =>
        cases keyed
        exact ⟨_, rfl, rfl⟩

theorem Attribute.faithful : Attribute.entityType.Faithful where
  keyFirst := .ofText? fun _ => rfl
  id?_withId _ _ := rfl
  withId_of_id? := by
    rintro id ⟨_, name, owner⟩ ⟨⟩
    rfl
  ofRow_toRow := by
    rintro id ⟨_, name, owner⟩ ⟨⟩
    rfl
  reads := by
    intro row key allows keyed
    obtain ⟨contents, rfl, width⟩ := allows.texts (by decide)
    match contents, width with
    | [id, name, owner], _ =>
        cases keyed
        exact ⟨_, rfl, rfl⟩

/-- The entity types of the application. -/
inductive Kind where
  | domains
  | classes
  | attributes
  deriving DecidableEq, Repr

namespace Kind

/-- What the entities of a kind are. -/
abbrev Entity : Kind → Type
  | domains => Domain
  | classes => Class
  | attributes => Attribute

/-- The entities of a kind as an entity type. -/
def type : (kind : Kind) → EntityType kind.Entity
  | domains => Domain.entityType
  | classes => Class.entityType
  | attributes => Attribute.entityType

theorem faithful (kind : Kind) : kind.type.Faithful := by
  cases kind with
  | domains => exact Domain.faithful
  | classes => exact Class.faithful
  | attributes => exact Attribute.faithful

end Kind

end Model

end EntityStore
