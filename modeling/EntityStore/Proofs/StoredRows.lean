import EntityStore.Proofs.EntityLaws

/-!
# Reading stored rows

Three views of one layout have to agree: the places at which a mapping looks for its
fields, the columns of the table that is made for it, and the values of a row.  The
fields of a mapping and the columns of its table are one list in one order
(`EntityMapping.column_of_field`), so what a column has let into the table is what the
mapping finds at the place of the field.

Hence every row that the table of a mapping takes in can be read back through the
mapping (`EntityMapping.stored_row_reads_back`): its key is the key under which it is
kept, a text field is read as a text or as missing, and one that may not be missing is
read as a text.

A reader knows fields by their names.  It looks for the key under the name `id`, and of
several fields of one name it reads the first.  So the key of a mapping that calls it
otherwise is not found that way, and a text behind another field of its name is not
read (`EntityMapping.parcel_not_read`).
-/

set_option autoImplicit false

namespace EntityStore

/-! ## Texts in columns -/

/-- A column of texts holds a text or nothing. -/
theorem Column.ofText?_of_validate {column : Column} {value : Value} (text : column.type = .text)
    (valid : column.validate value = .ok ()) : ∃ content, value = .ofText? content := by
  cases value with
  | null => exact ⟨none, rfl⟩
  | text content => exact ⟨some content, rfl⟩
  | integer | float | boolean =>
      simp [Column.validate, Value.isNull, text, DataType.admits] at valid

namespace RowReader

variable {reader : RowReader} {name : String} {place : Nat}

theorem value_of_place {held : Value} (found : reader.mapping.fieldIndex? name = some place)
    (heldAt : reader.row[place]? = some held) : reader.value name = .ok held := by
  simp [value, EntityMapping.value, found, heldAt]

theorem optionalText_of_place {content : Option String}
    (found : reader.mapping.fieldIndex? name = some place)
    (heldAt : reader.row[place]? = some (.ofText? content)) :
    reader.optionalText name = .ok content := by
  rw [optionalText, value_of_place found heldAt]
  cases content <;> rfl

theorem text_of_place {content : String} (found : reader.mapping.fieldIndex? name = some place)
    (heldAt : reader.row[place]? = some (.text content)) : reader.text name = .ok content := by
  have read : reader.optionalText name = .ok (some content) := optionalText_of_place found heldAt
  rw [text, read]
  rfl

end RowReader

/-! ## Fields and their columns -/

namespace EntityMapping

variable {mapping : EntityMapping} {name strategy : String} {field : FieldMapping} {place : Nat}

/-- Whether a field is the first one with a name, and at which place it is. -/
structure FirstNamed (mapping : EntityMapping) (name : String) (place : Nat)
    (field : FieldMapping) : Prop where
  fieldAt : mapping.fields[place]? = some field
  named : field.field = name
  first : ∀ earlier < place, ∀ other, mapping.fields[earlier]? = some other → other.field ≠ name

/-- The column that the table of a mapping has for the field at a place. -/
def columnAt (place : Nat) (field : FieldMapping) : Column :=
  if place = 0 then field.toColumn.asPrimaryKey else field.toColumn

theorem fieldIndex?_eq_some_iff :
    mapping.fieldIndex? name = some place ↔ ∃ field, mapping.FirstNamed name place field := by
  rw [fieldIndex?, List.findIdx?_eq_some_iff_getElem]
  constructor
  · rintro ⟨inside, named, first⟩
    refine ⟨mapping.fields[place], List.getElem?_eq_getElem inside, by simpa using named, ?_⟩
    intro earlier before other otherAt
    obtain ⟨-, rfl⟩ := List.getElem?_eq_some_iff.mp otherAt
    simpa using first earlier before
  · rintro ⟨field, fieldAt, named, first⟩
    obtain ⟨inside, rfl⟩ := List.getElem?_eq_some_iff.mp fieldAt
    refine ⟨inside, by simpa using named, ?_⟩
    intro earlier before
    have within : earlier < mapping.fields.length := before.trans inside
    simpa using first earlier before _ (List.getElem?_eq_getElem within)

/-- A name that some field has is looked up at the first of these fields. -/
theorem exists_firstNamed (member : field ∈ mapping.fields) :
    ∃ place first, mapping.fieldIndex? field.field = some place ∧
      mapping.FirstNamed field.field place first := by
  have isThere : (mapping.fieldIndex? field.field).isSome = true := by
    rw [fieldIndex?, List.findIdx?_isSome, List.any_eq_true]
    exact ⟨field, member, by simp⟩
  obtain ⟨place, found⟩ := Option.isSome_iff_exists.mp isThere
  obtain ⟨first, firstNamed⟩ := fieldIndex?_eq_some_iff.mp found
  exact ⟨place, first, found, firstNamed⟩

theorem key_firstNamed (mapping : EntityMapping) :
    mapping.FirstNamed mapping.key.field 0 mapping.key where
  fieldAt := rfl
  named := rfl
  first := fun _ before => absurd before (Nat.not_lt_zero _)

/-- The columns of the table are those of the fields, in the same order. -/
theorem column_of_field (fieldAt : mapping.fields[place]? = some field) :
    (mapping.tableSchema strategy).columns[place]? = some (columnAt place field) := by
  cases place with
  | zero =>
      cases fieldAt
      rfl
  | succ place =>
      have column : (mapping.columns.map FieldMapping.toColumn)[place]? = some field.toColumn := by
        rw [List.getElem?_map]
        exact congrArg (Option.map FieldMapping.toColumn) fieldAt
      exact column

theorem type_columnAt (place : Nat) (field : FieldMapping) :
    (columnAt place field).type = field.type := by
  rw [columnAt]
  split <;> rfl

theorem nullable_columnAt (required : field.nullable = false) :
    (columnAt place field).nullable = false := by
  rw [columnAt]
  split
  · rfl
  · exact required

end EntityMapping

/-! ## Rows that a table has taken in -/

section Stored

variable {mapping : EntityMapping} {strategy key name : String} {row : Row} {field : FieldMapping}
  {place : Nat}

theorem TableSchema.Admits.width_eq (admits : (mapping.tableSchema strategy).Admits key row) :
    row.length = mapping.width :=
  admits.width.trans mapping.length_tableColumns

/-- A stored row has a value for every field, and the column of the field allows it. -/
theorem TableSchema.Admits.exists_value (admits : (mapping.tableSchema strategy).Admits key row)
    (fieldAt : mapping.fields[place]? = some field) :
    ∃ held, row[place]? = some held ∧
      (EntityMapping.columnAt place field).validate held = .ok () := by
  have columnAt : (mapping.tableSchema strategy).columns[place]? =
      some (EntityMapping.columnAt place field) := EntityMapping.column_of_field fieldAt
  have inside : place < row.length := by
    rw [admits.width]
    exact (List.getElem?_eq_some_iff.mp columnAt).1
  have heldAt : row[place]? = some row[place] := List.getElem?_eq_getElem inside
  exact ⟨row[place], heldAt, admits.valid place _ _ columnAt heldAt⟩

/-- What a reader makes of a field: it looks where the table has the column of the field, a text
field is read as a text or as missing, and one that may not be missing as a text. -/
structure RowReader.Reads (reader : RowReader) (schema : TableSchema) (name : String)
    (place : Nat) (field : FieldMapping) : Prop where
  found : reader.mapping.fieldIndex? name = some place
  column : schema.columns[place]? = some (EntityMapping.columnAt place field)
  value : ∃ held, reader.row[place]? = some held ∧ reader.value name = .ok held
  optionalText : field.type = .text → ∃ content,
    reader.row[place]? = some (.ofText? content) ∧ reader.optionalText name = .ok content
  text : field.type = .text → field.nullable = false → ∃ content,
    reader.row[place]? = some (.text content) ∧ reader.text name = .ok content
  optionalReference : ∀ ε : Type, field.type = .text → ∃ target : Option (EntityRef ε),
    reader.row[place]? = some (.ofText? (target.map EntityRef.id)) ∧
      reader.optionalReference name = .ok target
  reference : ∀ ε : Type, field.type = .text → field.nullable = false → ∃ target : EntityRef ε,
    reader.row[place]? = some (.text target.id) ∧ reader.reference name = .ok target

theorem RowReader.reads_of_admits {reader : RowReader}
    (admits : (reader.mapping.tableSchema strategy).Admits key reader.row)
    (found : reader.mapping.fieldIndex? name = some place)
    (firstNamed : reader.mapping.FirstNamed name place field) :
    reader.Reads (reader.mapping.tableSchema strategy) name place field := by
  obtain ⟨held, heldAt, valid⟩ := admits.exists_value firstNamed.fieldAt
  have admitted (text : field.type = .text) :
      ∃ content, reader.row[place]? = some (.ofText? content) := by
    obtain ⟨content, rfl⟩ := Column.ofText?_of_validate
      ((EntityMapping.type_columnAt place field).trans text) valid
    exact ⟨content, heldAt⟩
  have required (text : field.type = .text) (notNull : field.nullable = false) :
      ∃ content, reader.row[place]? = some (.text content) := by
    obtain ⟨content, rfl⟩ := Column.text_of_validate
      ((EntityMapping.type_columnAt place field).trans text)
      (EntityMapping.nullable_columnAt notNull) valid
    exact ⟨content, heldAt⟩
  refine ⟨found, EntityMapping.column_of_field firstNamed.fieldAt,
    ⟨held, heldAt, value_of_place found heldAt⟩, ?_, ?_, ?_, ?_⟩
  · intro text
    obtain ⟨content, contentAt⟩ := admitted text
    exact ⟨content, contentAt, optionalText_of_place found contentAt⟩
  · intro text notNull
    obtain ⟨content, contentAt⟩ := required text notNull
    exact ⟨content, contentAt, text_of_place found contentAt⟩
  · intro ε text
    obtain ⟨content, contentAt⟩ := admitted text
    refine ⟨content.map EntityRef.mk, ?_, ?_⟩
    · simpa [Option.map_map, Function.comp_def] using contentAt
    · rw [RowReader.optionalReference, optionalText_of_place found contentAt]
      rfl
  · intro ε text notNull
    obtain ⟨content, contentAt⟩ := required text notNull
    refine ⟨⟨content⟩, contentAt, ?_⟩
    rw [RowReader.reference, text_of_place found contentAt]
    rfl

/-- The reader of a stored row, and what it makes of the key and of every field. -/
theorem RowReader.exists_of_admits (admits : (mapping.tableSchema strategy).Admits key row) :
    ∃ reader, RowReader.ofRow mapping row = .ok reader ∧
      reader.optionalText mapping.key.field = .ok (some key) ∧
      ∀ field ∈ mapping.fields, ∃ place first, mapping.FirstNamed field.field place first ∧
        reader.Reads (mapping.tableSchema strategy) field.field place first := by
  let reader : RowReader := ⟨mapping, row, admits.width_eq⟩
  have begun : RowReader.ofRow mapping row = .ok reader := dif_pos admits.width_eq
  have keyed : row[0]? = some (.ofText? (some key)) := admits.keyed
  have keyFound : mapping.fieldIndex? mapping.key.field = some 0 :=
    EntityMapping.fieldIndex?_eq_some_iff.mpr ⟨mapping.key, mapping.key_firstNamed⟩
  refine ⟨reader, begun, optionalText_of_place keyFound keyed, ?_⟩
  intro field member
  obtain ⟨place, first, found, firstNamed⟩ := EntityMapping.exists_firstNamed member
  have reads : reader.Reads (mapping.tableSchema strategy) field.field place first :=
    reads_of_admits admits found firstNamed
  exact ⟨place, first, firstNamed, reads⟩

/-- A row of the table of an entity type of the application is read as an entity. -/
theorem Model.Kind.exists_of_admits (kind : Model.Kind)
    (admits : (kind.type.mapping.tableSchema strategy).Admits key row) :
    ∃ entity, kind.type.ofRow row = .ok entity ∧ kind.type.id? entity = some key := by
  have houses : (Table.ofSchema (kind.type.mapping.tableSchema strategy)).Houses
      kind.type.mapping := ⟨Columns.sameLayout_refl _, rfl⟩
  obtain ⟨allows, keyed, -⟩ := houses.admits_iff.mp admits
  exact kind.faithful.reads allows keyed

end Stored

/-- **Every row that the table of a mapping takes in can be read back through the mapping.**  The
row is accepted by a reader, which finds in it the key under which the row is kept, by the name of
the key field, and without a name when that is called `id`.  Each field is looked up where the table
has the column of the first field of that name, and what is there is read: as a text or as missing
for a text field, as a text or a reference for one that may not be missing.  A row of domains,
classes or attributes is read as an entity with its key. -/
theorem EntityMapping.stored_row_reads_back :
    (∀ (mapping : EntityMapping) (strategy : String) (row : Row) (later : Table) (key : String),
      (Table.ofSchema (mapping.tableSchema strategy)).insert row = .ok (later, key) →
        ∃ reader, RowReader.ofRow mapping row = .ok reader ∧
          reader.optionalText mapping.key.field = .ok (some key) ∧
          (mapping.key.field = "id" → reader.key = .ok (some key)) ∧
          ∀ field ∈ mapping.fields, ∃ place first, mapping.FirstNamed field.field place first ∧
            reader.Reads (mapping.tableSchema strategy) field.field place first) ∧
    ∀ (kind : Model.Kind) (strategy : String) (row : Row) (later : Table) (key : String),
      (Table.ofSchema (kind.type.mapping.tableSchema strategy)).insert row = .ok (later, key) →
        ∃ entity, kind.type.ofRow row = .ok entity ∧ kind.type.id? entity = some key := by
  constructor
  · intro mapping strategy row later key inserted
    obtain ⟨admits, -, -⟩ := Table.insert_eq_ok_iff.mp inserted
    obtain ⟨reader, begun, keyed, reads⟩ := RowReader.exists_of_admits admits
    refine ⟨reader, begun, keyed, ?_, reads⟩
    intro named
    rwa [named] at keyed
  · intro kind strategy row later key inserted
    obtain ⟨admits, -, -⟩ := Table.insert_eq_ok_iff.mp inserted
    exact kind.exists_of_admits admits

/-! ## Notes -/

namespace Notes

/-- Notes under keys of any length, with two fields of one name. -/
def mapping : EntityMapping :=
  { entity := "Note"
    table := "note"
    key := { field := "id", column := "note_id", type := .text, nullable := false }
    columns := [(FieldMapping.text "body" "note_body" 5).notNull,
      { field := "body", column := "note_pages", type := .integer }] }

/-- A note. -/
def row : Row := [.text "first", .text "hello", .integer 7]

/-- The notes with this one. -/
def table : Table := (Table.ofSchema (mapping.tableSchema "uuid4")).withRow "first" row

end Notes

/-- The first field of a name counts, also for a table whose key has no length; and a domain. -/
theorem EntityMapping.note_reads_back :
    (Table.ofSchema (Notes.mapping.tableSchema "uuid4")).insert Notes.row =
        .ok (Notes.table, "first") ∧
      (∃ reader, RowReader.ofRow Notes.mapping Notes.row = .ok reader ∧
        reader.key = .ok (some "first")) ∧
      ∃ domain, Model.Domain.ofRow [.text "d", .text "Finance", .text "00ff00", .text "FIN"] =
        .ok domain := by
  have inserted : (Table.ofSchema (Notes.mapping.tableSchema "uuid4")).insert Notes.row =
      .ok (Notes.table, "first") := by decide +kernel
  have domains : (Table.ofSchema (Model.Domain.mapping.tableSchema "uuid4")).insert
      [.text "d", .text "Finance", .text "00ff00", .text "FIN"] =
      .ok ((Table.ofSchema (Model.Domain.mapping.tableSchema "uuid4")).withRow "d"
        [.text "d", .text "Finance", .text "00ff00", .text "FIN"], "d") := by decide +kernel
  obtain ⟨ofMapping, ofKind⟩ := stored_row_reads_back
  obtain ⟨reader, begun, -, keyed, -⟩ := ofMapping _ _ _ _ _ inserted
  obtain ⟨domain, read, -⟩ := ofKind .domains _ _ _ _ domains
  exact ⟨inserted, ⟨reader, begun, keyed rfl⟩, domain, read⟩

/-! ## Parcels -/

namespace Parcels

/-- Parcels under a code, with a number and a text of one name. -/
def mapping : EntityMapping :=
  { entity := "Parcel"
    table := "parcel"
    key := (FieldMapping.text "code" "prc_code" 8).notNull
    columns := [{ field := "label", column := "prc_number", type := .integer },
      { field := "label", column := "prc_label", type := .text }] }

/-- A parcel. -/
def row : Row := [.text "p", .integer 1, .text "fragile"]

end Parcels

/-- The parcel is kept under its code, but there is no field `id` to read it from; and the text
stands behind the number. -/
theorem EntityMapping.parcel_not_read :
    ((Table.ofSchema (Parcels.mapping.tableSchema "uuid4")).insert Parcels.row).map (·.2) =
        .ok "p" ∧
      ∃ reader, RowReader.ofRow Parcels.mapping Parcels.row = .ok reader ∧
        reader.key = .error (.columnNotFound "id" "parcel") ∧
        { field := "label", column := "prc_label", type := .text } ∈ Parcels.mapping.fields ∧
        reader.optionalText "label" = .error (.typeMismatch (.textField "label" .integer)) :=
  ⟨by decide +kernel, ⟨Parcels.mapping, Parcels.row, rfl⟩, rfl, rfl, by decide, rfl⟩

end EntityStore
