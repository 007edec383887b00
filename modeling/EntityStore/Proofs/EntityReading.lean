import EntityStore.Model
import EntityStore.Proofs.Checks

/-!
# Reading entities

An entity is read from a row field by field.  That can fail in many ways, but never
because a row is missing, and what was read for a text stands in the row at the place
of its field.
-/

set_option autoImplicit false

namespace EntityStore

/-! ## Answers that miss no row -/

/-- Whether an answer is anything but that a row is missing. -/
def NeverMisses {α : Type} (answer : Except Fault α) : Prop :=
  ∀ table key, answer ≠ .error (.notFound table key)

namespace NeverMisses

variable {α β : Type}

theorem ok (value : α) : NeverMisses (.ok value) := by
  intro table key impossible
  cases impossible

theorem error {fault : Fault} (other : ∀ table key, fault ≠ .notFound table key) :
    NeverMisses (.error fault : Except Fault α) := by
  intro table key missed
  exact other table key (Except.error.inj missed)

theorem bind {first : Except Fault α} {next : α → Except Fault β} (begins : NeverMisses first)
    (goesOn : ∀ value, first = .ok value → NeverMisses (next value)) :
    NeverMisses (first >>= next) := by
  intro table key missed
  cases answered : first with
  | error fault =>
      rw [answered] at missed
      cases missed
      exact begins table key answered
  | ok value =>
      rw [answered] at missed
      exact goesOn value answered table key missed

end NeverMisses

/-! ## Row readers -/

namespace RowReader

theorem value_neverMisses (reader : RowReader) (field : String) :
    NeverMisses (reader.value field) := by
  rw [value, EntityMapping.value]
  split
  · exact .error nofun
  · split
    · exact .ok _
    · exact .error nofun

theorem optionalText_neverMisses (reader : RowReader) (field : String) :
    NeverMisses (reader.optionalText field) := by
  refine (reader.value_neverMisses field).bind fun held _ => ?_
  cases held with
  | null | text => exact .ok _
  | integer | float | boolean => exact .error nofun

theorem text_neverMisses (reader : RowReader) (field : String) :
    NeverMisses (reader.text field) := by
  refine (reader.optionalText_neverMisses field).bind fun content _ => ?_
  cases content with
  | none => exact .error nofun
  | some content => exact .ok content

theorem reference_neverMisses {ε : Type} (reader : RowReader) (field : String) :
    NeverMisses (reader.reference field : Except Fault (EntityRef ε)) :=
  (reader.text_neverMisses field).bind fun _ _ => .ok _

theorem ofRow_neverMisses (mapping : EntityMapping) (row : Row) :
    NeverMisses (ofRow mapping row) := by
  rw [ofRow]
  split
  · exact .ok _
  · exact .error nofun

theorem value_eq_ok {reader : RowReader} {field : String} {held : Value}
    (read : reader.value field = .ok held) :
    ∃ place, reader.mapping.fieldIndex? field = some place ∧ reader.row[place]? = some held := by
  rw [value, EntityMapping.value] at read
  split at read
  · cases read
  · next place fieldAt =>
      split at read
      · next other valueAt =>
          cases read
          exact ⟨place, fieldAt, valueAt⟩
      · cases read

/-- A text that was read stands in the row, at the place of its field. -/
theorem text_eq_ok {reader : RowReader} {field content : String}
    (read : reader.text field = .ok content) :
    ∃ place, reader.mapping.fieldIndex? field = some place ∧
      reader.row[place]? = some (.text content) := by
  simp only [text, optionalText, bind_eq_ok_iff] at read
  obtain ⟨found, ⟨held, valueRead, asText⟩, done⟩ := read
  cases held with
  | null =>
      cases asText
      cases done
  | text other =>
      cases asText
      cases done
      exact value_eq_ok valueRead
  | integer | float | boolean => cases asText

theorem ofRow_eq_ok {mapping : EntityMapping} {row : Row} {reader : RowReader}
    (begun : ofRow mapping row = .ok reader) : reader.mapping = mapping ∧ reader.row = row := by
  rw [ofRow] at begun
  split at begun
  · cases begun
    exact ⟨rfl, rfl⟩
  · cases begun

/-- A text that was read from a row by its mapping stands in the row. -/
theorem text_of_ofRow {mapping : EntityMapping} {row : Row} {reader : RowReader}
    {field content : String} (begun : ofRow mapping row = .ok reader)
    (read : reader.text field = .ok content) :
    ∃ place, mapping.fieldIndex? field = some place ∧ row[place]? = some (.text content) := by
  obtain ⟨rfl, rfl⟩ := ofRow_eq_ok begun
  exact text_eq_ok read

/-- A reference that was read from a row by its mapping stands in the row as a text. -/
theorem reference_of_ofRow {ε : Type} {mapping : EntityMapping} {row : Row} {reader : RowReader}
    {field : String} {target : EntityRef ε} (begun : ofRow mapping row = .ok reader)
    (read : reader.reference field = .ok target) :
    ∃ place, mapping.fieldIndex? field = some place ∧ row[place]? = some (.text target.id) := by
  cases content : reader.text field with
  | error fault =>
      rw [reference, content] at read
      cases read
  | ok id =>
      rw [reference, content] at read
      cases read
      exact text_of_ofRow begun content

end RowReader

/-! ## The entities of the application -/

namespace Model

theorem Domain.ofRow_neverMisses (row : Row) : NeverMisses (Domain.ofRow row) := by
  refine (RowReader.ofRow_neverMisses _ row).bind fun reader _ => ?_
  refine (reader.optionalText_neverMisses _).bind fun id _ => ?_
  refine (reader.text_neverMisses _).bind fun name _ => ?_
  refine (reader.text_neverMisses _).bind fun rgbColor _ => ?_
  exact (reader.text_neverMisses _).bind fun mnemonic _ => .ok _

theorem Class.ofRow_neverMisses (row : Row) : NeverMisses (Class.ofRow row) := by
  refine (RowReader.ofRow_neverMisses _ row).bind fun reader _ => ?_
  refine (reader.optionalText_neverMisses _).bind fun id _ => ?_
  refine (reader.text_neverMisses _).bind fun name _ => ?_
  exact (reader.reference_neverMisses _).bind fun domain _ => .ok _

/-- The domain of a class that was read stands in its row. -/
theorem Class.ofRow_domain {row : Row} {entity : Class} (read : Class.ofRow row = .ok entity) :
    row[2]? = some (.text entity.domain.id) := by
  simp only [Class.ofRow, bind_eq_ok_iff] at read
  obtain ⟨reader, begun, id, -, name, -, domain, domainRead, done⟩ := read
  obtain ⟨place, fieldAt, held⟩ := RowReader.reference_of_ofRow begun domainRead
  cases fieldAt
  cases done
  exact held

/-- The class of an attribute that was read stands in its row. -/
theorem Attribute.ofRow_owner {row : Row} {entity : Attribute}
    (read : Attribute.ofRow row = .ok entity) : row[2]? = some (.text entity.owner.id) := by
  simp only [Attribute.ofRow, bind_eq_ok_iff] at read
  obtain ⟨reader, begun, id, -, name, -, owner, ownerRead, done⟩ := read
  obtain ⟨place, fieldAt, held⟩ := RowReader.reference_of_ofRow begun ownerRead
  cases fieldAt
  cases done
  exact held

end Model

end EntityStore
