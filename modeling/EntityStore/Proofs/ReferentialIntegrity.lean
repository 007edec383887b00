import EntityStore.Proofs.Reachability

/-!
# Referential integrity

Tables are intact when every reference that a stored row holds names a row that is
there.  Every change keeps them intact, for three reasons.  What a written row refers
to was there when it was written, for that was checked.  Rows that are added or
replaced never take a key away.  And a row is only deleted while no row refers to it,
itself included.

It makes no difference which table a reference goes to: the one that holds it, an
earlier or a later one, or one that is not there yet, to which no row can refer.
-/

set_option autoImplicit false

namespace EntityStore.Tables

variable {tables later : Tables} {name : String} {table written : Table}

/-- Whether every stored row refers to rows that are there. -/
def Intact (tables : Tables) : Prop :=
  ∀ ⦃name : String⦄ ⦃table : Table⦄ ⦃key : String⦄ ⦃row : Row⦄, tables.get? name = some table →
    table.get? key = some row →
      ∀ target referenced, table.schema.Refers row target referenced →
        tables.Holds target referenced

theorem Intact.empty : Intact .empty := by
  intro name table key row found
  cases found

/-! ## Keys that stay -/

/-- A new table takes no key away. -/
theorem Holds.insert_of_missing {target key : String} (holds : tables.Holds target key)
    (missing : tables.get? name = none) : Holds (tables.insert name written) target key := by
  obtain ⟨held, row, found, stored⟩ := holds
  exact ⟨held, row, KeyMap.get?_insert_of_missing missing found written, stored⟩

/-- A table that is put in the place of another takes no key away but those it lacks itself. -/
theorem Holds.insert {target key : String} (holds : tables.Holds target key)
    (found : tables.get? name = some table)
    (keeps : target = name → ∀ row, table.get? key = some row →
      ∃ kept, written.get? key = some kept) :
    Holds (tables.insert name written) target key := by
  obtain ⟨held, row, heldFound, stored⟩ := holds
  by_cases same : target = name
  · subst same
    cases found.symm.trans heldFound
    obtain ⟨kept, keptFound⟩ := keeps rfl row stored
    exact ⟨written, kept, KeyMap.get?_insert_self .., keptFound⟩
  · exact ⟨held, row, by rw [KeyMap.get?_insert_of_ne tables same, heldFound], stored⟩

/-- Writing a row takes no key away. -/
theorem Holds.withRow {target key writtenKey : String} {row : Row}
    (holds : tables.Holds target key) (found : tables.get? name = some table) :
    Holds (tables.insert name (table.withRow writtenKey row)) target key := by
  refine holds.insert found fun _ stored storedFound => ?_
  rw [Table.get?_withRow]
  split
  · exact ⟨row, rfl⟩
  · exact ⟨stored, storedFound⟩

/-! ## Changes that keep tables intact -/

/-- Tables stay intact when a table is put among them whose rows refer to rows that are there
then, and what the rows of the others refer to is still there. -/
theorem Intact.insert
    (own : ∀ key row, written.get? key = some row →
      ∀ target referenced, written.schema.Refers row target referenced →
        Holds (tables.insert name written) target referenced)
    (others : ∀ other table key row, tables.get? other = some table → table.get? key = some row →
      ∀ target referenced, table.schema.Refers row target referenced →
        Holds (tables.insert name written) target referenced) :
    Intact (tables.insert name written) := by
  intro other stored key row found rowFound
  rw [KeyMap.get?_insert] at found
  split at found
  · cases found
    exact own key row rowFound
  · exact others other stored key row found rowFound

theorem Intact.create (intact : tables.Intact) {schema : TableSchema}
    (missing : tables.get? schema.name = none) :
    Intact (tables.insert schema.name (.ofSchema schema)) := by
  refine .insert ?_ ?_
  · intro key row found
    cases found
  · intro other table key row found rowFound target referenced refers
    exact (intact found rowFound target referenced refers).insert_of_missing missing

theorem Intact.switch (intact : tables.Intact) (found : tables.get? name = some table)
    (strategy : String) : Intact (tables.insert name (table.withKeyStrategy strategy)) := by
  have stays : ∀ target referenced, tables.Holds target referenced →
      Holds (tables.insert name (table.withKeyStrategy strategy)) target referenced :=
    fun _ _ holds => holds.insert found fun _ row stored => ⟨row, stored⟩
  refine .insert ?_ ?_
  · intro key row rowFound target referenced refers
    exact stays target referenced (intact found rowFound target referenced refers)
  · intro other table key row otherFound rowFound target referenced refers
    exact stays target referenced (intact otherFound rowFound target referenced refers)

/-- A row may be written when all it refers to is there, whether it is new or not. -/
theorem Intact.withRow (intact : tables.Intact) (found : tables.get? name = some table)
    {key : String} {row : Row}
    (references : ∀ target referenced, table.schema.Refers row target referenced →
      tables.Holds target referenced) :
    Intact (tables.insert name (table.withRow key row)) := by
  refine .insert ?_ ?_
  · intro wanted stored rowFound target referenced refers
    rw [Table.get?_withRow] at rowFound
    split at rowFound
    · cases rowFound
      exact (references target referenced refers).withRow found
    · exact (intact found rowFound target referenced refers).withRow found
  · intro other table wanted stored otherFound rowFound target referenced refers
    exact (intact otherFound rowFound target referenced refers).withRow found

/-- A row may be erased when no row refers to it. -/
theorem Intact.erase (intact : tables.Intact) (found : tables.get? name = some table)
    {key : String}
    (unreferenced : ∀ referrer other rowKey row, tables.get? referrer = some other →
      other.get? rowKey = some row → ¬ other.schema.Refers row name key) :
    Intact (tables.insert name (table.erase key)) := by
  have stays : ∀ referrer other rowKey row, tables.get? referrer = some other →
      other.get? rowKey = some row →
        ∀ target referenced, other.schema.Refers row target referenced →
          Holds (tables.insert name (table.erase key)) target referenced := by
    intro referrer other rowKey row otherFound rowFound target referenced refers
    have holds := intact otherFound rowFound target referenced refers
    refine holds.insert found ?_
    rintro rfl stored storedFound
    have different : referenced ≠ key := by
      rintro rfl
      exact unreferenced referrer other rowKey row otherFound rowFound refers
    exact ⟨stored, by rw [Table.get?_erase, if_neg different, storedFound]⟩
  refine .insert ?_ stays
  intro rowKey row rowFound
  rw [Table.get?_erase] at rowFound
  split at rowFound
  · cases rowFound
  · exact stays name table rowKey row found rowFound

/-- **Every change keeps tables intact.** -/
theorem Changes.intact (changes : tables.Changes later) (intact : tables.Intact) :
    later.Intact := by
  cases changes with
  | created missing => exact intact.create missing
  | switched found => exact intact.switch found _
  | written performed =>
      cases performed with
      | insert found references | update found references => exact intact.withRow found references
      | delete found unreferenced => exact intact.erase found unreferenced

end EntityStore.Tables

namespace EntityStore.Database

theorem Reachable.intact {database : Database} (reachable : database.Reachable) :
    database.tables.Intact :=
  reachable.invariant (fun _ _ _ changes intact => changes.intact intact) .empty

end EntityStore.Database
