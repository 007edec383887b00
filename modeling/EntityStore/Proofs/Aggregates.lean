import EntityStore.Query.Selection
import EntityStore.Proofs.Checks

/-!
# What aggregates are made of

An aggregate of a field is made of the values that the field has in the rows, in the order
of the rows and without those that are missing (`Aggregate.present_eq`).  A selection of
one aggregate has one result, the aggregate over the rows that its criteria keeps
(`Selection.apply_aggregate`).
-/

set_option autoImplicit false

namespace EntityStore

variable {mapping : EntityMapping} {rows kept : List Row} {field : String}

/-- Reading what can be read of every item gives the values in order. -/
theorem mapM_eq_map {α β : Type} {read : α → Except Fault β} {valueOf : α → β} {items : List α}
    (reads : ∀ item ∈ items, read item = .ok (valueOf item)) :
    items.mapM read = .ok (items.map valueOf) := by
  induction items with
  | nil => rfl
  | cons item items ih =>
      obtain ⟨first, others⟩ := List.forall_mem_cons.mp reads
      rw [List.mapM_cons, first, ih others]
      rfl

/-- The values of a field that each row has. -/
theorem Aggregate.present_eq {valueOf : Row → Value}
    (reads : ∀ row ∈ rows, mapping.value row field = .ok (valueOf row)) :
    present mapping rows field = .ok ((rows.map valueOf).filter fun value => !value.isNull) := by
  rw [present, mapM_eq_map reads]
  rfl

/-- A selection of one aggregate answers it over the rows that are kept. -/
theorem Selection.apply_aggregate {selection : Selection} {item : SelectionItem}
    (selects : selection.items = [item]) (aggregate : item.isAggregate = true)
    (filtered : selection.criteria.filter mapping rows = .ok kept) :
    selection.apply mapping rows = (Aggregate.evaluate mapping kept item).map fun value =>
      [[value]] := by
  simp only [apply, selects, List.isEmpty_cons, List.all_cons, List.all_nil, aggregate,
    Bool.not_true, Bool.false_and, Bool.and_self, Bool.false_eq_true, if_false, if_true, filtered,
    List.mapM_cons, List.mapM_nil]
  dsimp only [bind, Except.bind]
  cases Aggregate.evaluate mapping kept item with
  | error fault => rfl
  | ok value => rfl

end EntityStore
