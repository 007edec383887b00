import EntityStore.Query.Restriction
import EntityStore.Sorting

/-!
# Criteria

A criteria asks for the rows of one entity type: those that match every one of its
restrictions, sorted by its order fields, and of these a window.

Sorting is stable.  Rows whose values have no order count as equal while the sort goes
on, and when it has come to its end it fails if it met any; so it knows only of those
that it had to compare.  Answers that contradict each other may make the sort break
off before.
-/

set_option autoImplicit false

namespace EntityStore

/-- A field to sort by. -/
structure OrderField where
  field : String
  descending : Bool
  deriving DecidableEq, Repr

/-- Which rows are wanted, in which order, and how many of them. -/
structure Criteria where
  restrictions : List Restriction := []
  order : List OrderField := []
  start : Nat := 0
  limit : Option Nat := none

/-! ## Sorting -/

/-- A place in a row to sort by, and whether in falling order. -/
abbrev SortKey := Nat × Bool

namespace SortKey

/-- The order of two rows by the first of several keys in which they differ.  There has to be a
value at each place that is looked at. -/
def compareRows (left right : Row) : List SortKey → Except Fault Ordering
  | [] => .ok .eq
  | (place, descending) :: keys =>
      match left[place]?, right[place]? with
      | some value, some other => do
          match ← value.compare other with
          | .eq => compareRows left right keys
          | order => return if descending then order.swap else order
      | _, _ => .error .panic

/-- Rows sorted by keys.  The first of the faults is reported, unless one of them ends the sort. -/
def sortRows (keys : List SortKey) (rows : List Row) : Except Fault (List Row) :=
  let compare (left right : Row) := compareRows left right keys
  let sorting := StableSort.sort rows
  match sorting.run (Comparing.places compare), sorting.faults compare with
  | none, _ => .error .panic
  | some sorted, [] => .ok sorted
  | some _, fault :: faults => .error (if .panic ∈ faults then .panic else fault)

end SortKey

namespace Criteria

/-- The criteria with one more restriction. -/
def add (criteria : Criteria) (restriction : Restriction) : Criteria :=
  { criteria with restrictions := criteria.restrictions ++ [restriction] }

/-- Whether a row matches restrictions, taken in order up to the first that it does not match. -/
def acceptsAll (mapping : EntityMapping) (row : Row) : List Restriction → Except Fault Bool
  | [] => .ok true
  | restriction :: restrictions => do
      if ← restriction.accepts mapping row then acceptsAll mapping row restrictions
      else return false

/-- The rows that match every restriction. -/
def filter (criteria : Criteria) (mapping : EntityMapping) (rows : List Row) :
    Except Fault (List Row) :=
  rows.filterM fun row => acceptsAll mapping row criteria.restrictions

/-- The place of an order field in a row. -/
def sortKey (mapping : EntityMapping) (order : OrderField) : Except Fault SortKey :=
  match mapping.fieldIndex? order.field with
  | some place => .ok (place, order.descending)
  | none => .error (.columnNotFound order.field mapping.table)

/-- Rows sorted by the order fields. -/
def sort (criteria : Criteria) (mapping : EntityMapping) (rows : List Row) :
    Except Fault (List Row) := do
  let keys ← criteria.order.mapM (sortKey mapping)
  SortKey.sortRows keys rows

/-- The rows from the start of the window to its limit. -/
def window (criteria : Criteria) (rows : List Row) : List Row :=
  match criteria.limit with
  | some limit => (rows.drop criteria.start).take limit
  | none => rows.drop criteria.start

/-- The rows that are asked for. -/
def apply (criteria : Criteria) (mapping : EntityMapping) (rows : List Row) :
    Except Fault (List Row) := do
  let kept ← criteria.filter mapping rows
  return criteria.window (← criteria.sort mapping kept)

end Criteria

end EntityStore
