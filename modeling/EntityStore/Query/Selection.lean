import EntityStore.Query.Criteria

/-!
# Selections

A selection asks not for rows but for some of their fields, one result for each row
that a criteria keeps, or for aggregates over all of them, one result in all.  The
two cannot be mixed.

Aggregates pass over missing values.  Whole numbers are added as such and the sum
has to stay within sixty-four bits at every step; with a floating point number among
them all are added as floating point numbers, in the order of the rows.
-/

set_option autoImplicit false

namespace EntityStore

/-- What a column of a result holds. -/
inductive SelectionItem where
  | property (field : String)
  | count (field : String)
  | countDistinct (field : String)
  | least (field : String)
  | greatest (field : String)
  | sum (field : String)
  | average (field : String)
  | rowCount
  deriving DecidableEq, Repr

namespace SelectionItem

/-- Whether an item needs all rows at once. -/
def isAggregate : SelectionItem → Bool
  | .property _ => false
  | _ => true

/-- The heading of an item. -/
def label : SelectionItem → String
  | .property field => field
  | .count field => s!"count({field})"
  | .countDistinct field => s!"count(distinct {field})"
  | .least field => s!"min({field})"
  | .greatest field => s!"max({field})"
  | .sum field => s!"sum({field})"
  | .average field => s!"avg({field})"
  | .rowCount => "count(*)"

end SelectionItem

/-! ## Aggregates -/

namespace Aggregate

/-- The values of which no earlier one is the same. -/
def distinct (values : List Value) : List Value :=
  values.foldl (fun kept value => if kept.any value.same then kept else kept ++ [value]) []

/-- The first of the values that no other precedes in the wanted direction. -/
def extreme (wanted : Ordering) : List Value → Except Fault Value
  | [] => .ok .null
  | first :: others =>
      others.foldlM (fun best value => do
        return if (← value.compare best) = wanted then value else best) first

/-- The sum of whole numbers, each partial sum within sixty-four bits. -/
def sumIntegers (field : String) (total : Int) : List Int64 → Except Fault Value
  | [] => .ok (.integer (Int64.ofInt total))
  | number :: numbers =>
      let next := total + number.toInt
      if -0x8000000000000000 ≤ next ∧ next < 0x8000000000000000 then sumIntegers field next numbers
      else .error (.execution (.sumOverflow field))

/-- The sum of numbers as floating point numbers. -/
def sumFloats (field : String) (total : Binary64) : List Value → Except Fault Value
  | [] => .ok (.float total)
  | value :: values =>
      match value.float? with
      | some number => sumFloats field (total + number) values
      | none => .error (.typeMismatch (.summand field value.kind))

/-- The sum of values, NULL when there are none. -/
def sum (field : String) (values : List Value) : Except Fault Value :=
  if values.isEmpty then .ok .null
  else if values.all fun value => value.kind = .integer then
    sumIntegers field 0 (values.filterMap Value.integer?)
  else sumFloats field .zero values

/-- The mean of values, NULL when there are none. -/
def average (field : String) (values : List Value) : Except Fault Value := do
  if values.isEmpty then return .null
  let total ← sum field values
  return .float ((total.float?.getD .zero) / Binary64.ofInt values.length)

/-- The values of a field in rows, without those that are missing. -/
def present (mapping : EntityMapping) (rows : List Row) (field : String) :
    Except Fault (List Value) := do
  return (← rows.mapM fun row => mapping.value row field).filter fun value => !value.isNull

/-- A number of things as a value. -/
def counted (count : Nat) : Value := .integer (Int64.ofNat count)

/-- One item over all rows. -/
def evaluate (mapping : EntityMapping) (rows : List Row) : SelectionItem → Except Fault Value
  | .rowCount => .ok (counted rows.length)
  | .property field => do
      let _ ← present mapping rows field
      return .null
  | .count field => do return counted (← present mapping rows field).length
  | .countDistinct field => do return counted (distinct (← present mapping rows field)).length
  | .least field => do extreme .lt (← present mapping rows field)
  | .greatest field => do extreme .gt (← present mapping rows field)
  | .sum field => do sum field (← present mapping rows field)
  | .average field => do average field (← present mapping rows field)

end Aggregate

/-! ## Selections -/

/-- The items of a result over the rows of a criteria. -/
structure Selection where
  criteria : Criteria := {}
  items : List SelectionItem := []

namespace Selection

/-- The selection with one more restriction. -/
def add (selection : Selection) (restriction : Restriction) : Selection :=
  { selection with criteria := selection.criteria.add restriction }

/-- The place of a plain field in a row. -/
def place? (mapping : EntityMapping) : SelectionItem → Except Fault (Option Nat)
  | .property field =>
      match mapping.fieldIndex? field with
      | some place => .ok (some place)
      | none => .error (.columnNotFound field mapping.table)
  | _ => .ok none

/-- One result for each row of the criteria. -/
def project (selection : Selection) (mapping : EntityMapping) (rows : List Row) :
    Except Fault (List Row) := do
  let places := (← selection.items.mapM (place? mapping)).filterMap id
  let kept ← selection.criteria.apply mapping rows
  kept.mapM fun row => places.mapM fun place =>
    match row[place]? with
    | some value => .ok value
    | none => .error .panic

/-- The result of a selection. -/
def apply (selection : Selection) (mapping : EntityMapping) (rows : List Row) :
    Except Fault (List Row) :=
  if selection.items.isEmpty then .error (.execution .noItems)
  else if selection.items.all fun item => !item.isAggregate then selection.project mapping rows
  else if selection.items.all SelectionItem.isAggregate then do
    let kept ← selection.criteria.filter mapping rows
    return [← selection.items.mapM (Aggregate.evaluate mapping kept)]
  else .error (.execution .mixedItems)

end Selection

end EntityStore
