import EntityStore.Entity.Mapping
import EntityStore.Query.Like
import EntityStore.Query.Truth

/-!
# Restrictions

A restriction is a condition on the fields of one row.  It is evaluated with three
truth values: a comparison in which a value is missing is unknown, and a row
matches only when the whole restriction is true.

Evaluation goes from left to right and stops as soon as the answer is decided: a
conjunction at the first condition that is false, a disjunction at the first that is
true.  A fault in a condition that is reached is the answer; one that is not reached
goes unnoticed.
-/

set_option autoImplicit false

namespace EntityStore

/-- How a field is compared with a value. -/
inductive Comparison where
  | equal
  | notEqual
  | less
  | lessOrEqual
  | greater
  | greaterOrEqual
  deriving DecidableEq, Repr

namespace Comparison

/-- Whether the comparison holds between two values in a given order. -/
def accepts : Comparison → Ordering → Bool
  | .equal, order => order == .eq
  | .notEqual, order => order != .eq
  | .less, order => order == .lt
  | .lessOrEqual, order => order != .gt
  | .greater, order => order == .gt
  | .greaterOrEqual, order => order != .lt

/-- The sign of a comparison. -/
def sign : Comparison → String
  | .equal => "="
  | .notEqual => "<>"
  | .less => "<"
  | .lessOrEqual => "<="
  | .greater => ">"
  | .greaterOrEqual => ">="

end Comparison

/-- The order of two values, or the fault that they have none. -/
def Value.compare (left right : Value) : Except Fault Ordering :=
  match left.order? right with
  | some order => .ok order
  | none => .error (.typeMismatch (.incomparable left.kind right.kind))

/-- A condition on the fields of a row. -/
inductive Restriction where
  | compare (field : String) (comparison : Comparison) (value : Value)
  | between (field : String) (low high : Value)
  | like (field pattern : String) (caseSensitive : Bool)
  | isNull (field : String)
  | isNotNull (field : String)
  | all (parts : List Restriction)
  | any (parts : List Restriction)
  | not (part : Restriction)

namespace Restriction

/-- Conjunction.  A conjunction takes up one more condition at its end. -/
def and : Restriction → Restriction → Restriction
  | .all parts, other => .all (parts ++ [other])
  | first, other => .all [first, other]

/-- Disjunction.  A disjunction takes up one more condition at its end. -/
def or : Restriction → Restriction → Restriction
  | .any parts, other => .any (parts ++ [other])
  | first, other => .any [first, other]

/-! ## Evaluation -/

/-- A field compared with a value. -/
def evaluateCompare (mapping : EntityMapping) (row : Row) (field : String)
    (comparison : Comparison) (value : Value) : Except Fault Truth := do
  let actual ← mapping.value row field
  if actual.isNull || value.isNull then return .unknown
  return .ofBool (comparison.accepts (← actual.compare value))

/-- A field between two values, both included.  The upper bound is looked at only when the lower
one holds. -/
def evaluateBetween (mapping : EntityMapping) (row : Row) (field : String)
    (low high : Value) : Except Fault Truth := do
  let actual ← mapping.value row field
  if actual.isNull || low.isNull || high.isNull then return .unknown
  if (← actual.compare low) = .lt then return .no
  return .ofBool ((← actual.compare high) != .gt)

/-- A text field like a pattern. -/
def evaluateLike (mapping : EntityMapping) (row : Row) (field pattern : String)
    (caseSensitive : Bool) : Except Fault Truth := do
  match ← mapping.value row field with
  | .null => return .unknown
  | .text content => return .ofBool (Like.holds content pattern caseSensitive)
  | other => .error (.typeMismatch (.pattern field other.kind))

mutual
/-- What a restriction says of a row. -/
def evaluate (mapping : EntityMapping) (row : Row) : Restriction → Except Fault Truth
  | .compare field comparison value => evaluateCompare mapping row field comparison value
  | .between field low high => evaluateBetween mapping row field low high
  | .like field pattern caseSensitive => evaluateLike mapping row field pattern caseSensitive
  | .isNull field => do return .ofBool (← mapping.value row field).isNull
  | .isNotNull field => do return .ofBool (!(← mapping.value row field).isNull)
  | .all parts => evaluateAll mapping row .yes parts
  | .any parts => evaluateAny mapping row .no parts
  | .not part => do return (← evaluate mapping row part).not

/-- The conjunction of restrictions with what was found before them. -/
def evaluateAll (mapping : EntityMapping) (row : Row) (found : Truth) :
    List Restriction → Except Fault Truth
  | [] => .ok found
  | part :: parts => do
      match ← evaluate mapping row part with
      | .no => return .no
      | .unknown => evaluateAll mapping row .unknown parts
      | .yes => evaluateAll mapping row found parts

/-- The disjunction of restrictions with what was found before them. -/
def evaluateAny (mapping : EntityMapping) (row : Row) (found : Truth) :
    List Restriction → Except Fault Truth
  | [] => .ok found
  | part :: parts => do
      match ← evaluate mapping row part with
      | .yes => return .yes
      | .unknown => evaluateAny mapping row .unknown parts
      | .no => evaluateAny mapping row found parts
end

/-- Whether a row matches a restriction. -/
def accepts (restriction : Restriction) (mapping : EntityMapping) (row : Row) :
    Except Fault Bool := do
  return (← restriction.evaluate mapping row).holds

end Restriction

end EntityStore
