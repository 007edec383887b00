/-!
# Three truth values

A condition on a row that lacks a value is neither true nor false.  The third truth
value lies between the two others; conjunction is the minimum, disjunction the
maximum, and negation turns the order around.
-/

set_option autoImplicit false

namespace EntityStore

/-- What a condition says of a row. -/
inductive Truth where
  | no
  | unknown
  | yes
  deriving DecidableEq, Repr

namespace Truth

/-- The truth of a decided condition. -/
def ofBool (decided : Bool) : Truth := if decided then .yes else .no

/-- Negation. -/
protected def not : Truth → Truth
  | .no => .yes
  | .unknown => .unknown
  | .yes => .no

/-- Conjunction. -/
protected def and : Truth → Truth → Truth
  | .no, _ => .no
  | _, .no => .no
  | .yes, .yes => .yes
  | _, _ => .unknown

/-- Disjunction. -/
protected def or : Truth → Truth → Truth
  | .yes, _ => .yes
  | _, .yes => .yes
  | .no, .no => .no
  | _, _ => .unknown

/-- Whether a condition holds.  An unknown one does not. -/
def holds : Truth → Bool
  | .yes => true
  | _ => false

end Truth

end EntityStore
