import EntityStore.Binary64.Shortest

/-!
# Values

A row of the store holds NULL, whole numbers of sixty-four bits, floating point
numbers, texts and truth values.  Two notions of sameness live side by side.
`same` is the one by which values are told apart and counted: a whole number is
never a floating point number, and a NaN is the same as itself.  `order?` is the
one by which rows are sorted and restricted: it has no answer between values of
different kinds, except that a whole number stands for the nearest floating point
number, and it places NULL after everything.
-/

set_option autoImplicit false

namespace EntityStore

/-- What a value is, apart from which. -/
inductive ValueKind where
  | null
  | integer
  | float
  | text
  | boolean
  deriving DecidableEq, Repr

/-- The name of a kind in messages. -/
def ValueKind.label : ValueKind → String
  | .null => "NULL"
  | .integer => "INTEGER"
  | .float => "FLOAT"
  | .text => "TEXT"
  | .boolean => "BOOLEAN"

/-- A value of one column of one row. -/
inductive Value where
  | null
  | integer (number : Int64)
  | float (number : Binary64)
  | text (content : String)
  | boolean (truth : Bool)
  deriving DecidableEq, Repr, Inhabited

/-- The values of a row, in column order. -/
abbrev Row := List Value

namespace Value

/-! ## Accessors -/

/-- The kind of a value. -/
def kind : Value → ValueKind
  | .null => .null
  | .integer _ => .integer
  | .float _ => .float
  | .text _ => .text
  | .boolean _ => .boolean

/-- Whether a value is missing. -/
def isNull : Value → Bool
  | .null => true
  | _ => false

theorem isNull_iff {value : Value} : value.isNull = true ↔ value = .null := by
  cases value <;> simp [isNull]

theorem isNull_eq_false {value : Value} (present : value ≠ .null) : value.isNull = false :=
  Bool.eq_false_iff.mpr fun missing => present (isNull_iff.mp missing)

/-- Whether a value is a number of either kind. -/
def isNumeric : Value → Bool
  | .integer _ | .float _ => true
  | _ => false

/-- The whole number of an integer value. -/
def integer? : Value → Option Int64
  | .integer number => some number
  | _ => none

/-- The floating point number of a numeric value, rounded from a whole number. -/
def float? : Value → Option Binary64
  | .float number => some number
  | .integer number => some (Binary64.ofInt number.toInt)
  | _ => none

/-- The content of a text value. -/
def text? : Value → Option String
  | .text content => some content
  | _ => none

/-- The truth of a boolean value. -/
def boolean? : Value → Option Bool
  | .boolean truth => some truth
  | _ => none

/-- The length of a text in characters. -/
def charLength? (value : Value) : Option Nat :=
  value.text?.map String.length

/-- The text form of a value. -/
def shown : Value → String
  | .null => "NULL"
  | .integer number => toString number.toInt
  | .float number => number.text
  | .text content => content
  | .boolean truth => if truth then "true" else "false"

/-- A missing text is NULL. -/
def ofText? : Option String → Value
  | none => .null
  | some content => .text content

/-! ## Order and sameness -/

/-- The order of two values, or `none` when their kinds cannot be compared. -/
def order? : Value → Value → Option Ordering
  | .null, .null => some .eq
  | .null, _ => some .gt
  | _, .null => some .lt
  | .integer left, .integer right => some (compare left.toInt right.toInt)
  | .float left, .float right => some (left.compare right)
  | .integer left, .float right => some ((Binary64.ofInt left.toInt).compare right)
  | .float left, .integer right => some (left.compare (Binary64.ofInt right.toInt))
  | .text left, .text right => some (compare left right)
  | .boolean left, .boolean right => some (compare left right)
  | _, _ => none

/-- Whether two values are one and the same. -/
def same : Value → Value → Bool
  | .null, .null => true
  | .integer left, .integer right => left == right
  | .float left, .float right => left == right || left.numericallyEqual right
  | .text left, .text right => left == right
  | .boolean left, .boolean right => left == right
  | _, _ => false

end Value

/-! ## Data types -/

/-- The type a column declares. -/
inductive DataType where
  | integer
  | float
  | text
  | boolean
  deriving DecidableEq, Repr

namespace DataType

/-- The name of a type in messages. -/
def label : DataType → String
  | .integer => "INTEGER"
  | .float => "FLOAT"
  | .text => "TEXT"
  | .boolean => "BOOLEAN"

/-- Whether a column of this type may hold the value.  NULL fits every type, and a whole number
fits a floating point column. -/
def admits : DataType → Value → Bool
  | _, .null => true
  | .integer, .integer _ => true
  | .float, .float _ => true
  | .float, .integer _ => true
  | .text, .text _ => true
  | .boolean, .boolean _ => true
  | _, _ => false

end DataType

end EntityStore
