/-!
# Binary floating point, by its bits

A FLOAT value of the store is the sixty-four bits of an IEEE 754 double.  The
module fixes what those bits mean without any appeal to the host's floating
point: every finite number is a whole multiple of `2 ^ -1074`, so its value is
the integer `scaled`, and every operation is integer arithmetic followed by one
rounding, `ofRatio`, to the nearest number with ties to the even neighbour.

Order is read off the bits as well.  `orderKey` sends both zeros to `0`, every
other number to its magnitude with its sign, and every NaN to one key above
infinity, so that `compare` is the order of the integers: a total preorder in
which a NaN equals every NaN and lies above every number.
-/

set_option autoImplicit false

namespace EntityStore

/-- A double, given by its sixty-four bits. -/
structure Binary64 where
  bits : UInt64
  deriving DecidableEq, Repr, Inhabited

namespace Binary64

/-! ## Fields -/

/-- The weight of the sign bit, `2 ^ 63`. -/
def signWeight : Nat := 0x8000000000000000

/-- The weight of the lowest exponent bit, `2 ^ 52`.  The significand of a normal number begins
with a bit of the same weight, which is not stored. -/
def exponentWeight : Nat := 0x10000000000000

/-- The bits without the sign bit. -/
def magnitude (number : Binary64) : Nat := number.bits.toNat % signWeight

/-- The sign bit. -/
def isNegative (number : Binary64) : Bool := decide (signWeight ≤ number.bits.toNat)

/-- The magnitude bits of infinity, above those of every finite number. -/
def infinityMagnitude : Nat := 0x7FF0000000000000

/-- A NaN has the exponent of infinity and a fraction. -/
def isNaN (number : Binary64) : Bool := decide (infinityMagnitude < number.magnitude)

/-- Infinity of either sign. -/
def isInfinite (number : Binary64) : Bool := decide (number.magnitude = infinityMagnitude)

/-- Zero of either sign. -/
def isZero (number : Binary64) : Bool := decide (number.magnitude = 0)

/-- The number with a given sign and given magnitude bits. -/
def ofFields (negative : Bool) (magnitudeBits : Nat) : Binary64 :=
  ⟨UInt64.ofNat (if negative then signWeight + magnitudeBits else magnitudeBits)⟩

/-- Positive zero. -/
def zero : Binary64 := ⟨0⟩

/-- The NaN that every invalid operation answers. -/
def nan : Binary64 := ⟨0x7FF8000000000000⟩

/-- The exponent of the last place of the significand, counted from `2 ^ -1074`. -/
def shift (number : Binary64) : Nat := number.magnitude / exponentWeight - 1

/-- The significand as a whole number of last places. -/
def significand (number : Binary64) : Nat :=
  if number.magnitude < exponentWeight then number.magnitude
  else exponentWeight + number.magnitude % exponentWeight

/-- The value of a finite number in units of `2 ^ -1074`. -/
def scaled (number : Binary64) : Int :=
  let size : Nat := number.significand * Nat.pow 2 number.shift
  if number.isNegative then -(size : Int) else size

/-! ## Order -/

/-- The place of a number in the order: NaN above infinity, both zeros alike. -/
def orderKey (number : Binary64) : Int :=
  if number.isNaN then signWeight
  else if number.isNegative then -(number.magnitude : Int)
  else number.magnitude

/-- The order of numbers, extended to NaN. -/
def compare (left right : Binary64) : Ordering :=
  Ord.compare left.orderKey right.orderKey

/-- Numerical equality, in which a NaN equals nothing and the two zeros are equal. -/
def numericallyEqual (left right : Binary64) : Bool :=
  !left.isNaN && !right.isNaN && left.orderKey == right.orderKey

/-! ## Rounding -/

/-- The quotient of two whole numbers, rounded to the nearest, ties to even. -/
def roundEven (numerator denominator : Nat) : Nat :=
  let quotient := numerator / denominator
  let twice := 2 * (numerator % denominator)
  if twice < denominator then quotient
  else if denominator < twice then quotient + 1
  else quotient + quotient % 2

/-- The magnitude bits of the number nearest to a quotient, which is given in units of
`2 ^ -1074`.  A carry out of the significand lands in the exponent, as it should. -/
def roundMagnitude (numerator denominator : Nat) : Nat :=
  let shift := Nat.log2 (numerator / denominator) - 52
  min (shift * exponentWeight + roundEven numerator (denominator * Nat.pow 2 shift))
    infinityMagnitude

/-- The number nearest to a signed quotient in units of `2 ^ -1074`. -/
def ofRatio (negative : Bool) (numerator denominator : Nat) : Binary64 :=
  ofFields negative (roundMagnitude numerator denominator)

/-- The number nearest to a whole number. -/
def ofInt (number : Int) : Binary64 :=
  ofRatio (decide (number < 0)) (number.natAbs * Nat.pow 2 1074) 1

/-! ## Arithmetic -/

/-- The sum, rounded once. -/
def add (left right : Binary64) : Binary64 :=
  if left.isNaN || right.isNaN then nan
  else if left.isInfinite then
    if right.isInfinite && left.isNegative != right.isNegative then nan else left
  else if right.isInfinite then right
  else
    let sum := left.scaled + right.scaled
    if sum = 0 then ofFields (left.isNegative && right.isNegative) 0
    else ofRatio (decide (sum < 0)) sum.natAbs 1

/-- The quotient, rounded once. -/
def div (left right : Binary64) : Binary64 :=
  let negative := left.isNegative != right.isNegative
  if left.isNaN || right.isNaN then nan
  else if left.isInfinite then
    if right.isInfinite then nan else ofFields negative infinityMagnitude
  else if right.isInfinite then ofFields negative 0
  else if right.isZero then
    if left.isZero then nan else ofFields negative infinityMagnitude
  else ofRatio negative (left.scaled.natAbs * Nat.pow 2 1074) right.scaled.natAbs

instance : Add Binary64 := ⟨add⟩

instance : Div Binary64 := ⟨div⟩

end Binary64

end EntityStore
