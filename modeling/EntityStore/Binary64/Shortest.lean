import EntityStore.Binary64

/-!
# The shortest decimal text of a double

A finite number is written with the fewest decimal digits that read back as the
same number; of several such decimals of one length the nearest is taken, and an
exact tie goes up.  The decimals that read back are those of the interval between
the midpoints to the two neighbouring numbers, with its ends included exactly when
the significand is even.

The digits are always written positionally: no exponent, no point after a whole
number, and a sign also before a negative zero.
-/

set_option autoImplicit false

namespace EntityStore

namespace Binary64

/-- How many decimal digits a whole number has, none for zero. -/
def decimalLength (number : Nat) : Nat :=
  if number = 0 then 0 else (Nat.toDigits 10 number).length

/-- The interval of reals that round to a positive finite number, and the number itself, as
numerators over one common denominator. -/
structure Neighbourhood where
  low : Nat
  value : Nat
  high : Nat
  denominator : Nat
  closed : Bool

/-- The reals that round to a finite non-zero number, sign aside.  Below a power of two the
lower neighbour is half as far away. -/
def neighbourhood (number : Binary64) : Neighbourhood :=
  let significand := number.significand
  let unit := Nat.pow 2 number.shift
  let below := if significand = exponentWeight ∧ 0 < number.shift then 1 else 2
  { low := (4 * significand - below) * unit
    value := 4 * significand * unit
    high := (4 * significand + 2) * unit
    denominator := 4 * Nat.pow 2 1074
    closed := significand % 2 == 0 }

/-- Whether `numerator / denominator` lies in the interval. -/
def Neighbourhood.contains (interval : Neighbourhood) (numerator denominator : Nat) : Bool :=
  let scaled := numerator * interval.denominator
  if interval.closed then
    interval.low * denominator ≤ scaled && scaled ≤ interval.high * denominator
  else
    interval.low * denominator < scaled && scaled < interval.high * denominator

/-- The decimal exponent `e` with `10 ^ (e - 1) ≤ value < 10 ^ e`. -/
def Neighbourhood.decimalExponent (interval : Neighbourhood) : Int :=
  let whole := interval.value / interval.denominator
  if whole = 0 then
    let reciprocal := (interval.denominator + interval.value - 1) / interval.value
    1 - (decimalLength (reciprocal - 1) : Int)
  else decimalLength whole

/-- A decimal `coefficient * 10 ^ exponent`. -/
structure Decimal where
  coefficient : Nat
  exponent : Int
  deriving DecidableEq, Repr

/-- The decimal of at most `digits` digits nearest to the value among those in the interval. -/
def Neighbourhood.decimal? (interval : Neighbourhood) (digits : Nat) : Option Decimal :=
  let exponent := interval.decimalExponent - digits
  let up := Nat.pow 10 exponent.toNat
  let down := Nat.pow 10 (-exponent).toNat
  let numerator := interval.value * down
  let denominator := interval.denominator * up
  let floor := numerator / denominator
  let floorIn := interval.contains (floor * up) down
  let ceilingIn := interval.contains ((floor + 1) * up) down
  let ceilingNearer := decide (denominator ≤ 2 * (numerator % denominator))
  if ceilingIn && (ceilingNearer || !floorIn) then some ⟨floor + 1, exponent⟩
  else if floorIn then some ⟨floor, exponent⟩
  else none

/-- The shortest decimal in the interval.  Seventeen digits always suffice. -/
def Neighbourhood.shortest (interval : Neighbourhood) : Decimal :=
  ((List.range 17).findSome? fun digits => interval.decimal? (digits + 1)).getD ⟨0, 0⟩

/-- A decimal written out positionally, without zeros at the end of its fraction. -/
def Decimal.positional (decimal : Decimal) : String :=
  let digits := (toString decimal.coefficient).toList
  if 0 ≤ decimal.exponent then
    String.ofList (digits ++ List.replicate decimal.exponent.toNat '0')
  else
    let places := (-decimal.exponent).toNat
    let padded := List.replicate (places + 1 - digits.length) '0' ++ digits
    let whole := padded.take (padded.length - places)
    let fraction := ((padded.drop (padded.length - places)).reverse.dropWhile (· == '0')).reverse
    String.ofList (if fraction.isEmpty then whole else whole ++ '.' :: fraction)

/-- The text of a number. -/
def text (number : Binary64) : String :=
  if number.isNaN then "NaN"
  else
    let sign := if number.isNegative then "-" else ""
    if number.isInfinite then sign ++ "inf"
    else if number.isZero then sign ++ "0"
    else sign ++ number.neighbourhood.shortest.positional

end Binary64

end EntityStore
