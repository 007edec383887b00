/-!
# Positional notation

The digits of a number in a base, a fixed count of them with the most significant
first, and the number that digits denote.
-/

set_option autoImplicit false

namespace EntityStore.Text

/-- The lowest `width` digits of a number in a base, most significant first. -/
def digitsOf (base : Nat) : Nat → Nat → List Nat
  | 0, _ => []
  | width + 1, number => number / Nat.pow base width % base :: digitsOf base width number

/-- The number whose digits in a base are given, most significant first. -/
def valueOf (base : Nat) (digits : List Nat) : Nat :=
  digits.foldl (fun total digit => base * total + digit) 0

end EntityStore.Text
