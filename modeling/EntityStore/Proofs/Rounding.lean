import EntityStore.Binary64
import Mathlib.Algebra.Ring.Nat
import Mathlib.Order.MinMax
import Mathlib.Tactic.SplitIfs

/-!
# Rounding keeps order

The bits of a rounded quotient are counted in steps of `2 ^ 52`, one for each power of
two.  A quotient is rounded within its own step, at most up to the start of the next one,
so a greater quotient never gets the smaller bits (`Binary64.roundMagnitude_mono`).  Hence
whole numbers keep their order when they become floating point numbers, though two of them
may become one (`Binary64.orderKey_ofInt_mono`).

Up to `2 ^ 53` no whole number is rounded at all: it is a multiple of the last place of its
step.  There two of them never become one (`Binary64.orderKey_ofInt_lt`).
-/

set_option autoImplicit false

namespace EntityStore

namespace Binary64

/-! ## Rounding to a whole number -/

section RoundEven

variable {numerator other denominator : Nat}

theorem div_le_roundEven (numerator denominator : Nat) :
    numerator / denominator ≤ roundEven numerator denominator := by
  rw [roundEven]
  split
  · exact Nat.le_refl _
  · split <;> omega

theorem roundEven_le_succ (numerator denominator : Nat) :
    roundEven numerator denominator ≤ numerator / denominator + 1 := by
  rw [roundEven]
  split
  · omega
  · split <;> omega

theorem roundEven_mono (le : numerator ≤ other) (denominator : Nat) :
    roundEven numerator denominator ≤ roundEven other denominator := by
  rcases Nat.lt_or_eq_of_le (Nat.div_le_div_right (c := denominator) le) with less | same
  · have above := roundEven_le_succ numerator denominator
    have below := div_le_roundEven other denominator
    omega
  · -- The quotients agree, so the remainders are in order.
    have remainders : numerator % denominator ≤ other % denominator := by
      have first := Nat.div_add_mod numerator denominator
      have second := Nat.div_add_mod other denominator
      rw [same] at first
      omega
    rw [roundEven, roundEven, same]
    split_ifs <;> omega

theorem roundEven_of_dvd (positive : 0 < denominator) (whole : denominator ∣ numerator) :
    roundEven numerator denominator = numerator / denominator := by
  rw [roundEven, Nat.mod_eq_zero_of_dvd whole, Nat.mul_zero, if_pos positive]

end RoundEven

/-! ## Rounding a quotient -/

section RoundMagnitude

variable {numerator other denominator : Nat}

/-- The last place of a quotient, as a power of two. -/
def placeOf (numerator denominator : Nat) : Nat := Nat.log2 (numerator / denominator) - 52

/-- The bits of a rounded quotient, before those beyond infinity are cut off. -/
def unboundedMagnitude (numerator denominator : Nat) : Nat :=
  placeOf numerator denominator * exponentWeight +
    roundEven numerator (denominator * 2 ^ placeOf numerator denominator)

theorem roundMagnitude_eq (numerator denominator : Nat) :
    roundMagnitude numerator denominator =
      min (unboundedMagnitude numerator denominator) infinityMagnitude := rfl

theorem log2_mono {number greater : Nat} (le : number ≤ greater) :
    Nat.log2 number ≤ Nat.log2 greater := by
  rcases Nat.eq_zero_or_pos number with rfl | positive
  · exact Nat.zero_le _
  · have self := Nat.log2_self_le (Nat.ne_of_gt positive)
    exact (Nat.le_log2 (by omega)).mpr (Nat.le_trans self le)

theorem placeOf_mono (le : numerator ≤ other) (denominator : Nat) :
    placeOf numerator denominator ≤ placeOf other denominator :=
  Nat.sub_le_sub_right (log2_mono (Nat.div_le_div_right le)) 52

/-- In its last place a quotient is below `2 ^ 53`. -/
theorem div_place_lt (numerator denominator : Nat) :
    numerator / (denominator * 2 ^ placeOf numerator denominator) < 2 * exponentWeight := by
  rw [← Nat.div_div_eq_div_mul, Nat.div_lt_iff_lt_mul (Nat.two_pow_pos _)]
  have above : numerator / denominator < 2 ^ ((numerator / denominator).log2 + 1) :=
    Nat.lt_log2_self
  refine Nat.lt_of_lt_of_le above ?_
  rw [show 2 * exponentWeight = 2 ^ 53 from rfl, ← Nat.pow_add]
  refine Nat.pow_le_pow_right Nat.two_pos ?_
  rw [placeOf]
  omega

/-- In a last place other than the first a quotient has all of its 53 digits. -/
theorem le_div_place (later : placeOf numerator denominator ≠ 0) :
    exponentWeight ≤ numerator / (denominator * 2 ^ placeOf numerator denominator) := by
  have large : 52 < (numerator / denominator).log2 := by
    rw [placeOf] at later
    omega
  have some : numerator / denominator ≠ 0 := by
    rintro none
    rw [none] at large
    exact absurd large (by decide)
  rw [← Nat.div_div_eq_div_mul, Nat.le_div_iff_mul_le (Nat.two_pow_pos _),
    show exponentWeight = 2 ^ 52 from rfl, ← Nat.pow_add, placeOf,
    Nat.add_sub_of_le (Nat.le_of_lt large)]
  exact Nat.log2_self_le some

theorem roundMagnitude_le_infinity (numerator denominator : Nat) :
    roundMagnitude numerator denominator ≤ infinityMagnitude := Nat.min_le_right ..

theorem unboundedMagnitude_le (numerator denominator : Nat) :
    unboundedMagnitude numerator denominator ≤
      (placeOf numerator denominator + 2) * exponentWeight := by
  have above := roundEven_le_succ numerator
    (denominator * 2 ^ placeOf numerator denominator)
  have below := div_place_lt numerator denominator
  rw [unboundedMagnitude, Nat.add_mul]
  omega

theorem le_unboundedMagnitude (later : placeOf numerator denominator ≠ 0) :
    (placeOf numerator denominator + 1) * exponentWeight ≤
      unboundedMagnitude numerator denominator := by
  have full := le_div_place later
  have above := div_le_roundEven numerator (denominator * 2 ^ placeOf numerator denominator)
  rw [unboundedMagnitude, Nat.add_mul]
  omega

theorem unboundedMagnitude_mono (le : numerator ≤ other) (denominator : Nat) :
    unboundedMagnitude numerator denominator ≤ unboundedMagnitude other denominator := by
  rcases Nat.lt_or_eq_of_le (placeOf_mono le denominator) with less | same
  · calc unboundedMagnitude numerator denominator
        ≤ (placeOf numerator denominator + 2) * exponentWeight := unboundedMagnitude_le ..
      _ ≤ (placeOf other denominator + 1) * exponentWeight :=
          Nat.mul_le_mul_right _ (Nat.succ_le_succ less)
      _ ≤ unboundedMagnitude other denominator :=
          le_unboundedMagnitude (Nat.ne_zero_of_lt less)
  · rw [unboundedMagnitude, unboundedMagnitude, same]
    exact Nat.add_le_add_left (roundEven_mono le _) _

/-- **Rounding keeps order.** -/
theorem roundMagnitude_mono (le : numerator ≤ other) (denominator : Nat) :
    roundMagnitude numerator denominator ≤ roundMagnitude other denominator := by
  rw [roundMagnitude_eq, roundMagnitude_eq]
  exact min_le_min_right _ (unboundedMagnitude_mono le denominator)

/-- Quotients that are whole numbers of last places are not rounded, so they stay apart. -/
theorem unboundedMagnitude_lt (positive : 0 < denominator) (less : numerator < other)
    (whole : denominator * 2 ^ placeOf numerator denominator ∣ numerator)
    (otherWhole : denominator * 2 ^ placeOf other denominator ∣ other) :
    unboundedMagnitude numerator denominator < unboundedMagnitude other denominator := by
  have step (place : Nat) : 0 < denominator * 2 ^ place :=
    Nat.mul_pos positive (Nat.two_pow_pos place)
  rcases Nat.lt_or_eq_of_le (placeOf_mono (Nat.le_of_lt less) denominator) with lower | same
  · calc unboundedMagnitude numerator denominator
        = placeOf numerator denominator * exponentWeight +
            numerator / (denominator * 2 ^ placeOf numerator denominator) := by
          rw [unboundedMagnitude, roundEven_of_dvd (step _) whole]
      _ < placeOf numerator denominator * exponentWeight + 2 * exponentWeight :=
          Nat.add_lt_add_left (div_place_lt ..) _
      _ = (placeOf numerator denominator + 2) * exponentWeight := (Nat.add_mul ..).symm
      _ ≤ (placeOf other denominator + 1) * exponentWeight :=
          Nat.mul_le_mul_right _ (Nat.succ_le_succ lower)
      _ ≤ unboundedMagnitude other denominator :=
          le_unboundedMagnitude (Nat.ne_zero_of_lt lower)
  · rw [unboundedMagnitude, unboundedMagnitude, roundEven_of_dvd (step _) whole,
      roundEven_of_dvd (step _) otherWhole, same]
    exact Nat.add_lt_add_left (Nat.div_lt_div_of_lt_of_dvd otherWhole less) _

end RoundMagnitude

/-! ## Whole numbers that need no rounding -/

section Exact

variable {number : Nat}

theorem le_placeOf_iff {units place : Nat} (positive : 0 < place) :
    place ≤ placeOf (number * 2 ^ units) 1 ↔ 2 ^ (place + 52) ≤ number * 2 ^ units := by
  rw [placeOf, Nat.div_one]
  rcases Nat.eq_zero_or_pos (number * 2 ^ units) with none | some
  · rw [none, Nat.log2_zero]
    have := Nat.two_pow_pos (place + 52)
    omega
  · rw [← Nat.le_log2 (Nat.ne_of_gt some)]
    omega

theorem placeOf_le (units : Nat) (le : number ≤ 2 * exponentWeight) :
    placeOf (number * 2 ^ units) 1 ≤ units + 1 := by
  by_contra more
  have large := (le_placeOf_iff (Nat.succ_pos (units + 1))).mp (Nat.lt_of_not_le more)
  have small : number * 2 ^ units ≤ 2 ^ 53 * 2 ^ units := Nat.mul_le_mul_right _ le
  have double : 2 ^ ((units + 1).succ + 52) = 2 * (2 ^ 53 * 2 ^ units) := by
    rw [← Nat.pow_add, ← Nat.pow_succ']
    congr 1
    omega
  rw [double] at large
  have := Nat.mul_pos (Nat.two_pow_pos 53) (Nat.two_pow_pos units)
  omega

/-- A whole number up to `2 ^ 53` is a whole number of last places. -/
theorem place_dvd (units : Nat) (le : number ≤ 2 * exponentWeight) :
    1 * 2 ^ placeOf (number * 2 ^ units) 1 ∣ number * 2 ^ units := by
  rw [Nat.one_mul]
  rcases Nat.lt_or_eq_of_le (placeOf_le units le) with within | beyond
  · exact Nat.dvd_mul_left_of_dvd (Nat.pow_dvd_pow 2 (Nat.le_of_lt_succ within)) number
  · -- Only `2 ^ 53` itself has a later last place, and it is even.
    have large := (le_placeOf_iff (Nat.succ_pos units)).mp (Nat.le_of_eq beyond.symm)
    have full : number = 2 ^ 53 := by
      refine Nat.le_antisymm le (Nat.le_of_mul_le_mul_right ?_ (Nat.two_pow_pos units))
      rw [← Nat.pow_add]
      convert large using 2
      omega
    rw [beyond, full, ← Nat.pow_add]
    exact Nat.pow_dvd_pow 2 (by omega)

theorem roundMagnitude_lt {greater units : Nat} (few : units ≤ 2044) (less : number < greater)
    (le : greater ≤ 2 * exponentWeight) :
    roundMagnitude (number * Nat.pow 2 units) 1 < roundMagnitude (greater * Nat.pow 2 units) 1 := by
  rw [Nat.pow_eq]
  have lower : number ≤ 2 * exponentWeight := Nat.le_trans (Nat.le_of_lt less) le
  have apart : unboundedMagnitude (number * 2 ^ units) 1 <
      unboundedMagnitude (greater * 2 ^ units) 1 :=
    unboundedMagnitude_lt Nat.one_pos (Nat.mul_lt_mul_of_pos_right less (Nat.two_pow_pos units))
      (place_dvd units lower) (place_dvd units le)
  have bounded : unboundedMagnitude (greater * 2 ^ units) 1 ≤ infinityMagnitude := by
    have place := placeOf_le units le
    calc unboundedMagnitude (greater * 2 ^ units) 1
        ≤ (placeOf (greater * 2 ^ units) 1 + 2) * exponentWeight := unboundedMagnitude_le ..
      _ ≤ 2047 * exponentWeight := Nat.mul_le_mul_right _ (by omega)
      _ = infinityMagnitude := rfl
  rw [roundMagnitude_eq, roundMagnitude_eq, min_eq_left bounded,
    min_eq_left (Nat.le_trans (Nat.le_of_lt apart) bounded)]
  exact apart

end Exact

/-! ## The order of what was rounded -/

/-- Floating point numbers are in the order of their keys, so their order is transitive. -/
instance : Std.TransCmp Binary64.compare :=
  inferInstanceAs (Std.TransCmp (compareOn orderKey))

theorem compare_isLE_iff {left right : Binary64} :
    (left.compare right).isLE = true ↔ left.orderKey ≤ right.orderKey :=
  Int.isLE_compare

theorem compare_eq_iff {left right : Binary64} :
    left.compare right = .eq ↔ left.orderKey = right.orderKey :=
  Std.LawfulEqOrd.compare_eq_iff_eq

theorem orderKey_ofFields {magnitudeBits : Nat} (le : magnitudeBits ≤ infinityMagnitude)
    (negative : Bool) :
    (ofFields negative magnitudeBits).orderKey =
      if negative then -(magnitudeBits : Int) else magnitudeBits := by
  have small : magnitudeBits < signWeight := Nat.lt_of_le_of_lt le (by decide)
  have notNaN : ¬ infinityMagnitude < magnitudeBits := Nat.not_lt_of_le le
  have bits : (ofFields negative magnitudeBits).bits.toNat =
      if negative then signWeight + magnitudeBits else magnitudeBits := by
    refine UInt64.toNat_ofNat_of_lt' ?_
    have : signWeight + signWeight = UInt64.size := rfl
    split <;> omega
  rw [orderKey, isNaN, isNegative, magnitude, bits]
  cases negative with
  | false =>
      simp only [Bool.false_eq_true, if_false, Nat.mod_eq_of_lt small, notNaN,
        Nat.not_le_of_lt small, decide_false]
  | true =>
      simp only [if_true, Nat.add_mod_left, Nat.mod_eq_of_lt small, notNaN, decide_false,
        Bool.false_eq_true, if_false, Nat.le_add_right, decide_true]

theorem orderKey_ofInt (number : Int) :
    (ofInt number).orderKey =
      if number < 0 then -(roundMagnitude (number.natAbs * Nat.pow 2 1074) 1 : Int)
      else roundMagnitude (number.natAbs * Nat.pow 2 1074) 1 := by
  rw [ofInt, ofRatio, orderKey_ofFields (roundMagnitude_le_infinity ..)]
  simp only [decide_eq_true_eq]

/-- **Whole numbers keep their order** when they become floating point numbers. -/
theorem orderKey_ofInt_mono {number greater : Int} (le : number ≤ greater) :
    (ofInt number).orderKey ≤ (ofInt greater).orderKey := by
  have sizes {small large : Nat} (le : small ≤ large) :
      roundMagnitude (small * Nat.pow 2 1074) 1 ≤ roundMagnitude (large * Nat.pow 2 1074) 1 :=
    roundMagnitude_mono (Nat.mul_le_mul_right _ le) 1
  rw [orderKey_ofInt, orderKey_ofInt]
  split
  · split
    · exact Int.neg_le_neg (Int.ofNat_le.mpr (sizes (by omega)))
    · omega
  · rw [if_neg (by omega)]
    exact Int.ofNat_le.mpr (sizes (by omega))

/-- **Up to `2 ^ 53` whole numbers stay apart** when they become floating point numbers. -/
theorem orderKey_ofInt_lt {number greater : Int} (less : number < greater)
    (small : number.natAbs ≤ 2 * exponentWeight)
    (greaterSmall : greater.natAbs ≤ 2 * exponentWeight) :
    (ofInt number).orderKey < (ofInt greater).orderKey := by
  have sizes {low high : Nat} (less : low < high) (le : high ≤ 2 * exponentWeight) :
      roundMagnitude (low * Nat.pow 2 1074) 1 < roundMagnitude (high * Nat.pow 2 1074) 1 := by
    apply roundMagnitude_lt _ less le
    decide
  rw [orderKey_ofInt, orderKey_ofInt]
  split
  · split
    · exact Int.neg_lt_neg (Int.ofNat_lt.mpr (sizes (by omega) small))
    · have := @sizes 0 _ (by omega) small
      omega
  · rw [if_neg (by omega)]
    exact Int.ofNat_lt.mpr (sizes (by omega) greaterSmall)

end Binary64

end EntityStore
