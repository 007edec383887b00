import Mathlib.Data.String.Basic
import EntityStore.Proofs.Rounding
import EntityStore.Query.Restriction

/-!
# The order of values

Values that can be compared are NULL, which comes after everything, and values of one
class: texts, truth values, or numbers of either kind.  Comparing is reflexive, and two
values compared the other way round give the opposite answer or the same refusal
(`Value.order?_swap`).

Numbers are compared in two ways.  Two whole numbers are compared as they are; if one of
the numbers is a floating point number the other is rounded first.  Rounding keeps order,
so the two ways agree but for one thing: two whole numbers of which the greater one is
rounded to the same floating point number as the smaller one.  That number is equal to
both, and they are not equal to each other (`Value.Blurs`).  Apart from this the order is
transitive (`Value.AtMost.trans_iff`), and so it is without restriction among whole numbers
up to `2 ^ 53` and floating point numbers.
-/

set_option autoImplicit false

namespace EntityStore

namespace Value

variable {first second third left right : Value} {order : Ordering}

/-! ## Comparing in both directions -/

theorem compare_eq_ok_iff : left.compare right = .ok order ↔ left.order? right = some order := by
  rw [Value.compare]
  cases left.order? right <;> simp

theorem order?_self (value : Value) : value.order? value = some .eq := by
  cases value <;> simp [order?, Binary64.compare]

theorem order?_swap (left right : Value) :
    left.order? right = (right.order? left).map Ordering.swap := by
  cases left with
  | null => cases right <;> rfl
  | integer number =>
      cases right with
      | integer other => exact congrArg some Std.OrientedCmp.eq_swap
      | float other => exact congrArg some Std.OrientedCmp.eq_swap
      | null | text | boolean => rfl
  | float number =>
      cases right with
      | integer other => exact congrArg some Std.OrientedCmp.eq_swap
      | float other => exact congrArg some Std.OrientedCmp.eq_swap
      | null | text | boolean => rfl
  | text content =>
      cases right with
      | text other => exact congrArg some Std.OrientedCmp.eq_swap
      | null | integer | float | boolean => rfl
  | boolean truth =>
      cases right with
      | boolean other => exact congrArg some Std.OrientedCmp.eq_swap
      | null | integer | float | text => rfl

theorem order?_eq_some_iff_swap :
    left.order? right = some order ↔ right.order? left = some order.swap := by
  rw [order?_swap left right]
  cases right.order? left <;> simp [Ordering.swap_eq_iff_eq_swap]

/-! ## Values in order -/

/-- Whether a value can be compared with another one and does not come after it. -/
def AtMost (left right : Value) : Prop :=
  ∃ order, left.compare right = .ok order ∧ order.isLE = true

/-- Whether a floating point number is equal to two whole numbers though one of them is greater:
both are rounded to it. -/
def Blurs (upper number lower : Value) : Prop :=
  ∃ (high low : Int64) (middle : Binary64), upper = .integer high ∧ number = .float middle ∧
    lower = .integer low ∧ low.toInt < high.toInt ∧
    (Binary64.ofInt high.toInt).compare middle = .eq ∧
    (Binary64.ofInt low.toInt).compare middle = .eq

theorem atMost_iff :
    left.AtMost right ↔ (left.order? right).any Ordering.isLE = true := by
  rw [Option.any_eq_true]
  simp only [AtMost, compare_eq_ok_iff]

theorem atMost_null (value : Value) : value.AtMost .null := by
  rw [atMost_iff]
  cases value <;> rfl

theorem AtMost.eq_null (atMost : null.AtMost right) : right = .null := by
  rw [atMost_iff] at atMost
  cases right with
  | null => rfl
  | integer | float | text | boolean => cases atMost

/-! ## Numbers of either kind -/

/-- The place of a number of either kind among floating point numbers. -/
def numericKey? (value : Value) : Option Int := value.float?.map Binary64.orderKey

section Numbers

variable {key other : Int}

theorem AtMost.numeric_left (atMost : left.AtMost right) (numeric : right.numericKey? = some key) :
    ∃ other, left.numericKey? = some other := by
  rw [atMost_iff] at atMost
  cases right with
  | null | text | boolean => cases numeric
  | integer | float =>
      cases left with
      | integer | float => exact ⟨_, rfl⟩
      | null | text | boolean => cases atMost

theorem AtMost.numeric_right (atMost : left.AtMost right) (numeric : left.numericKey? = some key) :
    right = .null ∨ ∃ other, right.numericKey? = some other := by
  rw [atMost_iff] at atMost
  cases left with
  | null | text | boolean => cases numeric
  | integer | float =>
      cases right with
      | null => exact .inl rfl
      | integer | float => exact .inr ⟨_, rfl⟩
      | text | boolean => cases atMost

/-- Whichever way two numbers are compared, they are in the order of their places. -/
theorem AtMost.key_le (atMost : left.AtMost right) (numeric : left.numericKey? = some key)
    (otherNumeric : right.numericKey? = some other) : key ≤ other := by
  rw [atMost_iff] at atMost
  cases left with
  | null | text | boolean => cases numeric
  | integer number =>
      cases numeric
      cases right with
      | null | text | boolean => cases otherNumeric
      | integer greater =>
          cases otherNumeric
          exact Binary64.orderKey_ofInt_mono (Int.isLE_compare.mp atMost)
      | float greater =>
          cases otherNumeric
          exact Binary64.compare_isLE_iff.mp atMost
  | float number =>
      cases numeric
      cases right with
      | null | text | boolean => cases otherNumeric
      | integer greater | float greater =>
          cases otherNumeric
          exact Binary64.compare_isLE_iff.mp atMost

/-- Numbers that are not both whole are compared by their places. -/
theorem atMost_of_key_le (le : key ≤ other) (numeric : left.numericKey? = some key)
    (otherNumeric : right.numericKey? = some other)
    (mixed : left.integer? = none ∨ right.integer? = none) : left.AtMost right := by
  rw [atMost_iff]
  cases left with
  | null | text | boolean => cases numeric
  | integer number =>
      cases numeric
      cases right with
      | null | text | boolean => cases otherNumeric
      | integer greater => rcases mixed with mixed | mixed <;> cases mixed
      | float greater =>
          cases otherNumeric
          exact Binary64.compare_isLE_iff.mpr le
  | float number =>
      cases numeric
      cases right with
      | null | text | boolean => cases otherNumeric
      | integer greater | float greater =>
          cases otherNumeric
          exact Binary64.compare_isLE_iff.mpr le

theorem atMost_integer_iff {number greater : Int64} :
    (integer number).AtMost (.integer greater) ↔ number.toInt ≤ greater.toInt := by
  rw [atMost_iff]
  exact Int.isLE_compare

/-- Two whole numbers with a number between them are in order, unless it blurs them. -/
theorem atMost_integer_of_between {number greater : Int64} (numeric : second.numericKey? = some key)
    (before : (integer number).AtMost second) (after : second.AtMost (.integer greater))
    (clear : ¬ (integer number).Blurs second (.integer greater)) :
    (integer number).AtMost (.integer greater) := by
  rw [atMost_integer_iff]
  cases second with
  | null | text | boolean => cases numeric
  | integer between =>
      exact Int.le_trans (atMost_integer_iff.mp before) (atMost_integer_iff.mp after)
  | float between =>
      by_contra reversed
      have less : greater.toInt < number.toInt := Int.lt_of_not_ge reversed
      -- The places of the two are in the other order as well, so all three places are one.
      have back := Binary64.orderKey_ofInt_mono (Int.le_of_lt less)
      have up : _ ≤ between.orderKey := before.key_le rfl rfl
      have down : between.orderKey ≤ _ := after.key_le rfl rfl
      refine clear ⟨number, greater, between, rfl, rfl, rfl, less, ?_, ?_⟩
      · exact Binary64.compare_eq_iff.mpr (Int.le_antisymm up (Int.le_trans down back))
      · exact Binary64.compare_eq_iff.mpr (Int.le_antisymm (Int.le_trans back up) down)

theorem eq_of_integer? {number : Int64} (whole : left.integer? = some number) :
    left = .integer number := by
  cases left <;> cases whole
  rfl

theorem AtMost.trans_numeric (numeric : second.numericKey? = some key)
    (before : first.AtMost second) (after : second.AtMost third)
    (clear : ¬ first.Blurs second third) : first.AtMost third := by
  obtain ⟨low, firstNumeric⟩ := before.numeric_left numeric
  rcases after.numeric_right numeric with rfl | ⟨high, thirdNumeric⟩
  · exact atMost_null first
  · have le : low ≤ high :=
      Int.le_trans (before.key_le firstNumeric numeric) (after.key_le numeric thirdNumeric)
    cases whole : first.integer? with
    | none => exact atMost_of_key_le le firstNumeric thirdNumeric (.inl whole)
    | some number =>
        cases alsoWhole : third.integer? with
        | none => exact atMost_of_key_le le firstNumeric thirdNumeric (.inr alsoWhole)
        | some greater =>
            obtain rfl := eq_of_integer? whole
            obtain rfl := eq_of_integer? alsoWhole
            exact atMost_integer_of_between numeric before after clear

end Numbers

/-! ## Transitivity -/

theorem AtMost.trans (before : first.AtMost second) (after : second.AtMost third)
    (clear : ¬ first.Blurs second third) : first.AtMost third := by
  cases second with
  | null =>
      rw [after.eq_null]
      exact atMost_null first
  | integer number => exact AtMost.trans_numeric rfl before after clear
  | float number => exact AtMost.trans_numeric rfl before after clear
  | text content =>
      rw [atMost_iff] at before after ⊢
      cases first with
      | null | integer | float | boolean => cases before
      | text least =>
          cases third with
          | null => rfl
          | integer | float | boolean => cases after
          | text greatest => exact Std.TransCmp.isLE_trans before after
  | boolean truth =>
      rw [atMost_iff] at before after ⊢
      cases first with
      | null | integer | float | text => cases before
      | boolean least =>
          cases third with
          | null => rfl
          | integer | float | text => cases after
          | boolean greatest => exact Std.TransCmp.isLE_trans before after

/-! ## Blurred numbers -/

/-- Whether a value is not a whole number beyond `2 ^ 53`. -/
def IsExact (value : Value) : Prop :=
  ∀ number, value = .integer number → number.toInt.natAbs ≤ 2 ^ 53

theorem Blurs.not_atMost (blurs : first.Blurs second third) : ¬ first.AtMost third := by
  obtain ⟨high, low, middle, rfl, -, rfl, less, -, -⟩ := blurs
  rw [atMost_integer_iff]
  omega

/-- Of two blurred numbers one is beyond `2 ^ 53`. -/
theorem Blurs.not_isExact (blurs : first.Blurs second third) (exact : first.IsExact) :
    ¬ third.IsExact := by
  obtain ⟨high, low, middle, rfl, -, rfl, less, up, down⟩ := blurs
  intro alsoExact
  have apart := Binary64.orderKey_ofInt_lt less (alsoExact low rfl) (exact high rfl)
  have same := (Binary64.compare_eq_iff.mp down).trans (Binary64.compare_eq_iff.mp up).symm
  omega

theorem AtMost.trans_iff (before : first.AtMost second) (after : second.AtMost third) :
    first.AtMost third ↔ ¬ first.Blurs second third :=
  ⟨fun atMost blurs => blurs.not_atMost atMost, before.trans after⟩

/-! ## The order of values -/

theorem compare_eq_ok_swap_iff :
    left.compare right = .ok order ↔ right.compare left = .ok order.swap := by
  rw [compare_eq_ok_iff, compare_eq_ok_iff, order?_eq_some_iff_swap]

theorem compare_eq_eq_iff :
    left.compare right = .ok .eq ↔ left.AtMost right ∧ right.AtMost left := by
  rw [compare_eq_ok_iff, atMost_iff, atMost_iff, order?_swap right left]
  cases left.order? right with
  | none => simp
  | some order => cases order <;> decide

theorem compare_eq_lt_iff :
    left.compare right = .ok .lt ↔ left.AtMost right ∧ ¬ right.AtMost left := by
  rw [compare_eq_ok_iff, atMost_iff, atMost_iff, order?_swap right left]
  cases left.order? right with
  | none => simp
  | some order => cases order <;> decide

theorem Blurs.eq_left (blurs : first.Blurs second third) : second.compare first = .ok .eq := by
  obtain ⟨high, low, middle, rfl, rfl, -, -, up, -⟩ := blurs
  exact compare_eq_ok_swap_iff.mpr (compare_eq_ok_iff.mpr (congrArg some up))

theorem Blurs.eq_right (blurs : first.Blurs second third) : second.compare third = .ok .eq := by
  obtain ⟨high, low, middle, -, rfl, rfl, -, -, down⟩ := blurs
  exact compare_eq_ok_swap_iff.mpr (compare_eq_ok_iff.mpr (congrArg some down))

/-- **The order of values.**  A value is equal to itself, and two values compared the other way
round give the opposite answer or none either.  What comes before or with a value that comes
before or with a third one comes before or with the third one, unless the second value blurs the
two others; so it is for values that are equal, and for a value before one of two equal values.
No value blurs others that are not whole numbers beyond `2 ^ 53`. -/
theorem compare_laws (first second third : Value) :
    first.compare first = .ok .eq ∧
    (∀ order, first.compare second = .ok order ↔ second.compare first = .ok order.swap) ∧
    (first.AtMost second ∧ second.AtMost third →
      (first.AtMost third ↔ ¬ first.Blurs second third)) ∧
    (first.compare second = .ok .eq ∧ second.compare third = .ok .eq →
      (first.compare third = .ok .eq ↔
        ¬ first.Blurs second third ∧ ¬ third.Blurs second first)) ∧
    (first.compare second = .ok .lt ∧ second.compare third = .ok .eq →
      (first.compare third = .ok .lt ↔ ¬ second.Blurs third first)) ∧
    (first.IsExact ∧ third.IsExact → ¬ first.Blurs second third) := by
  refine ⟨compare_eq_ok_iff.mpr (order?_self first), fun _ => compare_eq_ok_swap_iff,
    fun ⟨before, after⟩ => before.trans_iff after, ?equal, ?less,
    fun ⟨exact, alsoExact⟩ blurs => blurs.not_isExact exact alsoExact⟩
  case equal =>
    rintro ⟨before, after⟩
    obtain ⟨before, back⟩ := compare_eq_eq_iff.mp before
    obtain ⟨after, backAfter⟩ := compare_eq_eq_iff.mp after
    rw [compare_eq_eq_iff, before.trans_iff after, backAfter.trans_iff back]
  case less =>
    rintro ⟨less, same⟩
    obtain ⟨before, notBack⟩ := compare_eq_lt_iff.mp less
    obtain ⟨after, back⟩ := compare_eq_eq_iff.mp same
    have reaches : first.AtMost third := before.trans after fun blurs =>
      notBack (compare_eq_eq_iff.mp blurs.eq_left).1
    rw [compare_eq_lt_iff]
    constructor
    · rintro ⟨-, notBefore⟩ blurs
      exact notBefore (compare_eq_eq_iff.mp blurs.eq_right).1
    · intro clear
      exact ⟨reaches, fun atMost => notBack (after.trans atMost clear)⟩

/-- One and a half is between one and two and does not blur them. -/
theorem one_before_two :
    (integer 1).AtMost (.float ⟨0x3FF8000000000000⟩) ∧
      (float ⟨0x3FF8000000000000⟩).AtMost (.integer 2) ∧
      (integer 1).IsExact ∧ (integer 2).IsExact ∧ (integer 1).AtMost (.integer 2) := by
  have before : (integer 1).AtMost (.float ⟨0x3FF8000000000000⟩) :=
    ⟨.lt, by decide +kernel, rfl⟩
  have after : (float ⟨0x3FF8000000000000⟩).AtMost (.integer 2) :=
    ⟨.lt, by decide +kernel, rfl⟩
  have exact : (integer 1).IsExact := by
    rintro number ⟨⟩
    decide
  have alsoExact : (integer 2).IsExact := by
    rintro number ⟨⟩
    decide
  obtain ⟨-, -, trans, -, -, clear⟩ :=
    compare_laws (.integer 1) (.float ⟨0x3FF8000000000000⟩) (.integer 2)
  exact ⟨before, after, exact, alsoExact,
    (trans ⟨before, after⟩).mpr (clear ⟨exact, alsoExact⟩)⟩

/-- Two whole numbers that are equal to the same floating point number and not to each other. -/
theorem compare_not_transitive :
    (integer 9007199254740993).compare (.float ⟨0x4340000000000000⟩) = .ok .eq ∧
      (float ⟨0x4340000000000000⟩).compare (.integer 9007199254740992) = .ok .eq ∧
      (integer 9007199254740993).compare (.integer 9007199254740992) = .ok .gt := by
  decide +kernel

end Value

end EntityStore
