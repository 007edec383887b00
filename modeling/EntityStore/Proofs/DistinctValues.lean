import Mathlib.Data.Finset.Card
import Mathlib.Data.Finset.Dedup
import EntityStore.Proofs.Aggregates
import EntityStore.Proofs.OrderedResults
import EntityStore.Proofs.Ranges
import EntityStore.Proofs.ValueOrder

/-!
# Counting distinct values

Two rows are in one class if an equality with the value of the one matches the other.
Among values that a column takes in this is an equivalence (`Aggregate.matching_eq_iff`):
only a floating point number between whole numbers beyond `2 ^ 53` could spoil it.

Distinct values are told apart by a sameness of their own, which is equality but for one
thing: a whole number and a floating point number are never the same, whatever their
values (`Value.same_iff`).  So a class is counted once, and once more if it holds numbers of
both kinds (`Aggregate.countDistinct_eq`).
-/

set_option autoImplicit false

namespace EntityStore

/-- Whether a column takes in a value, a floating point column whole numbers below `2 ^ 53` and no
other NaN than the standard one. -/
structure DataType.Stores (type : DataType) (value : Value) : Prop where
  admits : type.admits value = true
  small : type = .float → ∀ number, value = .integer number → number.toInt.natAbs < 2 ^ 53
  standard : type = .float → ∀ number, value = .float number → number.isNaN = true →
    number = .nan

namespace DataType.Stores

theorem null (type : DataType) : type.Stores .null where
  admits := by cases type <;> rfl
  small := fun _ _ whole => by cases whole
  standard := fun _ _ isFloat => by cases isFloat

theorem float_integer {number : Int64} (small : number.toInt.natAbs < 2 ^ 53) :
    DataType.float.Stores (.integer number) where
  admits := rfl
  small := fun _ _ whole => by cases whole; exact small
  standard := fun _ _ isFloat => by cases isFloat

theorem float_float {number : Binary64} (standard : number.isNaN = true → number = .nan) :
    DataType.float.Stores (.float number) where
  admits := rfl
  small := fun _ _ whole => by cases whole
  standard := fun _ _ isFloat => by cases isFloat; exact standard

theorem eq_float {type : DataType} {number : Binary64}
    (stored : type.Stores (.float number)) : type = .float := by
  have admits := stored.admits
  cases type with
  | float => rfl
  | integer | text | boolean => cases admits

end DataType.Stores

/-! ## Sameness and equality -/

namespace Binary64

theorem isNaN_iff_orderKey {number : Binary64} :
    number.isNaN = true ↔ number.orderKey = signWeight := by
  have below : number.magnitude < signWeight := Nat.mod_lt _ (by decide)
  constructor
  · intro isNaN
    rw [orderKey, if_pos isNaN]
  · intro atTop
    by_contra notNaN
    rw [orderKey, if_neg notNaN] at atTop
    split at atTop <;> omega

/-- Numbers without other NaNs than the standard one are the same when they compare as equal. -/
theorem same_iff_compare {left right : Binary64} (leftStandard : left.isNaN = true → left = .nan)
    (rightStandard : right.isNaN = true → right = .nan) :
    (left == right || left.numericallyEqual right) = true ↔ left.compare right = .eq := by
  rw [compare_eq_iff, Bool.or_eq_true, beq_iff_eq]
  constructor
  · rintro (rfl | equal)
    · rfl
    · simp only [numericallyEqual, Bool.and_eq_true, beq_iff_eq] at equal
      exact equal.2
  · intro sameKey
    by_cases isNaN : left.isNaN = true
    · have alsoNaN : right.isNaN = true :=
        isNaN_iff_orderKey.mpr (sameKey.symm.trans (isNaN_iff_orderKey.mp isNaN))
      exact .inl ((leftStandard isNaN).trans (rightStandard alsoNaN).symm)
    · have alsoNumber : ¬right.isNaN = true := fun alsoNaN =>
        isNaN (isNaN_iff_orderKey.mpr (sameKey.trans (isNaN_iff_orderKey.mp alsoNaN)))
      refine .inr ?_
      simp [numericallyEqual, isNaN, alsoNumber, sameKey]

end Binary64

namespace Value

variable {type : DataType} {first second third left right : Value}

/-- Values are the same when they are equal and of one kind. -/
theorem same_iff (leftStored : type.Stores left) (rightStored : type.Stores right)
    (leftPresent : left ≠ .null) (rightPresent : right ≠ .null) :
    left.same right = true ↔
      left.compare right = .ok .eq ∧ (left.kind = .integer ↔ right.kind = .integer) := by
  rw [compare_eq_ok_iff]
  cases left with
  | null => exact absurd rfl leftPresent
  | integer number =>
      cases right with
      | null => exact absurd rfl rightPresent
      | integer other =>
          simp [same, order?, kind, Int64.toInt_inj]
      | float | text | boolean => simp [same, order?, kind]
  | float number =>
      cases right with
      | null => exact absurd rfl rightPresent
      | float other =>
          rw [same, Binary64.same_iff_compare (leftStored.standard leftStored.eq_float _ rfl)
            (rightStored.standard rightStored.eq_float _ rfl)]
          simp [order?, kind]
      | integer | text | boolean => simp [same, order?, kind]
  | text content =>
      cases right with
      | null => exact absurd rfl rightPresent
      | text other => simp [same, order?, kind]
      | integer | float | boolean => simp [same, order?, kind]
  | boolean truth =>
      cases right with
      | null => exact absurd rfl rightPresent
      | boolean other => simp [same, order?, kind]
      | integer | float | text => simp [same, order?, kind]

/-- Values that a column takes in can be compared. -/
theorem exists_compare (leftStored : type.Stores left) (rightStored : type.Stores right) :
    ∃ order, left.compare right = .ok order := by
  -- No type admits two values that have no order.
  have admitted (excluded : (type.admits left && type.admits right) = false) :
      ∃ order, left.compare right = .ok order := by
    rw [leftStored.admits, rightStored.admits] at excluded
    cases excluded
  simp only [compare_eq_ok_iff] at admitted ⊢
  cases left with
  | null => cases right <;> exact ⟨_, rfl⟩
  | integer | float =>
      cases right with
      | null | integer | float => exact ⟨_, rfl⟩
      | text | boolean => exact admitted (by cases type <;> rfl)
  | text =>
      cases right with
      | null | text => exact ⟨_, rfl⟩
      | integer | float | boolean => exact admitted (by cases type <;> rfl)
  | boolean =>
      cases right with
      | null | boolean => exact ⟨_, rfl⟩
      | integer | float | text => exact admitted (by cases type <;> rfl)

theorem not_blurs_of_stores (firstStored : type.Stores first) (secondStored : type.Stores second)
    (thirdStored : type.Stores third) : ¬ first.Blurs second third := by
  intro blurs
  have isFloat : type = .float := by
    obtain ⟨-, -, middle, -, rfl, -⟩ := blurs
    exact secondStored.eq_float
  have exact {value : Value} (stored : type.Stores value) : value.IsExact := fun number whole =>
    Nat.le_of_lt (stored.small isFloat number whole)
  exact blurs.not_isExact (exact firstStored) (exact thirdStored)

theorem kind_of_equal (equal : left.compare right = .ok .eq) (whole : right.kind = .integer)
    (notWhole : left.kind ≠ .integer) : left.kind = .float := by
  rw [compare_eq_ok_iff] at equal
  cases right with
  | null | float | text | boolean => cases whole
  | integer number =>
      cases left with
      | integer => exact absurd rfl notWhole
      | float => rfl
      | null | text | boolean => cases equal

theorem equal_symm (equal : left.compare right = .ok .eq) : right.compare left = .ok .eq :=
  compare_eq_ok_swap_iff.mp equal

/-- Equality of values that a column takes in is transitive. -/
theorem equal_trans (firstStored : type.Stores first) (secondStored : type.Stores second)
    (thirdStored : type.Stores third) (before : first.compare second = .ok .eq)
    (after : second.compare third = .ok .eq) : first.compare third = .ok .eq := by
  obtain ⟨before, back⟩ := compare_eq_eq_iff.mp before
  obtain ⟨after, backAfter⟩ := compare_eq_eq_iff.mp after
  exact compare_eq_eq_iff.mpr
    ⟨before.trans after (not_blurs_of_stores firstStored secondStored thirdStored),
      backAfter.trans back (not_blurs_of_stores thirdStored secondStored firstStored)⟩

end Value

/-! ## Distinct values -/

namespace Aggregate

variable {values : List Value}

theorem distinct_append (values : List Value) (value : Value) :
    distinct (values ++ [value]) =
      if (distinct values).any value.same then distinct values else distinct values ++ [value] := by
  rw [distinct, List.foldl_append]
  rfl

/-- Where values are told apart by keys, those that are kept have each of the keys once. -/
theorem keys_distinct {β : Type} [DecidableEq β] {key : Value → β}
    (agrees : ∀ left ∈ values, ∀ right ∈ values, left.same right = true ↔ key left = key right) :
    distinct values ⊆ values ∧ ((distinct values).map key).Nodup ∧
      ((distinct values).map key).toFinset = (values.map key).toFinset := by
  induction values using List.reverseRecOn with
  | nil => exact ⟨List.nil_subset _, List.nodup_nil, rfl⟩
  | append_singleton values value ih =>
      obtain ⟨among, once, sameKeys⟩ := ih fun left leftMember right rightMember =>
        agrees left (List.mem_append_left _ leftMember) right (List.mem_append_left _ rightMember)
      have found : (distinct values).any value.same = true ↔
          key value ∈ (distinct values).map key := by
        rw [List.any_eq_true, List.mem_map]
        refine exists_congr fun other => and_congr_right fun member => ?_
        rw [agrees value (by simp) other (List.mem_append_left _ (among member)), eq_comm]
      have grown (items : List Value) : ((items ++ [value]).map key).toFinset =
          insert (key value) (items.map key).toFinset := by
        rw [List.map_append, List.toFinset_append, Finset.union_comm]
        rfl
      have inFront : distinct values ⊆ values ++ [value] :=
        List.subset_append_of_subset_left _ among
      rw [distinct_append]
      by_cases known : (distinct values).any value.same = true
      · rw [if_pos known]
        refine ⟨inFront, once, ?_⟩
        rw [grown, ← sameKeys, Finset.insert_eq_of_mem (List.mem_toFinset.mpr (found.mp known))]
      · rw [if_neg known]
        refine ⟨List.append_subset.mpr ⟨inFront, List.subset_append_right _ _⟩, ?_, ?_⟩
        · rw [List.map_append]
          exact once.append (List.nodup_singleton _)
            (List.disjoint_singleton.mpr fun member => known (found.mpr member))
        · rw [grown, grown, sameKeys]

theorem length_distinct {β : Type} [DecidableEq β] (key : Value → β)
    (agrees : ∀ left ∈ values, ∀ right ∈ values, left.same right = true ↔ key left = key right) :
    (distinct values).length = (values.map key).toFinset.card := by
  obtain ⟨-, once, sameKeys⟩ := keys_distinct agrees
  rw [← sameKeys, List.toFinset_card_of_nodup once, List.length_map]

end Aggregate

/-- Pairs with a truth value, counted by their first parts. -/
theorem card_eq_card_image_add {α : Type} [DecidableEq α] (pairs : Finset (α × Bool)) :
    pairs.card = (pairs.image Prod.fst).card +
      ((pairs.image Prod.fst).filter fun part =>
        (part, true) ∈ pairs ∧ (part, false) ∈ pairs).card := by
  let marked (mark : Bool) : Finset α := (pairs.filter fun pair => pair.2 = mark).image Prod.fst
  have mem_marked {part : α} {mark : Bool} : part ∈ marked mark ↔ (part, mark) ∈ pairs := by
    simp [marked]
  have card_marked (mark : Bool) :
      (marked mark).card = (pairs.filter fun pair => pair.2 = mark).card := by
    refine Finset.card_image_of_injOn fun first firstMember second secondMember same => ?_
    simp only [Finset.coe_filter, Set.mem_ofPred_eq] at firstMember secondMember
    exact Prod.ext same (firstMember.2.trans secondMember.2.symm)
  have union : marked true ∪ marked false = pairs.image Prod.fst := by
    ext part
    simp [mem_marked, or_comm]
  have inter : marked true ∩ marked false = (pairs.image Prod.fst).filter fun part =>
      (part, true) ∈ pairs ∧ (part, false) ∈ pairs := by
    ext part
    simp only [Finset.mem_inter, mem_marked, Finset.mem_filter, Finset.mem_image]
    exact ⟨fun both => ⟨⟨_, both.1, rfl⟩, both⟩, fun both => both.2⟩
  rw [← inter, ← union, Finset.card_union_add_card_inter, card_marked, card_marked]
  simpa using (Finset.card_filter_add_card_filter_not (s := pairs) fun pair => pair.2 = true).symm

/-! ## Classes of rows -/

theorem EntityMapping.isSome_fieldIndex? {mapping : EntityMapping} {field : String}
    {column : FieldMapping} (declared : mapping.field? field = some column) :
    (mapping.fieldIndex? field).isSome = true := by
  rw [field?] at declared
  have named := List.find?_some declared
  rw [fieldIndex?, List.findIdx?_isSome, List.any_eq_true]
  exact ⟨column, List.mem_of_find?_eq_some declared, named⟩

namespace Aggregate

section Definitions

variable (mapping : EntityMapping) (rows : List Row) (field : String)

/-- The value of a field in a row, if it is not missing. -/
def given? (row : Row) : Option Value :=
  (mapping.value row field).toOption.filter fun value => !value.isNull

/-- The rows that an equality with a value matches. -/
def matching (value : Value) : List Row :=
  rows.filter fun row => (Restriction.compare field .equal value).accepts mapping row = .ok true

/-- The classes of rows with equal values. -/
def classes : List (List Row) :=
  ((rows.filterMap (given? mapping field)).map (matching mapping rows field)).dedup

/-- Whether a value of a kind is in a class. -/
def holds (kind : ValueKind) (members : List Row) : Bool :=
  members.any fun row => (given? mapping field row).any fun value => value.kind = kind

/-- The classes that hold numbers of both kinds. -/
def mixedClasses : List (List Row) :=
  (classes mapping rows field).filter fun members =>
    holds mapping field .integer members && holds mapping field .float members

end Definitions

variable {mapping : EntityMapping} {rows : List Row} {field : String} {row : Row}
  {type : DataType} {value bound left right : Value}

theorem given?_eq_some_iff :
    given? mapping field row = some value ↔
      mapping.value row field = .ok value ∧ value ≠ .null := by
  rw [given?, Option.filter_eq_some_iff]
  cases mapping.value row field with
  | error fault => simp [Except.toOption]
  | ok found =>
      simp only [Except.toOption, Option.some.injEq, Except.ok.injEq, Bool.not_eq_true',
        ← Bool.not_eq_true, Value.isNull_iff]

/-- An equality matches a row whose value is there and equal to the wanted one. -/
theorem evaluateCompare_equal_iff :
    Restriction.evaluateCompare mapping row field .equal bound = .ok .yes ↔ bound ≠ .null ∧
      ∃ value, given? mapping field row = some value ∧ value.compare bound = .ok .eq := by
  constructor
  · intro matched
    cases readable : mapping.value row field with
    | error fault =>
        rw [Restriction.evaluateCompare, readable] at matched
        cases matched
    | ok value =>
        by_cases missing : value = .null ∨ bound = .null
        · rw [Restriction.evaluateCompare_of_missing readable missing] at matched
          cases matched
        · obtain ⟨present, boundGiven⟩ := not_or.mp missing
          refine ⟨boundGiven, value, given?_eq_some_iff.mpr ⟨readable, present⟩, ?_⟩
          rw [Restriction.evaluateCompare_of_present readable present boundGiven] at matched
          cases compared : value.compare bound with
          | error fault =>
              rw [compared] at matched
              cases matched
          | ok order =>
              rw [compared] at matched
              cases order with
              | eq => rfl
              | lt | gt => cases matched
  · rintro ⟨boundGiven, value, given, equal⟩
    obtain ⟨readable, present⟩ := given?_eq_some_iff.mp given
    rw [Restriction.evaluateCompare_of_present readable present boundGiven, equal]
    rfl

theorem mem_matching_iff :
    row ∈ matching mapping rows field bound ↔ row ∈ rows ∧ bound ≠ .null ∧
      ∃ value, given? mapping field row = some value ∧ value.compare bound = .ok .eq := by
  rw [matching, List.mem_filter, decide_eq_true_eq, Restriction.accepts_eq_ok_true_iff,
    Restriction.evaluate, evaluateCompare_equal_iff]

/-- An equality with the value of a row matches the row itself. -/
theorem mem_matching_self (member : row ∈ rows) (given : given? mapping field row = some value) :
    row ∈ matching mapping rows field value :=
  mem_matching_iff.mpr ⟨member, (given?_eq_some_iff.mp given).2, value, given,
    Value.compare_eq_ok_iff.mpr (Value.order?_self value)⟩

/-! ## Classes and kinds -/

section Stored

variable (stored : ∀ row ∈ rows, ∀ value, mapping.value row field = .ok value → type.Stores value)

include stored

theorem stores_of_given (member : row ∈ rows) (given : given? mapping field row = some value) :
    type.Stores value ∧ value ≠ .null := by
  obtain ⟨readable, present⟩ := given?_eq_some_iff.mp given
  exact ⟨stored row member value readable, present⟩

/-- An equality with the value of a row has an answer on every row. -/
theorem exists_accepted {other : Row} (member : row ∈ rows) (otherMember : other ∈ rows)
    (given : given? mapping field row = some value)
    (readable : ∃ found, mapping.value other field = .ok found) :
    ∃ accepted, (Restriction.compare field .equal value).accepts mapping other = .ok accepted := by
  obtain ⟨valueStored, given⟩ := stores_of_given stored member given
  obtain ⟨found, readable⟩ := readable
  rw [Restriction.accepts, Restriction.evaluate]
  by_cases missing : found = .null
  · rw [Restriction.evaluateCompare_of_missing readable (.inl missing)]
    exact ⟨_, rfl⟩
  · obtain ⟨order, compared⟩ :=
      Value.exists_compare (stored other otherMember found readable) valueStored
    rw [Restriction.evaluateCompare_of_present readable missing given, compared]
    exact ⟨_, rfl⟩

/-- The equalities with two values match the same rows exactly if the values are equal. -/
theorem matching_eq_iff {other : Row} (member : row ∈ rows) (otherMember : other ∈ rows)
    (leftGiven : given? mapping field row = some left)
    (rightGiven : given? mapping field other = some right) :
    matching mapping rows field left = matching mapping rows field right ↔
      left.compare right = .ok .eq := by
  obtain ⟨leftStored, leftPresent⟩ := stores_of_given stored member leftGiven
  obtain ⟨rightStored, rightPresent⟩ := stores_of_given stored otherMember rightGiven
  constructor
  · intro same
    have inOwn := mem_matching_self member leftGiven
    rw [same] at inOwn
    obtain ⟨-, -, value, given, equal⟩ := mem_matching_iff.mp inOwn
    cases leftGiven.symm.trans given
    exact equal
  · intro equal
    refine List.filter_congr fun third thirdMember => decide_eq_decide.mpr ?_
    rw [Restriction.accepts_eq_ok_true_iff, Restriction.accepts_eq_ok_true_iff,
      Restriction.evaluate, Restriction.evaluate, evaluateCompare_equal_iff,
      evaluateCompare_equal_iff]
    refine and_congr (iff_of_true leftPresent rightPresent)
      (exists_congr fun value => and_congr_right fun given => ?_)
    obtain ⟨valueStored, -⟩ := stores_of_given stored thirdMember given
    constructor
    · exact fun toLeft => Value.equal_trans valueStored leftStored rightStored toLeft equal
    · exact fun toRight => Value.equal_trans valueStored rightStored leftStored toRight
        (Value.equal_symm equal)

/-- A class holds a value of a kind when such a value has the same class. -/
theorem holds_matching_iff {kind : ValueKind} (member : row ∈ rows)
    (given : given? mapping field row = some value) :
    holds mapping field kind (matching mapping rows field value) = true ↔
      ∃ other ∈ rows.filterMap (given? mapping field), other.kind = kind ∧
        matching mapping rows field other = matching mapping rows field value := by
  obtain ⟨-, present⟩ := stores_of_given stored member given
  simp only [holds, List.any_eq_true, Option.any_eq_true, decide_eq_true_eq, List.mem_filterMap]
  constructor
  · rintro ⟨otherRow, matched, other, otherGiven, isKind⟩
    obtain ⟨otherMember, -, found, foundGiven, equal⟩ := mem_matching_iff.mp matched
    cases otherGiven.symm.trans foundGiven
    exact ⟨other, ⟨otherRow, otherMember, otherGiven⟩, isKind,
      (matching_eq_iff stored otherMember member otherGiven given).mpr equal⟩
  · rintro ⟨other, ⟨otherRow, otherMember, otherGiven⟩, isKind, same⟩
    have equal := (matching_eq_iff stored otherMember member otherGiven given).mp same
    exact ⟨otherRow, mem_matching_iff.mpr ⟨otherMember, present, other, otherGiven, equal⟩,
      other, otherGiven, isKind⟩

/-- A class is mixed when a whole number has it and a value that is none. -/
theorem mem_mixedClasses_iff {members : List Row} :
    members ∈ mixedClasses mapping rows field ↔
      (∃ value ∈ rows.filterMap (given? mapping field),
        matching mapping rows field value = members ∧ value.kind = .integer) ∧
      ∃ value ∈ rows.filterMap (given? mapping field),
        matching mapping rows field value = members ∧ value.kind ≠ .integer := by
  rw [mixedClasses, List.mem_filter, Bool.and_eq_true, classes, List.mem_dedup, List.mem_map]
  constructor
  · rintro ⟨⟨value, valueMember, rfl⟩, holdsInteger, holdsFloat⟩
    obtain ⟨row, member, given⟩ := List.mem_filterMap.mp valueMember
    obtain ⟨whole, wholeMember, isInteger, sameWhole⟩ :=
      (holds_matching_iff stored member given).mp holdsInteger
    obtain ⟨other, otherMember, isFloat, sameOther⟩ :=
      (holds_matching_iff stored member given).mp holdsFloat
    exact ⟨⟨whole, wholeMember, sameWhole, isInteger⟩,
      other, otherMember, sameOther, by rw [isFloat]; exact nofun⟩
  · rintro ⟨⟨whole, wholeMember, rfl, isInteger⟩, other, otherMember, same, notInteger⟩
    obtain ⟨row, member, given⟩ := List.mem_filterMap.mp wholeMember
    obtain ⟨otherRow, alsoMember, otherGiven⟩ := List.mem_filterMap.mp otherMember
    have equal := (matching_eq_iff stored alsoMember member otherGiven given).mp same
    exact ⟨⟨whole, wholeMember, rfl⟩,
      (holds_matching_iff stored member given).mpr ⟨whole, wholeMember, isInteger, rfl⟩,
      (holds_matching_iff stored member given).mpr
        ⟨other, otherMember, Value.kind_of_equal equal isInteger notInteger, same⟩⟩

/-- The values of which no earlier one is the same are as many as the classes, with those that hold
numbers of both kinds counted twice. -/
theorem length_distinct_given :
    (distinct (rows.filterMap (given? mapping field))).length =
      (classes mapping rows field).length + (mixedClasses mapping rows field).length := by
  let values := rows.filterMap (given? mapping field)
  let key (value : Value) : List Row × Bool :=
    (matching mapping rows field value, decide (value.kind = .integer))
  have agrees : ∀ left ∈ values, ∀ right ∈ values,
      left.same right = true ↔ key left = key right := by
    intro left leftMember right rightMember
    obtain ⟨row, member, leftGiven⟩ := List.mem_filterMap.mp leftMember
    obtain ⟨other, otherMember, rightGiven⟩ := List.mem_filterMap.mp rightMember
    obtain ⟨leftStored, leftPresent⟩ := stores_of_given stored member leftGiven
    obtain ⟨rightStored, rightPresent⟩ := stores_of_given stored otherMember rightGiven
    rw [Value.same_iff leftStored rightStored leftPresent rightPresent, Prod.mk.injEq,
      matching_eq_iff stored member otherMember leftGiven rightGiven, decide_eq_decide]
  let pairs := (values.map key).toFinset
  have mem_pairs {members : List Row} {whole : Bool} : (members, whole) ∈ pairs ↔
      ∃ value ∈ values, matching mapping rows field value = members ∧
        decide (value.kind = .integer) = whole := by
    simp [pairs, key]
  have firsts : pairs.image Prod.fst = (values.map (matching mapping rows field)).toFinset := by
    ext members
    simp [pairs, key]
  have mixed : ((pairs.image Prod.fst).filter fun members =>
      (members, true) ∈ pairs ∧ (members, false) ∈ pairs) =
        (mixedClasses mapping rows field).toFinset := by
    ext members
    rw [List.mem_toFinset, mem_mixedClasses_iff stored, Finset.mem_filter, mem_pairs, mem_pairs]
    simp only [decide_eq_true_eq, decide_eq_false_iff_not]
    refine and_iff_right_of_imp fun both => ?_
    have first : (members, true) ∈ pairs := mem_pairs.mpr (by simpa using both.1)
    exact Finset.mem_image_of_mem Prod.fst first
  have mixedOnce : (mixedClasses mapping rows field).Nodup := (List.nodup_dedup _).filter _
  rw [length_distinct key agrees, card_eq_card_image_add, mixed, firsts, List.card_toFinset,
    List.toFinset_card_of_nodup mixedOnce]
  rfl

/-- Only a floating point column has mixed classes. -/
theorem mixedClasses_eq_nil (notFloat : type ≠ .float) : mixedClasses mapping rows field = [] := by
  refine List.filter_eq_nil_iff.mpr fun members isClass both => ?_
  obtain ⟨-, holdsFloat⟩ := Bool.and_eq_true_iff.mp both
  obtain ⟨row, inClass, isFloat⟩ := List.any_eq_true.mp holdsFloat
  obtain ⟨value, given, isFloat⟩ := (Option.any_eq_true _ _).mp isFloat
  obtain ⟨bound, -, rfl⟩ := List.mem_map.mp (List.mem_dedup.mp isClass)
  obtain ⟨valueStored, -⟩ := stores_of_given stored (mem_matching_iff.mp inClass).1 given
  cases value with
  | float number => exact notFloat valueStored.eq_float
  | null | integer | text | boolean => cases of_decide_eq_true isFloat

end Stored

/-! ## The count -/

/-- The values that an aggregate is made of. -/
theorem present_eq_filterMap
    (readable : ∀ row ∈ rows, ∃ value, mapping.value row field = .ok value) :
    present mapping rows field = .ok (rows.filterMap (given? mapping field)) := by
  let valueOf (row : Row) : Value := (mapping.value row field).toOption.getD .null
  have reads : ∀ row ∈ rows, mapping.value row field = .ok (valueOf row) := by
    intro row member
    obtain ⟨value, readable⟩ := readable row member
    simp only [valueOf, readable]
    rfl
  have given : ∀ row ∈ rows, given? mapping field row =
      (some (valueOf row)).filter fun value => !value.isNull := by
    intro row member
    rw [given?, reads row member]
    rfl
  rw [present_eq reads, List.filterMap_congr given, ← List.filterMap_eq_filter, List.filterMap_map]
  rfl

/-- **Distinct values are counted by classes of equal values, and classes of numbers of both kinds
twice.**  An equality with the value of a row has an answer on every row; it matches the row itself,
and the rows that it matches are in one class. -/
theorem countDistinct_eq {column : FieldMapping} (declared : mapping.field? field = some column)
    (wide : ∀ row ∈ rows, row.length = mapping.width)
    (stored : ∀ row ∈ rows, ∀ value, mapping.value row field = .ok value →
      column.type.Stores value) :
    (∀ row ∈ rows, ∀ value, given? mapping field row = some value →
      (∀ other ∈ rows, ∃ accepted,
        (Restriction.compare field .equal value).accepts mapping other = .ok accepted) ∧
      row ∈ matching mapping rows field value ∧
      ∀ other ∈ matching mapping rows field value, ∃ otherValue,
        given? mapping field other = some otherValue ∧
        matching mapping rows field otherValue = matching mapping rows field value) ∧
    evaluate mapping rows (.countDistinct field) = .ok (counted
      ((classes mapping rows field).length + (mixedClasses mapping rows field).length)) ∧
    (column.type ≠ .float → mixedClasses mapping rows field = []) := by
  obtain ⟨place, found⟩ := Option.isSome_iff_exists.mp (EntityMapping.isSome_fieldIndex? declared)
  have readable : ∀ row ∈ rows, ∃ value, mapping.value row field = .ok value :=
    fun row member => ⟨_, Criteria.value_eq_valueAt (wide row member) found⟩
  refine ⟨?_, ?_, mixedClasses_eq_nil stored⟩
  · intro row member value given
    refine ⟨fun other otherMember =>
      exists_accepted stored member otherMember given (readable other otherMember),
      mem_matching_self member given, fun other matched => ?_⟩
    obtain ⟨otherMember, -, otherValue, otherGiven, equal⟩ := mem_matching_iff.mp matched
    exact ⟨otherValue, otherGiven,
      (matching_eq_iff stored otherMember member otherGiven given).mpr equal⟩
  · rw [evaluate, present_eq_filterMap readable, ← length_distinct_given stored]
    rfl

/-! ## Readings -/

/-- Readings of a floating point number. -/
def readings : EntityMapping :=
  (EntityMapping.ofKey "Reading" "t_reading" "rdg_id" 23).withField
    { field := "value", column := "rdg_value", type := .float }

/-- One as a whole number and as a floating point number, minus zero and zero, and no number. -/
def ones : List Row :=
  [[.text "a", .integer 1], [.text "b", .float ⟨0x3FF0000000000000⟩],
    [.text "c", .float ⟨0x8000000000000000⟩], [.text "d", .float .zero], [.text "e", .null]]

theorem length_of_mem_ones : ∀ row ∈ ones, row.length = readings.width := by decide

theorem stores_of_mem_ones : ∀ row ∈ ones, ∀ value, readings.value row "value" = .ok value →
    DataType.float.Stores value := by
  have stored : ∀ row ∈ ones, DataType.float.Stores (Criteria.valueAt 1 row) := by
    simp only [ones, List.forall_mem_cons]
    exact ⟨.float_integer (by decide), .float_float (by decide), .float_float (by decide),
      .float_float (by decide), .null _, nofun⟩
  have found : readings.fieldIndex? "value" = some 1 := rfl
  intro row member value readable
  cases (Criteria.value_eq_valueAt (length_of_mem_ones row member) found).symm.trans readable
  exact stored row member

/-- One is counted twice and zero once. -/
theorem ones_counted :
    (∃ column, readings.field? "value" = some column ∧ ∀ row ∈ ones, ∀ value,
      readings.value row "value" = .ok value → column.type.Stores value) ∧
    (∀ row ∈ ones, row.length = readings.width) ∧
    evaluate readings ones (.countDistinct "value") = .ok (counted (2 + 1)) := by
  have declared : readings.field? "value" =
      some { field := "value", column := "rdg_value", type := .float } := rfl
  obtain ⟨-, counts, -⟩ := countDistinct_eq declared length_of_mem_ones stores_of_mem_ones
  have two : (classes readings ones "value").length = 2 := by decide +kernel
  have one : (mixedClasses readings ones "value").length = 1 := by decide +kernel
  rw [two, one] at counts
  exact ⟨⟨_, declared, stores_of_mem_ones⟩, length_of_mem_ones, counts⟩

/-- The whole number one and the floating point number one are equal, and counted as two. -/
theorem equal_ones_counted_twice :
    let rows := ones.take 2
    (∃ column, readings.field? "value" = some column ∧ ∀ row ∈ rows, ∀ value,
      readings.value row "value" = .ok value → column.type.Stores value) ∧
    (∀ row ∈ rows, row.length = readings.width) ∧
    (classes readings rows "value").length = 1 ∧
    evaluate readings rows (.countDistinct "value") = .ok (counted 2) ∧
    evaluate readings rows (.countDistinct "value") ≠
      .ok (counted (classes readings rows "value").length) := by
  intro rows
  have one : (classes readings rows "value").length = 1 := by decide +kernel
  have two : evaluate readings rows (.countDistinct "value") = .ok (counted 2) := by
    decide +kernel
  have among {row : Row} (member : row ∈ rows) : row ∈ ones := List.mem_of_mem_take member
  refine ⟨⟨_, rfl, fun row member => stores_of_mem_ones row (among member)⟩,
    fun row member => length_of_mem_ones row (among member), one, two, ?_⟩
  rw [one, two]
  decide

end Aggregate

end EntityStore
