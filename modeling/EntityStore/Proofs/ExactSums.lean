import Mathlib.Algebra.Order.BigOperators.Group.List
import Mathlib.Algebra.Order.Ring.Int
import Mathlib.Data.List.Infix
import EntityStore.Proofs.Aggregates

/-!
# Exact sums

Whole numbers are added in the order of the rows, and the sum fails as soon as a partial
sum leaves the numbers of sixty-four bits.  So a sum that is answered is exact, and a sum
that is too large fails, but a sum that fails need not be too large: a partial sum may
leave the range and a later one come back.

Whether that happens depends on the order of the rows.  When the exact sum is in range,
some order keeps all partial sums in range, for there is always a number that can be added
next (`Aggregate.exists_next`).  Every order does so exactly when the sum of the positive
numbers and that of the negative ones are in range (`Aggregate.sum_exact`).
-/

set_option autoImplicit false

namespace EntityStore.Aggregate

/-! ## Partial sums -/

/-- Whether a whole number is one of sixty-four bits. -/
def IsInt64 (number : Int) : Prop := -0x8000000000000000 ≤ number ∧ number < 0x8000000000000000

instance (number : Int) : Decidable (IsInt64 number) := inferInstanceAs (Decidable (_ ∧ _))

theorem isInt64_toInt (number : Int64) : IsInt64 number.toInt :=
  ⟨number.le_toInt, number.toInt_lt⟩

/-- Whether all partial sums from a start are numbers of sixty-four bits. -/
def Stays (start : Int) (weights : List Int) : Prop :=
  ∀ part ∈ weights.inits, IsInt64 (start + part.sum)

instance (start : Int) (weights : List Int) : Decidable (Stays start weights) :=
  inferInstanceAs (Decidable (∀ part ∈ weights.inits, _))

/-- The sum of the numbers above zero. -/
def gains (weights : List Int) : Int := (weights.map (max 0)).sum

/-- The sum of the numbers below zero. -/
def losses (weights : List Int) : Int := (weights.map (min 0)).sum

section Arranging

variable {α : Type} {weight : α → Int} {items : List α} {start summand : Int}
  {weights part : List Int}

theorem stays_nil_iff : Stays start [] ↔ IsInt64 start := by
  simp [Stays]

theorem stays_cons_iff :
    Stays start (summand :: weights) ↔ IsInt64 start ∧ Stays (start + summand) weights := by
  simp [Stays, Int.add_assoc]

theorem Stays.isInt64 (stays : Stays start weights) : IsInt64 start := by
  simpa using stays [] ((List.mem_inits [] weights).mpr List.nil_prefix)

theorem Stays.sum (stays : Stays start weights) : IsInt64 (start + weights.sum) :=
  stays weights ((List.mem_inits weights weights).mpr (List.prefix_refl weights))

/-- As long as the sum comes out in range, there is always a number that can be added next. -/
theorem exists_next (startFits : IsInt64 start)
    (each : ∀ item ∈ items, IsInt64 (weight item)) (some : items ≠ [])
    (endFits : IsInt64 (start + (items.map weight).sum)) :
    ∃ item ∈ items, IsInt64 (start + weight item) := by
  obtain ⟨first, rest, rfl⟩ := List.exists_cons_of_ne_nil some
  rw [List.map_cons, List.sum_cons] at endFits
  simp only [IsInt64] at startFits endFits each ⊢
  by_cases positive : 0 ≤ start
  · by_cases falls : ∃ item ∈ first :: rest, weight item < 0
    · obtain ⟨item, member, negative⟩ := falls
      have fits := each item member
      exact ⟨item, member, by omega⟩
    · -- All numbers lead upward, to an end that is in range.
      push Not at falls
      have rises : 0 ≤ (rest.map weight).sum :=
        List.sum_nonneg (List.forall_mem_map.mpr fun item member =>
          falls item (List.mem_cons_of_mem first member))
      have firstRises := falls first List.mem_cons_self
      exact ⟨first, List.mem_cons_self, by omega⟩
  · by_cases rises : ∃ item ∈ first :: rest, 0 < weight item
    · obtain ⟨item, member, positive⟩ := rises
      have fits := each item member
      exact ⟨item, member, by omega⟩
    · push Not at rises
      have falls : (rest.map weight).sum ≤ 0 :=
        (List.sum_le_card_nsmul _ 0 (List.forall_mem_map.mpr fun item member =>
          rises item (List.mem_cons_of_mem first member))).trans_eq (nsmul_zero _)
      have firstFalls := rises first List.mem_cons_self
      exact ⟨first, List.mem_cons_self, by omega⟩

/-- **Numbers whose sum is in range can be arranged so that all partial sums are.** -/
theorem exists_perm_stays (startFits : IsInt64 start)
    (each : ∀ item ∈ items, IsInt64 (weight item))
    (endFits : IsInt64 (start + (items.map weight).sum)) :
    ∃ arranged : List α, arranged.Perm items ∧ Stays start (arranged.map weight) := by
  induction size : items.length generalizing items start with
  | zero =>
      obtain rfl := List.length_eq_zero_iff.mp size
      exact ⟨[], .refl _, stays_nil_iff.mpr startFits⟩
  | succ count ih =>
      have some : items ≠ [] := List.ne_nil_of_length_eq_add_one size
      obtain ⟨item, member, nextFits⟩ := exists_next startFits each some endFits
      obtain ⟨before, after, rfl⟩ := List.append_of_mem member
      have moved : (item :: (before ++ after)).Perm (before ++ item :: after) :=
        List.perm_middle.symm
      have sumMoved := (moved.map weight).sum_eq
      rw [List.map_cons, List.sum_cons] at sumMoved
      rw [← sumMoved, ← Int.add_assoc] at endFits
      have shorter : (before ++ after).length = count :=
        Nat.succ.inj (moved.length_eq.trans size)
      obtain ⟨arranged, perm, stays⟩ := ih nextFits
        (fun other otherMember => each other (moved.subset (List.mem_cons_of_mem item otherMember)))
        endFits shorter
      refine ⟨item :: arranged, (perm.cons item).trans moved, ?_⟩
      rw [List.map_cons, stays_cons_iff]
      exact ⟨startFits, stays⟩

/-- A sum of some of the numbers lies between the losses and the gains of all. -/
theorem sum_of_sublist (sub : part.Sublist weights) :
    losses weights ≤ part.sum ∧ part.sum ≤ gains weights := by
  induction sub with
  | slnil => exact ⟨le_refl _, le_refl _⟩
  | cons weight sub ih | cons_cons weight sub ih =>
      simp only [losses, gains, List.map_cons, List.sum_cons] at ih ⊢
      omega

/-- The items that pass a test add up to the sum in which the others count for nothing. -/
theorem sum_filter {keeps : α → Bool} {counted : Int → Int}
    (counts : ∀ item, counted (weight item) = if keeps item then weight item else 0)
    (items : List α) :
    ((items.filter keeps).map weight).sum = ((items.map weight).map counted).sum := by
  induction items with
  | nil => rfl
  | cons item items ih =>
      rw [List.map_cons, List.map_cons, List.sum_cons, ← ih, counts, List.filter_cons]
      split
      · rw [List.map_cons, List.sum_cons]
      · rw [Int.zero_add]

theorem sum_filter_gains (items : List α) (weight : α → Int) :
    ((items.filter fun item => 0 ≤ weight item).map weight).sum = gains (items.map weight) :=
  sum_filter (fun item => by simp only [decide_eq_true_eq]; split <;> omega) items

theorem sum_filter_losses (items : List α) (weight : α → Int) :
    ((items.filter fun item => weight item < 0).map weight).sum = losses (items.map weight) :=
  sum_filter (fun item => by simp only [decide_eq_true_eq]; split <;> omega) items

end Arranging

/-! ## The sum of a field -/

section Rows

variable {mapping : EntityMapping} {field : String} {rows order : List Row} {start : Int}
  {numbers : List Int64}

/-- The whole number in a field of a row. -/
def number? (mapping : EntityMapping) (field : String) (row : Row) : Option Int64 :=
  match mapping.value row field with
  | .ok value => value.integer?
  | .error _ => none

/-- What a row adds to the sum of a field. -/
def amount (mapping : EntityMapping) (field : String) (row : Row) : Int :=
  ((number? mapping field row).map Int64.toInt).getD 0

/-- Whether a field is a whole number in rows, or missing. -/
def HoldsIntegers (mapping : EntityMapping) (field : String) (rows : List Row) : Prop :=
  ∀ row ∈ rows, mapping.value row field = .ok .null ∨
    ∃ number, mapping.value row field = .ok (.integer number)

theorem isInt64_amount (mapping : EntityMapping) (field : String) (row : Row) :
    IsInt64 (amount mapping field row) := by
  rw [amount]
  cases number? mapping field row with
  | none => decide
  | some number => exact isInt64_toInt number

/-- The values of the field are its whole numbers. -/
theorem present_eq_integers (holds : HoldsIntegers mapping field rows) :
    present mapping rows field =
      .ok ((rows.filterMap (number? mapping field)).map Value.integer) := by
  have reads : ∀ row ∈ rows, mapping.value row field =
      .ok (((number? mapping field row).map Value.integer).getD .null) := by
    intro row member
    rcases holds row member with missing | ⟨number, found⟩
    · rw [number?, missing]
      rfl
    · rw [number?, found]
      rfl
  rw [present_eq reads]
  refine congrArg Except.ok ?_
  induction rows with
  | nil => rfl
  | cons row rows ih =>
      obtain ⟨-, rest⟩ := List.forall_mem_cons.mp holds
      obtain ⟨-, restReads⟩ := List.forall_mem_cons.mp reads
      rw [List.map_cons, List.filter_cons, List.filterMap_cons, ih rest restReads]
      cases number? mapping field row <;> rfl

/-- **The sum of whole numbers is exact as long as every partial sum is in range**, and else there
is none. -/
theorem sumIntegers_eq (startFits : IsInt64 start) (rows : List Row) :
    sumIntegers field start (rows.filterMap (number? mapping field)) =
      if Stays start (rows.map (amount mapping field)) then
        .ok (.integer (Int64.ofInt (start + (rows.map (amount mapping field)).sum)))
      else .error (.execution (.sumOverflow field)) := by
  induction rows generalizing start with
  | nil =>
      rw [List.map_nil, List.sum_nil, Int.add_zero, if_pos (stays_nil_iff.mpr startFits)]
      rfl
  | cons row rows ih =>
      rw [List.filterMap_cons, List.map_cons, List.sum_cons, ← Int.add_assoc]
      simp only [stays_cons_iff, startFits, true_and]
      cases found : number? mapping field row with
      | none =>
          have nothing : amount mapping field row = 0 := by rw [amount, found]; rfl
          rw [nothing, Int.add_zero]
          exact ih startFits
      | some number =>
          have summand : amount mapping field row = number.toInt := by rw [amount, found]; rfl
          rw [summand]
          dsimp only
          rw [sumIntegers]
          split
          · next nextFits => exact ih nextFits
          · next tooFar =>
              rw [if_neg]
              exact fun stays => tooFar (Stays.isInt64 stays)

theorem sum_map_integer (some : numbers ≠ []) :
    sum field (numbers.map Value.integer) = sumIntegers field 0 numbers := by
  have notEmpty : ¬ (numbers.map Value.integer).isEmpty = true := by
    rw [List.isEmpty_map, List.isEmpty_iff]
    exact some
  have integers : (numbers.map Value.integer).all (fun value => value.kind = .integer) = true := by
    simp [Value.kind]
  rw [sum, if_neg notEmpty, if_pos integers, List.filterMap_map]
  exact congrArg _ List.filterMap_some

/-- **A sum is exact, or a partial sum was out of range.** -/
theorem evaluate_sum (holds : HoldsIntegers mapping field rows)
    (some : ∃ row ∈ rows, ∃ number, mapping.value row field = .ok (.integer number)) :
    evaluate mapping rows (.sum field) =
      if Stays 0 (rows.map (amount mapping field)) then
        .ok (.integer (Int64.ofInt (rows.map (amount mapping field)).sum))
      else .error (.execution (.sumOverflow field)) := by
  have numbers : rows.filterMap (number? mapping field) ≠ [] := by
    obtain ⟨row, member, number, found⟩ := some
    have read : number? mapping field row = .some number := by rw [number?, found]; rfl
    exact List.ne_nil_of_mem (List.mem_filterMap.mpr ⟨row, member, read⟩)
  have summed : sumIntegers field 0 (rows.filterMap (number? mapping field)) = _ :=
    sumIntegers_eq (by decide) rows
  rw [Int.zero_add] at summed
  rw [evaluate, present_eq_integers holds, ← summed, ← sum_map_integer numbers]
  rfl

/-- In every order of the rows a sum is that of all rows, or a partial sum was out of range. -/
theorem evaluate_sum_of_perm (holds : HoldsIntegers mapping field rows)
    (some : ∃ row ∈ rows, ∃ number, mapping.value row field = .ok (.integer number))
    (perm : order.Perm rows) :
    evaluate mapping order (.sum field) =
      if Stays 0 (order.map (amount mapping field)) then
        .ok (.integer (Int64.ofInt (rows.map (amount mapping field)).sum))
      else .error (.execution (.sumOverflow field)) := by
  obtain ⟨row, member, isInteger⟩ := some
  have alsoHolds : HoldsIntegers mapping field order := fun row member =>
    holds row (perm.subset member)
  rw [evaluate_sum alsoHolds ⟨row, perm.symm.subset member, isInteger⟩, (perm.map _).sum_eq]

theorem isOk_sum_iff (holds : HoldsIntegers mapping field rows)
    (some : ∃ row ∈ rows, ∃ number, mapping.value row field = .ok (.integer number))
    (perm : order.Perm rows) :
    (evaluate mapping order (.sum field)).isOk = true ↔
      Stays 0 (order.map (amount mapping field)) := by
  rw [evaluate_sum_of_perm holds some perm]
  split
  · next stays => exact iff_of_true rfl stays
  · next leaves => exact iff_of_false nofun leaves

/-- A sum that stays in range in some order of the rows is in range. -/
theorem isInt64_of_stays (perm : order.Perm rows)
    (stays : Stays 0 (order.map (amount mapping field))) :
    IsInt64 (rows.map (amount mapping field)).sum := by
  rw [← (perm.map _).sum_eq, ← Int.zero_add (order.map _).sum]
  exact stays.sum

/-- Rows of which every order keeps the partial sums in range: no order can climb higher than the
gains or fall lower than the losses, and some order reaches them. -/
theorem stays_every_order_iff (rows : List Row) :
    (∀ order : List Row, order.Perm rows → Stays 0 (order.map (amount mapping field))) ↔
      IsInt64 (gains (rows.map (amount mapping field))) ∧
        IsInt64 (losses (rows.map (amount mapping field))) := by
  constructor
  · intro stays
    have first {keeps : Row → Bool} :
        IsInt64 ((rows.filter keeps).map (amount mapping field)).sum := by
      have reached := stays _ (List.filter_append_perm keeps rows)
        ((rows.filter keeps).map (amount mapping field)) (by simp [List.map_append])
      rwa [Int.zero_add] at reached
    rw [← sum_filter_gains, ← sum_filter_losses]
    exact ⟨first, first⟩
  · rintro ⟨upper, lower⟩ order perm part member
    have sub := ((List.mem_inits _ _).mp member).sublist
    obtain ⟨below, above⟩ := sum_of_sublist sub
    have sameLosses : losses (order.map (amount mapping field)) =
        losses (rows.map (amount mapping field)) := ((perm.map _).map _).sum_eq
    have sameGains : gains (order.map (amount mapping field)) =
        gains (rows.map (amount mapping field)) := ((perm.map _).map _).sum_eq
    rw [sameLosses] at below
    rw [sameGains] at above
    rw [Int.zero_add]
    exact ⟨lower.1.trans below, above.trans_lt upper.2⟩

/-- **A sum of whole numbers is exact or overflows, and the order of the rows decides which.**  It
is exact where all partial sums are numbers of sixty-four bits, and overflows elsewhere.  Some order
of the rows gives the exact sum when that is in range, and no order gives a sum when it is not.
Every order gives it exactly when the positive numbers by themselves, and the negative ones by
themselves, have sums in range. -/
theorem sum_exact (holds : HoldsIntegers mapping field rows)
    (some : ∃ row ∈ rows, ∃ number, mapping.value row field = .ok (.integer number)) :
    let amounts (order : List Row) := order.map (amount mapping field)
    let exact := (amounts rows).sum
    let answer (order : List Row) := evaluate mapping order (.sum field)
    (∀ order : List Row, order.Perm rows →
      (Stays 0 (amounts order) →
        ∃ number : Int64, number.toInt = exact ∧ answer order = .ok (.integer number)) ∧
      (¬ Stays 0 (amounts order) → answer order = .error (.execution (.sumOverflow field)))) ∧
    ((∃ order : List Row, order.Perm rows ∧ (answer order).isOk = true) ↔ IsInt64 exact) ∧
    ((∀ order : List Row, order.Perm rows → (answer order).isOk = true) ↔
      IsInt64 (gains (amounts rows)) ∧ IsInt64 (losses (amounts rows))) := by
  intro amounts exact answer
  refine ⟨fun order perm => ⟨fun stays => ?_, fun leaves => ?_⟩, ⟨?_, fun fits => ?_⟩, ?_⟩
  · obtain ⟨lower, upper⟩ := isInt64_of_stays perm stays
    refine ⟨Int64.ofInt exact, Int64.toInt_ofInt_of_le lower upper, ?_⟩
    exact (evaluate_sum_of_perm holds some perm).trans (if_pos stays)
  · exact (evaluate_sum_of_perm holds some perm).trans (if_neg leaves)
  · rintro ⟨order, perm, succeeds⟩
    exact isInt64_of_stays perm ((isOk_sum_iff holds some perm).mp succeeds)
  · have endFits : IsInt64 (0 + exact) := by rwa [Int.zero_add]
    obtain ⟨order, perm, stays⟩ :=
      exists_perm_stays (by decide) (fun row _ => isInt64_amount mapping field row) endFits
    exact ⟨order, perm, (isOk_sum_iff holds some perm).mpr stays⟩
  · rw [← stays_every_order_iff]
    exact forall_congr' fun order => forall_congr' fun perm => isOk_sum_iff holds some perm

/-- Three, nothing and minus five come to minus two in every order. -/
theorem small_amounts_add_up :
    let mapping := (EntityMapping.ofKey "Note" "t_note" "nte_id" 23).withField
      { field := "n", column := "nte_n", type := .integer }
    let rows : List Row :=
      [[.text "a", .integer 3], [.text "b", .null], [.text "c", .integer (-5)]]
    ∀ order : List Row, order.Perm rows → ∃ number : Int64, number.toInt = -2 ∧
      evaluate mapping order (.sum "n") = .ok (.integer number) := by
  intro mapping rows order perm
  have holds : HoldsIntegers mapping "n" rows :=
    List.forall_mem_cons.mpr ⟨.inr ⟨3, rfl⟩, List.forall_mem_cons.mpr ⟨.inl rfl,
      List.forall_mem_singleton.mpr (.inr ⟨-5, rfl⟩)⟩⟩
  obtain ⟨answers, -, every⟩ := sum_exact holds ⟨_, List.mem_cons_self, 3, rfl⟩
  have succeeds := every.mpr ⟨by decide, by decide⟩ order perm
  by_cases stays : Stays 0 (order.map (amount mapping "n"))
  · exact (answers order perm).1 stays
  · rw [(answers order perm).2 stays] at succeeds
    cases succeeds

/-- The largest number, one and minus one come to the largest number, which is answered only when
minus one is added before one. -/
theorem sum_depends_on_order :
    let mapping := (EntityMapping.ofKey "Note" "t_note" "nte_id" 23).withField
      { field := "n", column := "nte_n", type := .integer }
    let largest : Row := [.text "a", .integer 9223372036854775807]
    let one : Row := [.text "b", .integer 1]
    let minusOne : Row := [.text "c", .integer (-1)]
    [largest, minusOne, one].Perm [largest, one, minusOne] ∧
      ([largest, one, minusOne].map (amount mapping "n")).sum = 9223372036854775807 ∧
      evaluate mapping [largest, one, minusOne] (.sum "n") =
        .error (.execution (.sumOverflow "n")) ∧
      evaluate mapping [largest, minusOne, one] (.sum "n") =
        .ok (.integer 9223372036854775807) :=
  ⟨by decide, rfl, rfl, rfl⟩

end Rows

end EntityStore.Aggregate
