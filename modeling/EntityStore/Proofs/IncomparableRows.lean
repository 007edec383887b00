import Mathlib.Data.List.Pairwise
import EntityStore.Proofs.OrderedResults
import EntityStore.Proofs.ValueOrder

/-!
# Rows that cannot be sorted

Two values that are both present can be compared when they are of one scale: both texts,
both truth values, or both numbers.  Rows with two values of different scales in the first
field of an order have no order, and sorting them fails (`SortKey.comparable_of_sortRows`),
although it never compares most pairs of rows and may meet the two far apart.

The reason is that a sort only knows what it is told.  If it has compared no two values of
different scales, then it cannot know whether those of one scale belong before all others
or behind them.  What it has been told agrees with both (`SortKey.scaleRanking`), so its
result would have to be in order both ways.

Where values of different scales are compared they count as equal, and such answers may
contradict each other.  Then the sort of many rows may break off before it reports them
(`Criteria.long_list_breaks_off`).
-/

set_option autoImplicit false

namespace EntityStore

/-! ## Values that can be compared -/

namespace Value

variable {left middle right : Value} {order : Ordering} {fault : Fault}

/-- Whether two values have an order. -/
def Comparable (left right : Value) : Prop := (left.order? right).isSome = true

/-- The kind of a value, where numbers of both kinds are of one. -/
def scale (value : Value) : ValueKind :=
  match value.kind with
  | .integer => .float
  | kind => kind

/-- The faults of two values that have no order. -/
def Refusal (fault : Fault) : Prop :=
  ∃ one other : Value, one.order? other = none ∧
    fault = .typeMismatch (.incomparable one.kind other.kind)

theorem comparable_iff (present : left ≠ .null) (alsoPresent : right ≠ .null) :
    left.Comparable right ↔ left.scale = right.scale := by
  cases left with
  | null => exact absurd rfl present
  | integer | float | text | boolean =>
      cases right with
      | null => exact absurd rfl alsoPresent
      | integer | float | text | boolean => simp [Comparable, order?, scale, kind]

theorem comparable_null (value : Value) : value.Comparable .null := by
  cases value <;> rfl

theorem null_comparable (value : Value) : Value.null.Comparable value := by
  cases value <;> rfl

/-- What cannot be compared is there. -/
theorem present_of_not_comparable (incomparable : ¬ left.Comparable right) :
    left ≠ .null ∧ right ≠ .null := by
  constructor
  · rintro rfl
    exact incomparable (null_comparable right)
  · rintro rfl
    exact incomparable (comparable_null left)

theorem Comparable.symm (comparable : left.Comparable right) : right.Comparable left := by
  rw [Comparable, order?_swap, Option.isSome_map]
  exact comparable

theorem Comparable.refl (value : Value) : value.Comparable value := by
  rw [Comparable, order?_self]
  rfl

/-- Values that can be compared with a third one that is present can be compared. -/
theorem Comparable.trans (comparable : left.Comparable middle)
    (alsoComparable : middle.Comparable right) (present : middle ≠ .null) :
    left.Comparable right := by
  by_cases missing : left = .null
  · rw [missing]
    exact null_comparable right
  · by_cases alsoMissing : right = .null
    · rw [alsoMissing]
      exact comparable_null left
    · rw [comparable_iff missing present] at comparable
      rw [comparable_iff present alsoMissing] at alsoComparable
      rw [comparable_iff missing alsoMissing, comparable, alsoComparable]

theorem comparable_of_compare (compared : left.compare right = .ok order) :
    left.Comparable right := by
  rw [Comparable, compare_eq_ok_iff.mp compared]
  rfl

theorem not_comparable_of_compare (failed : left.compare right = .error fault) :
    ¬ left.Comparable right := by
  intro comparable
  obtain ⟨order, found⟩ := Option.isSome_iff_exists.mp comparable
  rw [compare_eq_ok_iff.mpr found] at failed
  cases failed

theorem refusal_of_compare (failed : left.compare right = .error fault) : Refusal fault := by
  rw [Value.compare] at failed
  cases found : left.order? right with
  | some order =>
      rw [found] at failed
      cases failed
  | none =>
      rw [found] at failed
      cases failed
      exact ⟨left, right, found, rfl⟩

end Value

/-! ## What a sort knows of scales -/

namespace SortKey

open Criteria (valueAt compareRows_eq)

variable {place : Nat} {descending : Bool} {keys : List SortKey} {row last left right : Row}
  {rows sorted : List Row} {order : Ordering} {fault : Fault} {front : ValueKind → Bool}

/-- Whether a row is among those that come last by a key: the ones without a value, or the ones with
a value when the order falls. -/
def ComesLast (place : Nat) : Bool → Row → Prop
  | false, row => valueAt place row = .null
  | true, row => valueAt place row ≠ .null

/-- A comparison that succeeds has found values, and they have an order. -/
theorem of_compareRows
    (compared : compareRows row last ((place, descending) :: keys) = .ok order) :
    (place < row.length ∧ place < last.length) ∧
      (valueAt place row).Comparable (valueAt place last) := by
  have inside : place < row.length ∧ place < last.length := by
    rw [compareRows] at compared
    split at compared
    · next found alsoFound =>
        exact ⟨(List.getElem?_eq_some_iff.mp found).1, (List.getElem?_eq_some_iff.mp alsoFound).1⟩
    · cases compared
  rw [compareRows_eq inside.1 inside.2, bind_eq_ok_iff] at compared
  obtain ⟨order, compared, -⟩ := compared
  exact ⟨inside, Value.comparable_of_compare compared⟩

section FirstKey

variable (inside : place < row.length ∧ place < last.length)
include inside

/-- Rows that differ at the first key are in the order of it. -/
theorem compareRows_of_ne (compared : (valueAt place row).order? (valueAt place last) = some order)
    (differ : order ≠ .eq) :
    compareRows row last ((place, descending) :: keys) =
      .ok (if descending then order.swap else order) := by
  rw [compareRows_eq inside.1 inside.2, Value.compare_eq_ok_iff.mpr compared]
  cases order with
  | eq => exact absurd rfl differ
  | lt | gt => rfl

theorem compareRows_gt (comesLast : ComesLast place descending row)
    (comesFirst : ¬ ComesLast place descending last) :
    compareRows row last ((place, descending) :: keys) = .ok .gt := by
  cases descending with
  | false =>
      have compared := Value.null_order? comesFirst
      rw [← show valueAt place row = .null from comesLast] at compared
      exact compareRows_of_ne inside compared nofun
  | true =>
      have compared := Value.order?_null comesLast
      rw [← show valueAt place last = .null from not_not.mp comesFirst] at compared
      exact compareRows_of_ne inside compared nofun

theorem compareRows_lt (comesFirst : ¬ ComesLast place descending row)
    (comesLast : ComesLast place descending last) :
    compareRows row last ((place, descending) :: keys) = .ok .lt := by
  cases descending with
  | false =>
      have compared := Value.order?_null comesFirst
      rw [← show valueAt place last = .null from comesLast] at compared
      exact compareRows_of_ne inside compared nofun
  | true =>
      have compared := Value.null_order? comesLast
      rw [← show valueAt place row = .null from not_not.mp comesFirst] at compared
      exact compareRows_of_ne inside compared nofun

end FirstKey

/-- The rank of a row by the scale of its value, when some scales go in front of the others and NULL
stands where it does. -/
def scaleRank (place : Nat) (descending : Bool) (front : ValueKind → Bool) (row : Row) : Nat :=
  if valueAt place row = .null then if descending then 0 else 3
  else if front (valueAt place row).scale then 1 else 2

theorem scaleRank_of_present (present : valueAt place row ≠ .null) :
    scaleRank place descending front row = if front (valueAt place row).scale then 1 else 2 :=
  if_neg present

theorem scaleRank_le (comesFirst : ¬ ComesLast place descending left)
    (comesLast : ComesLast place descending right) :
    scaleRank place descending front left ≤ scaleRank place descending front right := by
  cases descending with
  | false =>
      have missing : valueAt place right = .null := comesLast
      rw [scaleRank_of_present comesFirst, scaleRank, if_pos missing]
      split <;> decide
  | true =>
      have missing : valueAt place left = .null := not_not.mp comesFirst
      rw [scaleRank, if_pos missing]
      exact Nat.zero_le _

/-- Rows whose values can be compared are of one rank, unless one of the two lacks a value. -/
theorem scaleRank_congr (comparable : (valueAt place left).Comparable (valueAt place right))
    (alike : ComesLast place descending left ↔ ComesLast place descending right) :
    scaleRank place descending front left = scaleRank place descending front right := by
  have missing : valueAt place left = .null ↔ valueAt place right = .null := by
    cases descending with
    | false => exact alike
    | true => exact not_iff_not.mp alike
  by_cases none : valueAt place left = .null
  · rw [scaleRank, scaleRank, if_pos none, if_pos (missing.mp none)]
  · have present := fun other => none (missing.mpr other)
    rw [scaleRank_of_present none, scaleRank_of_present present,
      (Value.comparable_iff none present).mp comparable]

/-- The answers of a sort about rows that can be compared agree with the ranks. -/
theorem scaleRank_le_of_before
    (compared : compareRows left right ((place, descending) :: keys) = .ok order) :
    (Before ((place, descending) :: keys) left right = true →
      scaleRank place descending front left ≤ scaleRank place descending front right) ∧
    (Before ((place, descending) :: keys) left right = false →
      scaleRank place descending front right ≤ scaleRank place descending front left) := by
  obtain ⟨inside, comparable⟩ := of_compareRows compared
  by_cases comesLast : ComesLast place descending left
  · by_cases alsoLast : ComesLast place descending right
    · have same : scaleRank place descending front left = scaleRank place descending front right :=
        scaleRank_congr comparable (iff_of_true comesLast alsoLast)
      exact ⟨fun _ => same.le, fun _ => same.ge⟩
    · refine ⟨fun before => ?_, fun _ => scaleRank_le alsoLast comesLast⟩
      rw [Comparing.places_eq_true_iff, compareRows_gt inside comesLast alsoLast] at before
      cases before
  · by_cases alsoLast : ComesLast place descending right
    · refine ⟨fun _ => scaleRank_le comesLast alsoLast, fun notBefore => ?_⟩
      have before : Before ((place, descending) :: keys) left right = true :=
        Comparing.places_eq_true_iff.mpr (compareRows_lt inside comesLast alsoLast)
      cases notBefore.symm.trans before
    · have same : scaleRank place descending front left = scaleRank place descending front right :=
        scaleRank_congr comparable (iff_of_false comesLast alsoLast)
      exact ⟨fun _ => same.le, fun _ => same.ge⟩

/-- The ranks with the answers of a sort, as far as rows can be compared. -/
def scaleRanking (place : Nat) (descending : Bool) (keys : List SortKey)
    (front : ValueKind → Bool) : StableSort.Ranking Row :=
  .ofRank (scaleRank place descending front)
    (fun left right =>
      match compareRows left right ((place, descending) :: keys) with
      | .ok _ => Before ((place, descending) :: keys) left right
      | .error _ => scaleRank place descending front left ≤ scaleRank place descending front right)
    (fun before => by
      split at before
      · next compared => exact (scaleRank_le_of_before compared).1 before
      · exact of_decide_eq_true before)
    (fun notBefore => by
      split at notBefore
      · next compared => exact (scaleRank_le_of_before compared).2 notBefore
      · exact Nat.le_of_not_le (of_decide_eq_false notBefore))

/-- Sorted rows are in the order of the ranks, whichever scales go in front. -/
theorem ordered_of_sortRows (done : sortRows ((place, descending) :: keys) rows = .ok sorted)
    (front : ValueKind → Bool) :
    sorted.Pairwise fun earlier later =>
      scaleRank place descending front earlier ≤ scaleRank place descending front later := by
  obtain ⟨run, compared⟩ := sortRows_eq_ok_iff.mp done
  have agree : ∀ question ∈ (StableSort.sort rows).questions (Before ((place, descending) :: keys)),
      (scaleRanking place descending keys front).less question.1 question.2 =
        Before ((place, descending) :: keys) question.1 question.2 := by
    intro question member
    obtain ⟨order, compared⟩ := compared question member
    simp only [scaleRanking, StableSort.Ranking.ofRank, compared]
  have ensures := StableSort.sort_ensures (scaleRanking place descending keys front) rows
  exact (ensures.run_eq.1 sorted ((Comparing.run_congr agree).1.trans run)).ordered

/-- Whether two rows have values on one side, as far as they have values. -/
def OnOneSide (place : Nat) (front : ValueKind → Bool) (left right : Row) : Prop :=
  valueAt place left ≠ .null → valueAt place right ≠ .null →
    front (valueAt place left).scale = front (valueAt place right).scale

instance (place : Nat) (front : ValueKind → Bool) : Std.Symm (OnOneSide place front) :=
  ⟨fun _ _ same present alsoPresent => (same alsoPresent present).symm⟩

/-- Where a row may not be behind another one whichever side goes in front, they are on one. -/
theorem onOneSide_of_scaleRank
    (inFront : scaleRank place descending front left ≤ scaleRank place descending front right)
    (behind : scaleRank place descending (! front ·) left ≤
      scaleRank place descending (! front ·) right) : OnOneSide place front left right := by
  intro present alsoPresent
  rw [scaleRank_of_present present, scaleRank_of_present alsoPresent] at inFront behind
  revert inFront behind
  cases front (valueAt place left).scale <;> cases front (valueAt place right).scale <;> decide

/-- **Rows that are sorted can be compared** by the first key, each with each. -/
theorem comparable_of_sortRows
    (done : sortRows ((place, descending) :: keys) rows = .ok sorted) :
    ∀ row ∈ rows, ∀ other ∈ rows, (valueAt place row).Comparable (valueAt place other) := by
  intro row member other otherMember
  by_contra incomparable
  obtain ⟨present, otherPresent⟩ := Value.present_of_not_comparable incomparable
  rw [Value.comparable_iff present otherPresent] at incomparable
  -- The scale of the one row goes in front of all others, and then behind them.
  let front (scale : ValueKind) : Bool := scale = (valueAt place row).scale
  have sides : sorted.Pairwise (OnOneSide place front) :=
    ((ordered_of_sortRows done front).and (ordered_of_sortRows done (! front ·))).imp
      fun ranks => onOneSide_of_scaleRank ranks.1 ranks.2
  have moved := sortRows_perm done
  have same := sides.forall_of_forall (fun _ _ _ _ => rfl) (moved.mem_iff.mpr member)
    (moved.mem_iff.mpr otherMember) present otherPresent
  simp only [front, decide_true] at same
  exact incomparable (of_decide_eq_true same.symm).symm

/-! ## Failure -/

/-- Rows that reach to every key fail to be compared only by values that have no order. -/
theorem refusal_of_compareRows (inside : ∀ key ∈ keys, key.1 < row.length)
    (alsoInside : ∀ key ∈ keys, key.1 < last.length)
    (failed : compareRows row last keys = .error fault) : Value.Refusal fault := by
  induction keys with
  | nil => cases failed
  | cons key keys ih =>
      obtain ⟨first, others⟩ := List.forall_mem_cons.mp inside
      obtain ⟨alsoFirst, alsoOthers⟩ := List.forall_mem_cons.mp alsoInside
      rw [compareRows_eq first alsoFirst] at failed
      rcases bind_eq_error_iff.mp failed with failed | ⟨order, -, failed⟩
      · exact Value.refusal_of_compare failed
      · cases order with
        | eq => exact ih others alsoOthers failed
        | lt | gt => cases failed

/-- Sorting fails for no other reason than values that have no order: it reports them, unless there
are many rows and it breaks off before. -/
theorem refusal_of_sortRows (inside : ∀ row ∈ rows, ∀ key ∈ keys, key.1 < row.length)
    (failed : sortRows keys rows = .error fault) :
    Value.Refusal fault ∨ fault = .panic ∧ 20 < rows.length := by
  rcases cases_of_sortRows failed with
    ⟨broken, panics⟩ | ⟨left, leftMember, right, rightMember, failed⟩
  · refine .inr ⟨panics, Nat.lt_of_not_le fun few => ?_⟩
    have ends := StableSort.isSome_sort_of_few few (Before keys)
    rw [broken] at ends
    cases ends
  · exact .inl (refusal_of_compareRows (inside left leftMember) (inside right rightMember) failed)

end SortKey

/-! ## Criteria -/

namespace Criteria

variable {criteria : Criteria} {mapping : EntityMapping} {rows kept : List Row}
  {first : OrderField} {more : List OrderField} {left right : Row} {leftValue rightValue : Value}
  {fault : Fault}

/-- **Rows without an order are never returned.**  If two of the rows that match have values in the
first order field that cannot be compared, wherever they stand, then the criteria fails, and the
window does not matter.  Its fault names two kinds of values that cannot be compared, unless more
than twenty rows match and sorting them breaks off. -/
theorem apply_of_incomparable (wide : ∀ row ∈ rows, row.length = mapping.width)
    (known : ∀ order ∈ criteria.order, (mapping.fieldIndex? order.field).isSome = true)
    (filtered : criteria.filter mapping rows = .ok kept)
    (ordered : criteria.order = first :: more) (leftMember : left ∈ kept)
    (rightMember : right ∈ kept) (leftRead : mapping.value left first.field = .ok leftValue)
    (rightRead : mapping.value right first.field = .ok rightValue)
    (refused : leftValue.compare rightValue = .error fault) :
    ∃ reported, criteria.apply mapping rows = .error reported ∧
      ((∃ one other : Value, one.order? other = none ∧
          reported = .typeMismatch (.incomparable one.kind other.kind)) ∨
        reported = .panic ∧ 20 < kept.length) := by
  obtain ⟨keys, placed⟩ := exists_keys known
  -- The first key is the place of the first field, where the two values stand.
  obtain ⟨place, others, located, -, rfl⟩ := keys_cons_iff.mp (ordered ▸ placed)
  have keptWide := wide_of_filter wide filtered
  rw [value_eq_valueAt (keptWide left leftMember) located, Except.ok.injEq] at leftRead
  rw [value_eq_valueAt (keptWide right rightMember) located, Except.ok.injEq] at rightRead
  subst leftRead rightRead
  cases sorting : SortKey.sortRows ((place, first.descending) :: others) kept with
  | ok sorted =>
      have comparable := SortKey.comparable_of_sortRows sorting left leftMember right rightMember
      exact absurd comparable (Value.not_comparable_of_compare refused)
  | error reported =>
      have inside : ∀ row ∈ kept, ∀ key ∈ (place, first.descending) :: others,
          key.1 < row.length := fun row member key keyMember =>
        (keptWide row member).symm ▸ lt_width_of_keys placed key keyMember
      refine ⟨reported, ?_, SortKey.refusal_of_sortRows inside sorting⟩
      have failed : criteria.sort mapping kept = .error _ :=
        bind_eq_error_iff.mpr (.inr ⟨_, placed, sorting⟩)
      rw [apply, filtered]
      exact bind_eq_error_iff.mpr (.inr ⟨kept, rfl, bind_eq_error_iff.mpr (.inl failed)⟩)

/-- Entries by a label that is a text in one row and a number in another, with rows without a label
between the two, of which only the second one is asked for. -/
theorem labels_have_no_order :
    let mapping := (EntityMapping.ofKey "Entry" "t_entry" "ent_id" 23).withField
      { field := "label", column := "ent_label", type := .text }
    let criteria : Criteria :=
      { order := [⟨"label", true⟩, ⟨"id", false⟩], start := 1, limit := some 1 }
    let rows : List Row :=
      [[.text "a", .text "one"], [.text "b", .null], [.text "c", .null], [.text "d", .integer 1]]
    (∀ row ∈ rows, row.length = mapping.width) ∧
      (Value.text "one").compare (.integer 1) =
        .error (.typeMismatch (.incomparable .text .integer)) ∧
      ∃ one other : Value, one.order? other = none ∧
        criteria.apply mapping rows =
          .error (.typeMismatch (.incomparable one.kind other.kind)) := by
  intro mapping criteria rows
  have wide : ∀ row ∈ rows, row.length = mapping.width := by decide
  have known : ∀ order ∈ criteria.order, (mapping.fieldIndex? order.field).isSome = true := by
    decide
  have filtered : criteria.filter mapping rows = .ok rows := rfl
  have first : [Value.text "a", .text "one"] ∈ rows := by decide
  have last : [Value.text "d", .integer 1] ∈ rows := by decide
  obtain ⟨reported, failed, ⟨one, other, unordered, rfl⟩ | ⟨-, many⟩⟩ :=
    apply_of_incomparable wide known filtered rfl first last rfl rfl rfl
  · exact ⟨wide, rfl, one, other, unordered, failed⟩
  · exact absurd many (by decide)

/-- Notes by number. -/
def numbered : EntityMapping :=
  (EntityMapping.ofKey "Note" "t_note" "nte_id" 23).withField
    { field := "n", column := "nte_n", type := .integer }

/-- Notes with the number three, then nine times two, a text, and eleven times one. -/
def longList : List Row :=
  let numbers : List Value :=
    [.integer 3] ++ .replicate 9 (.integer 2) ++ [.text "a"] ++ .replicate 11 (.integer 1)
  numbers.map fun number => [.text "k", number]

/-- The text counts as equal to every number, although the numbers differ, and the sort of this list
breaks off before it reports anything. -/
theorem long_list_breaks_off :
    (∀ row ∈ longList, row.length = numbered.width) ∧
      (Value.integer 3).compare (.text "a") =
        .error (.typeMismatch (.incomparable .integer .text)) ∧
      ({ order := [⟨"n", false⟩] } : Criteria).apply numbered longList = .error .panic := by
  decide

end Criteria

end EntityStore
