import EntityStore.Proofs.Aggregates
import EntityStore.Proofs.IncomparableRows

/-!
# The least and the greatest value

The least value of a field is found in one pass over the rows that are kept, which takes up
a value as soon as it comes before the best one so far.  The same value stands in the first
row when the rows that have a value are sorted by the field, and the greatest one when they
are sorted the other way round (`Selection.extreme_eq_first`).

Among values that tie, such as zero and minus zero, both take the first one of the rows.  That
is what makes an item the first of the least: all before it come after it in the order, and
none behind it comes before it (`FirstLeast`).  There is one such item
(`FirstLeast.unique`).  The pass keeps the first of the least of what it has seen
(`Aggregate.better_firstLeast`), and it is the head of every arrangement
(`Arranges.firstLeast`).

When two of the values cannot be compared, the pass meets a value that cannot be compared
with the best one so far, and all three fail.
-/

set_option autoImplicit false

namespace EntityStore

/-! ## The first of the least -/

/-- Whether an item is the first of those that no item of a list precedes. -/
def FirstLeast {α : Type} (cmp : α → α → Ordering) (items : List α) (least : α) : Prop :=
  ∃ before after, items = before ++ least :: after ∧ (∀ item ∈ before, cmp least item = .lt) ∧
    ∀ item ∈ after, ¬ cmp item least = .lt

section FirstLeast

variable {α : Type} {cmp : α → α → Ordering} {items tail : List α} {least other item head : α}

theorem FirstLeast.singleton (cmp : α → α → Ordering) (item : α) : FirstLeast cmp [item] item :=
  ⟨[], [], rfl, nofun, nofun⟩

theorem FirstLeast.mem (first : FirstLeast cmp items least) : least ∈ items := by
  obtain ⟨before, after, rfl, -, -⟩ := first
  exact List.mem_append_right before List.mem_cons_self

/-- **There is one first of the least.** -/
theorem FirstLeast.unique (first : FirstLeast cmp items least)
    (alsoFirst : FirstLeast cmp items other) : other = least := by
  obtain ⟨before, after, rfl, earlier, later⟩ := first
  obtain ⟨otherBefore, otherAfter, same, otherEarlier, otherLater⟩ := alsoFirst
  rcases List.append_eq_append_iff.mp same with ⟨between, rfl, split⟩ | ⟨between, rfl, split⟩
  · cases between with
    | nil => exact (List.cons_eq_cons.mp split).1.symm
    | cons head between =>
        -- The other one stands behind, so it would precede what precedes it.
        obtain ⟨rfl, rfl⟩ := List.cons_eq_cons.mp split
        exact absurd (otherEarlier least (by simp)) (later other (by simp))
  · cases between with
    | nil => exact (List.cons_eq_cons.mp split).1
    | cons head between =>
        obtain ⟨rfl, rfl⟩ := List.cons_eq_cons.mp split
        exact absurd (earlier other (by simp)) (otherLater least (by simp))

/-- An item that does not precede the first of the least comes behind it. -/
theorem FirstLeast.append_of_not_lt (first : FirstLeast cmp items least)
    (behind : ¬ cmp item least = .lt) : FirstLeast cmp (items ++ [item]) least := by
  obtain ⟨before, after, rfl, earlier, later⟩ := first
  refine ⟨before, after ++ [item], by simp, earlier, fun other member => ?_⟩
  rcases List.mem_append.mp member with member | member
  · exact later other member
  · cases List.mem_singleton.mp member
    exact behind

variable [Std.TransCmp cmp]

/-- An item that precedes the first of the least precedes all. -/
theorem FirstLeast.append_of_lt (first : FirstLeast cmp items least)
    (precedes : cmp item least = .lt) : FirstLeast cmp (items ++ [item]) item := by
  obtain ⟨before, after, rfl, earlier, later⟩ := first
  refine ⟨before ++ least :: after, [], rfl, fun other member => ?_, nofun⟩
  rcases List.mem_append.mp member with member | member
  · exact Std.TransCmp.lt_trans precedes (earlier other member)
  · rcases List.mem_cons.mp member with rfl | member
    · exact precedes
    · have notBefore : (cmp least other).isLE = true := by
        have swapped : cmp least other = (cmp other least).swap := Std.OrientedCmp.eq_swap
        have kept := later other member
        rw [swapped]
        cases found : cmp other least with
        | lt => exact absurd found kept
        | eq | gt => rfl
      exact Std.TransCmp.lt_of_lt_of_isLE precedes notBefore

/-- **An arrangement begins with the first of the least.** -/
theorem Arranges.firstLeast
    (arranges : Arranges (cmp · · = .lt) (cmp · · = .eq) items (head :: tail)) :
    FirstLeast cmp items head := by
  have self : cmp head head = .eq := Std.ReflCmp.compare_self
  have tied := arranges.ties head (arranges.perm.subset List.mem_cons_self)
  have first : items.find? (fun other => cmp head other = .eq) = some head := by
    rw [← List.head?_filter, ← tied, List.filter_cons, if_pos (decide_eq_true self)]
    rfl
  obtain ⟨-, before, after, rfl, unlike⟩ := List.find?_eq_some_iff_append.mp first
  have least (item : α) (member : item ∈ before ++ head :: after) : ¬ cmp item head = .lt :=
    not_lt_head arranges.ordered (arranges.perm.mem_iff.mpr member)
  refine ⟨before, after, rfl, fun item member => ?_,
    fun item member => least item (by simp [member])⟩
  have differs : ¬ cmp head item = .eq := by simpa using unlike item member
  have swapped : cmp item head = (cmp head item).swap := Std.OrientedCmp.eq_swap
  have notBefore := least item (List.mem_append_left _ member)
  rw [swapped] at notBefore
  cases found : cmp head item with
  | lt => rfl
  | eq => exact absurd found differs
  | gt => exact absurd (by rw [found]; rfl) notBefore

end FirstLeast

/-! ## One pass over values -/

namespace Aggregate

variable {α : Type} {cmp : α → α → Ordering} {image : α → Value} {wanted : Ordering}
  {items passed : List α} {best : α} {values : List Value} {value answer : Value} {fault : Fault}

/-- One step of the pass: the better one of the best value so far and the next. -/
def better (wanted : Ordering) (best value : Value) : Except Fault Value := do
  return if (← value.compare best) = wanted then value else best

theorem extreme_cons (wanted : Ordering) (first : Value) (others : List Value) :
    extreme wanted (first :: others) = others.foldlM (better wanted) first := rfl

/-- Whether the values of items can be compared, and are in the wanted direction exactly when the
items are in order. -/
def Directs (cmp : α → α → Ordering) (image : α → Value) (wanted : Ordering) (items : List α) :
    Prop :=
  ∀ left ∈ items, ∀ right ∈ items, ∃ order, (image left).compare (image right) = .ok order ∧
    (order = wanted ↔ cmp left right = .lt)

section Pass

variable [Std.TransCmp cmp]

/-- **What one step keeps**: the best value is that of the first of the least so far. -/
theorem better_firstLeast {item : α} (first : FirstLeast cmp passed best)
    (directs : ∃ order, (image item).compare (image best) = .ok order ∧
      (order = wanted ↔ cmp item best = .lt)) :
    ∃ next, better wanted (image best) (image item) = .ok (image next) ∧
      FirstLeast cmp (passed ++ [item]) next := by
  obtain ⟨order, compared, whether⟩ := directs
  rw [better, compared]
  by_cases precedes : cmp item best = .lt
  · exact ⟨item, congrArg Except.ok (if_pos (whether.mpr precedes)), first.append_of_lt precedes⟩
  · exact ⟨best, congrArg Except.ok (if_neg fun same => precedes (whether.mp same)),
      first.append_of_not_lt precedes⟩

theorem foldlM_firstLeast (directs : Directs cmp image wanted (passed ++ items))
    (first : FirstLeast cmp passed best) :
    ∃ least, (items.map image).foldlM (better wanted) (image best) = .ok (image least) ∧
      FirstLeast cmp (passed ++ items) least := by
  induction items generalizing passed best with
  | nil => exact ⟨best, rfl, by rwa [List.append_nil]⟩
  | cons item items ih =>
      obtain ⟨next, stepped, nextFirst⟩ := better_firstLeast first
        (directs item (by simp) best (List.mem_append_left _ first.mem))
      rw [List.append_cons] at directs ⊢
      obtain ⟨least, done, leastFirst⟩ := ih directs nextFirst
      exact ⟨least, by rw [List.map_cons, List.foldlM_cons, stepped]; exact done, leastFirst⟩

/-- **The pass answers the value of the first of the least.** -/
theorem extreme_firstLeast (directs : Directs cmp image wanted items) (some : items ≠ []) :
    ∃ least, extreme wanted (items.map image) = .ok (image least) ∧
      FirstLeast cmp items least := by
  obtain ⟨first, others, rfl⟩ := List.exists_cons_of_ne_nil some
  exact foldlM_firstLeast directs (.singleton cmp first)

/-- **The pass answers the value that an arrangement begins with**, and NULL when there is none. -/
theorem extreme_of_arranges {sorted : List α} (directs : Directs cmp image wanted items)
    (present : ∀ item ∈ items, image item ≠ .null)
    (arranges : Arranges (cmp · · = .lt) (cmp · · = .eq) items sorted) :
    ∃ value, extreme wanted (items.map image) = .ok value ∧
      (∀ first ∈ sorted.head?, image first = value) ∧ (value = .null ↔ sorted = []) := by
  cases sorted with
  | nil =>
      obtain rfl := arranges.perm.nil_eq
      exact ⟨.null, rfl, nofun, iff_of_true rfl rfl⟩
  | cons head tail =>
      have some : items ≠ [] := fun empty => by simpa [empty] using arranges.perm
      obtain ⟨least, answered, first⟩ := extreme_firstLeast directs some
      obtain rfl := first.unique arranges.firstLeast
      refine ⟨image head, answered, fun other isHead => ?_, iff_of_false ?_ nofun⟩
      · cases isHead
        rfl
      · exact present head first.mem

end Pass

/-! ## Values that cannot be compared -/

/-- A pass that comes to an end has compared all values with each other, by way of the best one. -/
theorem comparable_of_foldlM {best : Value} (present : ∀ value ∈ values, value ≠ .null)
    (done : values.foldlM (better wanted) best = .ok answer) :
    ∀ value ∈ values, value.Comparable best := by
  induction values generalizing best with
  | nil => exact nofun
  | cons value values ih =>
      obtain ⟨valuePresent, othersPresent⟩ := List.forall_mem_cons.mp present
      rw [List.foldlM_cons, bind_eq_ok_iff] at done
      obtain ⟨next, stepped, done⟩ := done
      obtain ⟨order, compared, chosen⟩ := bind_eq_ok_iff.mp stepped
      have first := Value.comparable_of_compare compared
      have others := ih othersPresent done
      refine List.forall_mem_cons.mpr ⟨first, fun other member => ?_⟩
      have comparable := others other member
      obtain rfl := Except.ok.inj chosen
      split at comparable
      · exact comparable.trans first valuePresent
      · exact comparable

theorem refusal_of_foldlM {best : Value}
    (failed : values.foldlM (better wanted) best = .error fault) : Value.Refusal fault := by
  induction values generalizing best with
  | nil => cases failed
  | cons value values ih =>
      rw [List.foldlM_cons] at failed
      rcases bind_eq_error_iff.mp failed with failed | ⟨next, -, failed⟩
      · rcases bind_eq_error_iff.mp failed with failed | ⟨order, -, failed⟩
        · exact Value.refusal_of_compare failed
        · cases failed
      · exact ih failed

/-- **The pass fails over values that cannot be compared**, wherever they stand. -/
theorem extreme_of_incomparable {left right : Value} (present : ∀ value ∈ values, value ≠ .null)
    (leftMember : left ∈ values) (rightMember : right ∈ values)
    (incomparable : ¬ left.Comparable right) (wanted : Ordering) :
    ∃ fault, Value.Refusal fault ∧ extreme wanted values = .error fault := by
  cases values with
  | nil => cases leftMember
  | cons first others =>
      obtain ⟨firstPresent, othersPresent⟩ := List.forall_mem_cons.mp present
      rw [extreme_cons]
      cases pass : others.foldlM (better wanted) first with
      | error fault => exact ⟨fault, refusal_of_foldlM pass, rfl⟩
      | ok answer =>
          have comparable : ∀ value ∈ first :: others, value.Comparable first :=
            List.forall_mem_cons.mpr ⟨.refl first, comparable_of_foldlM othersPresent pass⟩
          exact absurd ((comparable left leftMember).trans (comparable right rightMember).symm
            firstPresent) incomparable

end Aggregate

/-! ## Rows sorted by one field -/

namespace SortKey

open Criteria (valueAt)

/-- Rows with values that cannot be compared are not sorted by them. -/
theorem sortRows_of_incomparable {place : Nat} {descending : Bool} {keys : List SortKey}
    {rows : List Row} {left right : Row}
    (inside : ∀ row ∈ rows, ∀ key ∈ (place, descending) :: keys, key.1 < row.length)
    (leftMember : left ∈ rows) (rightMember : right ∈ rows)
    (incomparable : ¬ (valueAt place left).Comparable (valueAt place right)) :
    ∃ fault, sortRows ((place, descending) :: keys) rows = .error fault ∧
      (Value.Refusal fault ∨ fault = .panic ∧ 20 < rows.length) := by
  cases sorting : sortRows ((place, descending) :: keys) rows with
  | error fault => exact ⟨fault, rfl, refusal_of_sortRows inside sorting⟩
  | ok sorted =>
      exact absurd (comparable_of_sortRows sorting left leftMember right rightMember) incomparable

end SortKey

namespace Criteria

variable {mapping : EntityMapping} {field : String} {place : Nat} {row : Row}
  {rows kept : List Row} {restrictions : List Restriction} {restriction : Restriction}

/-- The criteria that asks for the rows that match and have a value of a field, sorted by it. -/
def presentBy (restrictions : List Restriction) (field : String) (descending : Bool) : Criteria :=
  { ({ restrictions } : Criteria).add (.isNotNull field) with order := [⟨field, descending⟩] }

theorem mem_present_iff :
    row ∈ rows.filter (fun row => !(valueAt place row).isNull) ↔
      row ∈ rows ∧ valueAt place row ≠ .null := by
  rw [List.mem_filter, Bool.not_eq_true', Bool.eq_false_iff, ne_eq, Value.isNull_iff]

theorem acceptsAll_append {accepted also : Bool}
    (done : acceptsAll mapping row restrictions = .ok accepted)
    (last : restriction.accepts mapping row = .ok also) :
    acceptsAll mapping row (restrictions ++ [restriction]) = .ok (accepted && also) := by
  induction restrictions with
  | nil =>
      cases done
      rw [List.nil_append, acceptsAll, last]
      cases also <;> rfl
  | cons first restrictions ih =>
      obtain ⟨holds, evaluated, rest⟩ := bind_eq_ok_iff.mp done
      rw [List.cons_append, acceptsAll, evaluated]
      cases holds with
      | false =>
          cases rest
          rfl
      | true => exact ih rest

/-- One more restriction is a test of the rows that are kept. -/
theorem filter_add {criteria : Criteria} {keeps : Row → Bool}
    (filtered : criteria.filter mapping rows = .ok kept)
    (tests : ∀ row ∈ rows, restriction.accepts mapping row = .ok (keeps row)) :
    (criteria.add restriction).filter mapping rows = .ok (kept.filter keeps) := by
  have both := filterM_eq fun row member =>
    acceptsAll_append (acceptsAll_of_filter filtered member) (tests row member)
  rw [eq_of_filter filtered, List.filter_filter]
  simp only [Bool.and_comm (keeps _)]
  exact both

/-- Of the rows that match, those with a value of the field are sorted. -/
theorem apply_presentBy (wide : ∀ row ∈ rows, row.length = mapping.width)
    (found : mapping.fieldIndex? field = some place)
    (filtered : ({ restrictions } : Criteria).filter mapping rows = .ok kept)
    (descending : Bool) :
    (presentBy restrictions field descending).apply mapping rows =
      SortKey.sortRows [(place, descending)]
        (kept.filter fun row => !(valueAt place row).isNull) := by
  have tests : ∀ row ∈ rows, (Restriction.isNotNull field).accepts mapping row =
      .ok (!(valueAt place row).isNull) := by
    intro row member
    rw [Restriction.accepts, Restriction.evaluate, value_eq_valueAt (wide row member) found]
    cases valueAt place row <;> rfl
  have kept : (presentBy restrictions field descending).filter mapping rows = .ok _ :=
    filter_add filtered tests
  have placed : (presentBy restrictions field descending).order.mapM (sortKey mapping) =
      .ok [(place, descending)] := keys_cons_iff.mpr ⟨place, [], found, rfl, rfl⟩
  rw [apply, kept]
  dsimp only [bind, Except.bind]
  rw [sort, placed]
  dsimp only [bind, Except.bind]
  cases SortKey.sortRows [(place, descending)] _ with
  | error fault => rfl
  | ok sorted => rfl

/-- Rows with values of one kind are sorted by them, and the head is the first of the least. -/
theorem exists_sorted {kind : ValueKind} (found : mapping.fieldIndex? field = some place)
    (wide : ∀ row ∈ rows, row.length = mapping.width)
    (fits : ∀ row ∈ rows, ∀ value, mapping.value row field = .ok value → value.Fits kind)
    (descending : Bool) :
    ∃ cmp : Row → Row → Ordering, Std.TransCmp cmp ∧
      Aggregate.Directs cmp (valueAt place) (if descending then .gt else .lt) rows ∧
      ∃ sorted, SortKey.sortRows [(place, descending)] rows = .ok sorted ∧
        Arranges (cmp · · = .lt) (cmp · · = .eq) rows sorted := by
  let order : OrderField := ⟨field, descending⟩
  obtain ⟨cmp, trans, agrees⟩ :=
    exists_order_of_field (show mapping.fieldIndex? order.field = some place from found) wide fits
  refine ⟨cmp, trans, fun left member right otherMember => ?_, SortKey.sortRows_arranges ?_⟩
  · refine ⟨_, (agrees left member right otherMember).2, ?_⟩
    cases descending with
    | false => exact Iff.rfl
    | true => cases cmp left right <;> simp
  · intro left member right otherMember
    have compared := compareRows_cons (lt_length_of_fieldIndex? (wide left member) found)
      (lt_length_of_fieldIndex? (wide right otherMember) found)
      (agrees left member right otherMember).2
      (show SortKey.compareRows left right [] = .ok .eq from rfl)
    rwa [Ordering.then_eq] at compared

end Criteria

/-! ## Selecting the least or the greatest value -/

/-- The least value of a field, or the greatest one. -/
def SelectionItem.extreme (field : String) : Bool → SelectionItem
  | false => .least field
  | true => .greatest field

namespace Selection

open Criteria (valueAt presentBy value_eq_valueAt wide_of_filter mem_present_iff
  lt_length_of_fieldIndex?)

variable {mapping : EntityMapping} {field : String} {place : Nat} {rows kept : List Row}
  {restrictions : List Restriction}

/-- The least or the greatest value is that of a pass over the values of the rows that are kept and
have one. -/
theorem apply_extreme (wide : ∀ row ∈ rows, row.length = mapping.width)
    (found : mapping.fieldIndex? field = some place)
    (filtered : ({ restrictions } : Criteria).filter mapping rows = .ok kept)
    (descending : Bool) :
    ({ criteria := { restrictions }, items := [.extreme field descending] } : Selection).apply
        mapping rows =
      (Aggregate.extreme (if descending then .gt else .lt)
        ((kept.filter fun row => !(valueAt place row).isNull).map (valueAt place))).map
          fun value => [[value]] := by
  have reads : ∀ row ∈ kept, mapping.value row field = .ok (valueAt place row) :=
    fun row member => value_eq_valueAt (wide_of_filter wide filtered row member) found
  have present := Aggregate.present_eq reads
  rw [List.filter_map] at present
  have aggregate : (SelectionItem.extreme field descending).isAggregate = true := by
    cases descending <;> rfl
  rw [apply_aggregate rfl aggregate filtered]
  cases descending with
  | false => rw [SelectionItem.extreme, Aggregate.evaluate, present]; rfl
  | true => rw [SelectionItem.extreme, Aggregate.evaluate, present]; rfl

/-- **The least value is that of the first sorted row, and the greatest that of the first row when
the order falls.**  The rows that match are sorted by the field without those that have no value
of it.  If their values are of one kind, the selection answers the value of the first of them,
and NULL exactly when there is none.  If two of the values cannot be compared, the selection and
the criteria both fail, and say so, unless there are more than twenty rows and sorting them breaks
off. -/
theorem extreme_eq_first (wide : ∀ row ∈ rows, row.length = mapping.width)
    (known : (mapping.fieldIndex? field).isSome = true)
    (filtered : ({ restrictions } : Criteria).filter mapping rows = .ok kept)
    (descending : Bool) :
    let sorting := presentBy restrictions field descending
    let selection : Selection :=
      { criteria := { restrictions }, items := [.extreme field descending] }
    ((∃ kind, ∀ row ∈ kept, ∀ value, mapping.value row field = .ok value → value.Fits kind) →
      ∃ sorted value, sorting.apply mapping rows = .ok sorted ∧
        selection.apply mapping rows = .ok [[value]] ∧
        (∀ first ∈ sorted.head?, mapping.value first field = .ok value) ∧
        (value = .null ↔ sorted = [])) ∧
    ∀ left ∈ kept, ∀ right ∈ kept, ∀ leftValue rightValue fault,
      mapping.value left field = .ok leftValue → mapping.value right field = .ok rightValue →
      leftValue.compare rightValue = .error fault →
        (∃ fault, sorting.apply mapping rows = .error fault ∧
          (Value.Refusal fault ∨ fault = .panic ∧ 20 < kept.length)) ∧
        ∃ fault, Value.Refusal fault ∧ selection.apply mapping rows = .error fault := by
  intro sorting selection
  obtain ⟨place, found⟩ := Option.isSome_iff_exists.mp known
  have keptWide := wide_of_filter wide filtered
  have sorts := Criteria.apply_presentBy wide found filtered descending
  have selects := apply_extreme wide found filtered descending
  constructor
  · rintro ⟨kind, fits⟩
    obtain ⟨cmp, _, directs, sorted, done, arranges⟩ := Criteria.exists_sorted found
      (fun row member => keptWide row (mem_present_iff.mp member).1)
      (fun row member => fits row (mem_present_iff.mp member).1) descending
    obtain ⟨value, answered, ofFirst, isNull⟩ :=
      Aggregate.extreme_of_arranges directs (fun _ member => (mem_present_iff.mp member).2) arranges
    refine ⟨sorted, value, sorts.trans done, ?_, fun first isHead => ?_, isNull⟩
    · rw [selects, answered]
      rfl
    · have member := arranges.perm.subset (List.mem_of_mem_head? isHead)
      have wideEnough := keptWide first (mem_present_iff.mp member).1
      rw [value_eq_valueAt wideEnough found, ofFirst first isHead]
  · intro left leftMember right rightMember leftValue rightValue fault leftRead rightRead refused
    rw [value_eq_valueAt (keptWide left leftMember) found, Except.ok.injEq] at leftRead
    rw [value_eq_valueAt (keptWide right rightMember) found, Except.ok.injEq] at rightRead
    subst leftRead rightRead
    have incomparable := Value.not_comparable_of_compare refused
    obtain ⟨present, alsoPresent⟩ := Value.present_of_not_comparable incomparable
    have leftPresent := mem_present_iff.mpr ⟨leftMember, present⟩
    have rightPresent := mem_present_iff.mpr ⟨rightMember, alsoPresent⟩
    constructor
    · have inside : ∀ row ∈ kept.filter fun row => !(valueAt place row).isNull,
          ∀ key ∈ [(place, descending)], key.1 < row.length := fun row member =>
        List.forall_mem_singleton.mpr
          (lt_length_of_fieldIndex? (keptWide row (mem_present_iff.mp member).1) found)
      obtain ⟨fault, failed, refusal⟩ :=
        SortKey.sortRows_of_incomparable inside leftPresent rightPresent incomparable
      refine ⟨fault, sorts.trans failed, refusal.imp_right fun panics => ⟨panics.1, ?_⟩⟩
      exact Nat.lt_of_lt_of_le panics.2 (List.length_filter_le ..)
    · obtain ⟨fault, refusal, failed⟩ := Aggregate.extreme_of_incomparable
        (List.forall_mem_map.mpr fun _ member => (mem_present_iff.mp member).2)
        (List.mem_map_of_mem leftPresent) (List.mem_map_of_mem rightPresent) incomparable
        (if descending then .gt else .lt)
      refine ⟨fault, refusal, ?_⟩
      rw [selects, failed]
      rfl

/-- Of zero and minus zero, which tie, the first is the least weight and stands first, before a NaN;
and there is no greatest one of a text and a number. -/
theorem zero_is_least :
    let mapping := (EntityMapping.ofKey "Reading" "t_reading" "rdg_id" 23).withField
      { field := "weight", column := "rdg_weight", type := .float }
    let rows : List Row :=
      [[.text "a", .null], [.text "b", .float .zero], [.text "c", .float ⟨0x8000000000000000⟩],
        [.text "d", .float .nan]]
    let mixed : List Row := [[.text "a", .text "one"], [.text "b", .null], [.text "c", .integer 1]]
    (∃ sorted, (presentBy [] "weight" false).apply mapping rows = .ok sorted ∧
      ({ items := [.least "weight"] } : Selection).apply mapping rows = .ok [[.float .zero]] ∧
      ∀ first ∈ sorted.head?, mapping.value first "weight" = .ok (.float .zero)) ∧
    ∃ fault, Value.Refusal fault ∧
      ({ items := [.greatest "weight"] } : Selection).apply mapping mixed = .error fault := by
  intro mapping rows mixed
  have wide : ∀ row ∈ rows, row.length = mapping.width := by decide
  have mixedWide : ∀ row ∈ mixed, row.length = mapping.width := by decide
  have filtered : ({ restrictions := [] } : Criteria).filter mapping rows = .ok rows := rfl
  have mixedFiltered : ({ restrictions := [] } : Criteria).filter mapping mixed = .ok mixed := rfl
  have known : (mapping.fieldIndex? "weight").isSome = true := rfl
  have floats := Criteria.fits_of_valueAt wide
    (show mapping.fieldIndex? "weight" = some 1 from rfl)
    (show ∀ row ∈ rows, (valueAt 1 row).Fits .float by decide)
  obtain ⟨ofKind, -⟩ := extreme_eq_first wide known filtered false
  obtain ⟨sorted, value, sorts, selects, ofFirst, -⟩ := ofKind ⟨.float, floats⟩
  have least : ({ items := [.least "weight"] } : Selection).apply mapping rows =
      .ok [[.float .zero]] := rfl
  cases selects.symm.trans least
  have text : [Value.text "a", .text "one"] ∈ mixed := by decide
  have number : [Value.text "c", .integer 1] ∈ mixed := by decide
  obtain ⟨-, ofMixed⟩ := extreme_eq_first mixedWide known mixedFiltered true
  obtain ⟨-, fails⟩ := ofMixed _ text _ number _ _ _ rfl rfl rfl
  exact ⟨⟨sorted, sorts, selects, ofFirst⟩, fails⟩

/-- Of a long list with a text among numbers there is no least number, and the selection says so;
but sorting the list by number breaks off. -/
theorem long_list_has_no_first :
    (presentBy [] "n" false).apply Criteria.numbered Criteria.longList = .error .panic ∧
      ({ items := [.least "n"] } : Selection).apply Criteria.numbered Criteria.longList =
        .error (.typeMismatch (.incomparable .text .integer)) := by
  decide

end Selection

end EntityStore
