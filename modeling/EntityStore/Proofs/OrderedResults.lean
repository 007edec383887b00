import EntityStore.Proofs.StableSorting

/-!
# What a criteria returns, and in which order

One order field compares two rows by their values of the field, and the other way round
when it falls.  Several fields compare them by the first one in which they differ: a row
precedes another when it comes first there (`Criteria.Precedes`), and the two tie when
they differ in none (`Criteria.Ties`).

As long as the values of each order field are of one kind, NULL apart, all rows can be
compared and their order is transitive (`Criteria.exists_order`).  So there is one
arrangement of the rows that match, and a criteria returns the window of it
(`Criteria.apply_returns_window`).
-/

set_option autoImplicit false

namespace EntityStore

/-! ## Values of one kind -/

namespace Value

/-- Whether a value is missing or of a given kind. -/
def Fits (kind : ValueKind) (value : Value) : Prop := value = .null ∨ value.kind = kind

instance (kind : ValueKind) (value : Value) : Decidable (value.Fits kind) :=
  inferInstanceAs (Decidable (_ ∨ _))

theorem transCmp_on {α β : Type} (cmp : β → β → Ordering) [Std.TransCmp cmp] (image : α → β) :
    Std.TransCmp fun left right => cmp (image left) (image right) where
  eq_swap := Std.OrientedCmp.eq_swap
  isLE_trans := Std.TransCmp.isLE_trans

theorem null_order? {value : Value} (present : value ≠ .null) :
    Value.null.order? value = some .gt := by
  cases value with
  | null => exact absurd rfl present
  | integer | float | text | boolean => rfl

theorem order?_null {value : Value} (present : value ≠ .null) :
    value.order? .null = some .lt := by
  cases value with
  | null => exact absurd rfl present
  | integer | float | text | boolean => rfl

/-- Values that are compared by a part of them have a transitive order, with NULL last. -/
theorem exists_order_of_part {kind : ValueKind} {α : Type} [Ord α] [Std.TransOrd α]
    (part : Value → α)
    (decides : ∀ left right : Value, left.kind = kind → right.kind = kind → kind ≠ .null →
      left.order? right = some (Ord.compare (part left) (part right))) :
    ∃ cmp : Value → Value → Ordering, Std.TransCmp cmp ∧
      ∀ left right, left.Fits kind → right.Fits kind →
        left.order? right = some (cmp left right) := by
  refine ⟨compareLex (compareOn isNull) (compareOn part), inferInstance,
    fun left right fits alsoFits => ?_⟩
  rw [compareLex, compareOn, compareOn]
  by_cases missing : left = .null
  · by_cases alsoMissing : right = .null
    · have self : Ord.compare (part .null) (part .null) = .eq := Std.ReflCmp.compare_self
      rw [missing, alsoMissing, self]
      rfl
    · rw [missing, null_order? alsoMissing, isNull_eq_false alsoMissing]
      rfl
  · by_cases alsoMissing : right = .null
    · rw [alsoMissing, order?_null missing, isNull_eq_false missing]
      rfl
    · have known := fits.resolve_left missing
      have present : kind ≠ .null := by
        rintro rfl
        cases left with
        | null => exact missing rfl
        | integer | float | text | boolean => cases known
      rw [isNull_eq_false missing, isNull_eq_false alsoMissing,
        decides left right known (alsoFits.resolve_left alsoMissing) present]
      rfl

/-- Values of one kind, and NULL, have a transitive order. -/
theorem exists_order (kind : ValueKind) :
    ∃ cmp : Value → Value → Ordering, Std.TransCmp cmp ∧
      ∀ left right, left.Fits kind → right.Fits kind →
        left.order? right = some (cmp left right) := by
  cases kind with
  | null => exact exists_order_of_part isNull fun _ _ _ _ other => absurd rfl other
  | integer =>
      refine exists_order_of_part (fun value => (value.integer?.getD 0).toInt)
        fun left right is also _ => ?_
      cases left <;> cases is
      cases right <;> cases also
      rfl
  | float =>
      refine exists_order_of_part (fun value => (value.float?.getD .zero).orderKey)
        fun left right is also _ => ?_
      cases left <;> cases is
      cases right <;> cases also
      rfl
  | text =>
      refine exists_order_of_part (fun value => value.text?.getD "")
        fun left right is also _ => ?_
      cases left <;> cases is
      cases right <;> cases also
      rfl
  | boolean =>
      refine exists_order_of_part (fun value => value.boolean?.getD false)
        fun left right is also _ => ?_
      cases left <;> cases is
      cases right <;> cases also
      rfl

end Value

/-! ## The order of rows -/

/-- The order of two rows by one field: the order of its values, turned around when it falls. -/
def OrderField.order? (mapping : EntityMapping) (order : OrderField) (left right : Row) :
    Option Ordering :=
  match mapping.value left order.field, mapping.value right order.field with
  | .ok leftValue, .ok rightValue =>
      (leftValue.order? rightValue).map fun found =>
        if order.descending then found.swap else found
  | _, _ => none

namespace Criteria

/-- Whether a row comes first by the first of several fields in which it differs from another. -/
def Precedes (mapping : EntityMapping) (fields : List OrderField) (left right : Row) : Prop :=
  ∃ before order after, fields = before ++ order :: after ∧
    (∀ earlier ∈ before, earlier.order? mapping left right = some .eq) ∧
    order.order? mapping left right = some .lt

/-- Whether two rows differ in none of several fields. -/
def Ties (mapping : EntityMapping) (fields : List OrderField) (left right : Row) : Prop :=
  ∀ order ∈ fields, order.order? mapping left right = some .eq

instance (mapping : EntityMapping) (fields : List OrderField) :
    DecidableRel (Ties mapping fields) :=
  fun _ _ => inferInstanceAs (Decidable (∀ order ∈ fields, _ = _))

section Rows

variable {mapping : EntityMapping} {fields : List OrderField} {keys : List SortKey}
  {rows : List Row} {left right : Row}

theorem precedes_cons_iff {order : OrderField} :
    Precedes mapping (order :: fields) left right ↔
      order.order? mapping left right = some .lt ∨
        (order.order? mapping left right = some .eq ∧ Precedes mapping fields left right) := by
  constructor
  · rintro ⟨before, decisive, after, same, equal, less⟩
    cases before with
    | nil =>
        obtain ⟨rfl, rfl⟩ := List.cons_eq_cons.mp same
        exact .inl less
    | cons first before =>
        obtain ⟨rfl, rfl⟩ := List.cons_eq_cons.mp same
        obtain ⟨firstEqual, others⟩ := List.forall_mem_cons.mp equal
        exact .inr ⟨firstEqual, before, decisive, after, rfl, others, less⟩
  · rintro (less | ⟨firstEqual, before, decisive, after, rfl, others, less⟩)
    · exact ⟨[], order, fields, rfl, nofun, less⟩
    · refine ⟨order :: before, decisive, after, rfl, ?_, less⟩
      exact List.forall_mem_cons.mpr ⟨firstEqual, others⟩

theorem not_precedes_nil : ¬ Precedes mapping [] left right := by
  rintro ⟨before, decisive, after, same, -, -⟩
  cases before <;> cases same

instance decidablePrecedes (mapping : EntityMapping) :
    (fields : List OrderField) → DecidableRel (Precedes mapping fields)
  | [] => fun _ _ => isFalse not_precedes_nil
  | _ :: fields => fun left right =>
      have := decidablePrecedes mapping fields left right
      decidable_of_iff _ precedes_cons_iff.symm

theorem ties_cons_iff {order : OrderField} :
    Ties mapping (order :: fields) left right ↔
      order.order? mapping left right = some .eq ∧ Ties mapping fields left right :=
  List.forall_mem_cons

theorem sortKey_eq_ok_iff {order : OrderField} {key : SortKey} :
    sortKey mapping order = .ok key ↔
      ∃ place, mapping.fieldIndex? order.field = some place ∧ (place, order.descending) = key := by
  rw [sortKey]
  cases mapping.fieldIndex? order.field <;> simp

/-- The first key is the place of the first field, and the others are those of the other fields. -/
theorem keys_cons_iff {order : OrderField} :
    (order :: fields).mapM (sortKey mapping) = .ok keys ↔
      ∃ place others, mapping.fieldIndex? order.field = some place ∧
        fields.mapM (sortKey mapping) = .ok others ∧
        (place, order.descending) :: others = keys := by
  rw [List.mapM_cons, bind_eq_ok_iff]
  constructor
  · rintro ⟨key, first, rest⟩
    obtain ⟨others, placed, done⟩ := bind_eq_ok_iff.mp rest
    obtain ⟨place, found, rfl⟩ := sortKey_eq_ok_iff.mp first
    exact ⟨place, others, found, placed, Except.ok.inj done⟩
  · rintro ⟨place, others, found, placed, rfl⟩
    exact ⟨_, sortKey_eq_ok_iff.mpr ⟨place, found, rfl⟩, bind_eq_ok_iff.mpr ⟨others, placed, rfl⟩⟩

/-- The value at a place of a row, and NULL behind its end. -/
def valueAt (place : Nat) (row : Row) : Value := row.getD place .null

theorem getElem?_eq_valueAt {row : Row} {place : Nat} (inside : place < row.length) :
    row[place]? = some (valueAt place row) := by
  rw [valueAt, List.getD_eq_getElem?_getD, List.getElem?_eq_getElem inside, Option.getD_some]

/-- A row as wide as the mapping has a place for each field. -/
theorem lt_length_of_fieldIndex? {row : Row} {field : String} {place : Nat}
    (wide : row.length = mapping.width) (found : mapping.fieldIndex? field = some place) :
    place < row.length := by
  rw [wide]
  exact (List.findIdx?_eq_some_iff_getElem.mp found).1

theorem value_eq_valueAt {row : Row} {field : String} {place : Nat}
    (wide : row.length = mapping.width) (found : mapping.fieldIndex? field = some place) :
    mapping.value row field = .ok (valueAt place row) := by
  simp only [EntityMapping.value, found,
    getElem?_eq_valueAt (lt_length_of_fieldIndex? wide found)]

/-- In rows as wide as the mapping, the values of a field are those at its place. -/
theorem fits_of_valueAt {field : String} {place : Nat} {kind : ValueKind}
    (wide : ∀ row ∈ rows, row.length = mapping.width)
    (found : mapping.fieldIndex? field = some place)
    (fits : ∀ row ∈ rows, (valueAt place row).Fits kind) :
    ∀ row ∈ rows, ∀ value, mapping.value row field = .ok value → value.Fits kind := by
  intro row member value read
  rw [value_eq_valueAt (wide row member) found] at read
  cases read
  exact fits row member

/-- Rows with a value at the place of the first key are compared by these values before others. -/
theorem compareRows_eq {place : Nat} {descending : Bool} (leftInside : place < left.length)
    (rightInside : place < right.length) :
    SortKey.compareRows left right ((place, descending) :: keys) = do
      let order ← (valueAt place left).compare (valueAt place right)
      if order = .eq then SortKey.compareRows left right keys
      else return if descending then order.swap else order := by
  rw [SortKey.compareRows, getElem?_eq_valueAt leftInside, getElem?_eq_valueAt rightInside]
  dsimp only
  cases (valueAt place left).compare (valueAt place right) with
  | error fault => rfl
  | ok order => cases order <;> rfl

/-- Rows that are equal at the first key are compared by the others. -/
theorem compareRows_cons {place : Nat} {descending : Bool} {first rest : Ordering}
    (leftInside : place < left.length) (rightInside : place < right.length)
    (compared : (valueAt place left).compare (valueAt place right) =
      .ok (if descending then first.swap else first))
    (restCompared : SortKey.compareRows left right keys = .ok rest) :
    SortKey.compareRows left right ((place, descending) :: keys) = .ok (first.then rest) := by
  rw [compareRows_eq leftInside rightInside, compared]
  cases first with
  | eq => cases descending <;> exact restCompared
  | lt | gt => cases descending <;> rfl

/-- The values of one field, all of one kind, give rows a transitive order. -/
theorem exists_order_of_field {order : OrderField} {place : Nat} {kind : ValueKind}
    (found : mapping.fieldIndex? order.field = some place)
    (wide : ∀ row ∈ rows, row.length = mapping.width)
    (fits : ∀ row ∈ rows, ∀ value,
      mapping.value row order.field = .ok value → value.Fits kind) :
    ∃ cmp : Row → Row → Ordering, Std.TransCmp cmp ∧
      ∀ left ∈ rows, ∀ right ∈ rows, order.order? mapping left right = some (cmp left right) ∧
        (valueAt place left).compare (valueAt place right) =
          .ok (if order.descending then (cmp left right).swap else cmp left right) := by
  obtain ⟨cmp, _, agrees⟩ := Value.exists_order kind
  refine ⟨fun left right => if order.descending then cmp (valueAt place right) (valueAt place left)
    else cmp (valueAt place left) (valueAt place right), ?trans,
    fun left leftMember right rightMember => ?_⟩
  case trans =>
    cases order.descending with
    | false => exact Value.transCmp_on cmp (valueAt place)
    | true => exact Value.transCmp_on (fun left right => cmp right left) (valueAt place)
  · have leftValue := value_eq_valueAt (wide left leftMember) found
    have rightValue := value_eq_valueAt (wide right rightMember) found
    have known :=
      agrees _ _ (fits left leftMember _ leftValue) (fits right rightMember _ rightValue)
    have swapped : cmp (valueAt place right) (valueAt place left) =
        (cmp (valueAt place left) (valueAt place right)).swap := Std.OrientedCmp.eq_swap
    rw [OrderField.order?, leftValue, rightValue]
    dsimp only
    rw [known, Value.compare, known, swapped]
    cases order.descending with
    | false => exact ⟨rfl, rfl⟩
    | true => exact ⟨rfl, congrArg _ Ordering.swap_swap.symm⟩

/-- **Rows whose values of each field are of one kind have a transitive order**, in which they are
compared by these fields. -/
theorem exists_order (known : fields.mapM (sortKey mapping) = .ok keys)
    (wide : ∀ row ∈ rows, row.length = mapping.width)
    (uniform : ∀ order ∈ fields, ∃ kind, ∀ row ∈ rows, ∀ value,
      mapping.value row order.field = .ok value → value.Fits kind) :
    ∃ cmp : Row → Row → Ordering, Std.TransCmp cmp ∧
      ∀ left ∈ rows, ∀ right ∈ rows,
        SortKey.compareRows left right keys = .ok (cmp left right) ∧
        (Precedes mapping fields left right ↔ cmp left right = .lt) ∧
        (Ties mapping fields left right ↔ cmp left right = .eq) := by
  induction fields generalizing keys with
  | nil =>
      cases known
      refine ⟨fun _ _ => .eq, { eq_swap := rfl, isLE_trans := fun _ _ => rfl },
        fun left _ right _ => ⟨rfl, ?_, ?_⟩⟩
      · exact iff_of_false not_precedes_nil nofun
      · exact iff_of_true nofun rfl
  | cons order fields ih =>
      obtain ⟨place, others, found, rest, rfl⟩ := keys_cons_iff.mp known
      obtain ⟨⟨kind, fits⟩, restUniform⟩ := List.forall_mem_cons.mp uniform
      obtain ⟨restCmp, _, restAgrees⟩ := ih rest restUniform
      obtain ⟨cmp, _, agrees⟩ := exists_order_of_field found wide fits
      refine ⟨compareLex cmp restCmp, inferInstance, fun left leftMember right rightMember => ?_⟩
      obtain ⟨ordered, compared⟩ := agrees left leftMember right rightMember
      obtain ⟨restCompared, restPrecedes, restTies⟩ := restAgrees left leftMember right rightMember
      rw [precedes_cons_iff, ties_cons_iff, ordered, restPrecedes, restTies, compareLex]
      have leftInside := lt_length_of_fieldIndex? (wide left leftMember) found
      have rightInside := lt_length_of_fieldIndex? (wide right rightMember) found
      refine ⟨compareRows_cons leftInside rightInside compared restCompared, ?_, ?_⟩
      · cases cmp left right <;> simp
      · cases cmp left right <;> simp

/-- By itself a field puts NULL behind every value, and in front of it when it falls. -/
theorem order?_of_null {order : OrderField} {value : Value}
    (missing : mapping.value left order.field = .ok .null)
    (found : mapping.value right order.field = .ok value) (present : value ≠ .null) :
    order.order? mapping left right = some (if order.descending then .lt else .gt) := by
  rw [OrderField.order?, missing, found]
  dsimp only
  rw [Value.null_order? present]
  cases order.descending <;> rfl

end Rows

/-! ## Rows that match -/

section Matching

variable {criteria : Criteria} {mapping : EntityMapping} {row : Row} {rows kept : List Row}

theorem tests_of_filterAuxM {ε α : Type} {test : α → Except ε Bool} {items before kept : List α}
    (done : List.filterAuxM test items before = .ok kept) :
    ∀ item ∈ items, ∃ keeps, test item = .ok keeps := by
  induction items generalizing before with
  | nil => exact nofun
  | cons item items ih =>
      obtain ⟨keeps, tested, rest⟩ := bind_eq_ok_iff.mp done
      exact List.forall_mem_cons.mpr ⟨⟨keeps, tested⟩, ih rest⟩

/-- A filter succeeds when each of its tests does. -/
theorem tests_of_filterM {ε α : Type} {test : α → Except ε Bool} {items kept : List α}
    (done : items.filterM test = .ok kept) : ∀ item ∈ items, ∃ keeps, test item = .ok keeps := by
  obtain ⟨_, filtered, -⟩ := bind_eq_ok_iff.mp done
  exact tests_of_filterAuxM filtered

theorem acceptsAll_iff {restrictions : List Restriction} {accepted : Bool}
    (done : acceptsAll mapping row restrictions = .ok accepted) :
    accepted = true ↔ ∀ restriction ∈ restrictions, restriction.accepts mapping row = .ok true := by
  induction restrictions with
  | nil =>
      cases done
      exact iff_of_true rfl nofun
  | cons restriction restrictions ih =>
      obtain ⟨first, evaluated, rest⟩ := bind_eq_ok_iff.mp done
      rw [List.forall_mem_cons, evaluated]
      cases first with
      | false =>
          cases rest
          simp
      | true => simpa using ih rest

/-- Under a filter that succeeds, a row passes exactly when it matches every restriction. -/
theorem acceptsAll_of_filter (filtered : criteria.filter mapping rows = .ok kept)
    (member : row ∈ rows) :
    acceptsAll mapping row criteria.restrictions =
      .ok (decide (∀ restriction ∈ criteria.restrictions,
        restriction.accepts mapping row = .ok true)) := by
  obtain ⟨accepted, done⟩ := tests_of_filterM filtered row member
  rw [done, Except.ok.injEq, Bool.eq_iff_iff, decide_eq_true_iff]
  exact acceptsAll_iff done

/-- What a filter keeps are the rows that match every restriction. -/
theorem eq_of_filter (filtered : criteria.filter mapping rows = .ok kept) :
    kept = rows.filter fun row =>
      ∀ restriction ∈ criteria.restrictions, restriction.accepts mapping row = .ok true := by
  have tests := filterM_eq fun row (member : row ∈ rows) => acceptsAll_of_filter filtered member
  exact (Except.ok.inj (tests.symm.trans filtered)).symm

/-- The rows that a filter keeps are as wide as they all are. -/
theorem wide_of_filter (wide : ∀ row ∈ rows, row.length = mapping.width)
    (filtered : criteria.filter mapping rows = .ok kept) :
    ∀ row ∈ kept, row.length = mapping.width := by
  rw [eq_of_filter filtered]
  exact fun row member => wide row (List.mem_filter.mp member).1

theorem exists_keys {fields : List OrderField}
    (known : ∀ order ∈ fields, (mapping.fieldIndex? order.field).isSome = true) :
    ∃ keys, fields.mapM (sortKey mapping) = .ok keys :=
  mapM_eq_ok fun order member =>
    let ⟨place, found⟩ := Option.isSome_iff_exists.mp (known order member)
    ⟨_, sortKey_eq_ok_iff.mpr ⟨place, found, rfl⟩⟩

theorem lt_width_of_keys {fields : List OrderField} {keys : List SortKey}
    (placed : fields.mapM (sortKey mapping) = .ok keys) :
    ∀ key ∈ keys, key.1 < mapping.width := by
  induction fields generalizing keys with
  | nil =>
      cases placed
      exact nofun
  | cons order fields ih =>
      obtain ⟨place, others, found, rest, rfl⟩ := keys_cons_iff.mp placed
      exact List.forall_mem_cons.mpr
        ⟨(List.findIdx?_eq_some_iff_getElem.mp found).1, ih rest⟩

theorem window_eq (criteria : Criteria) (sorted : List Row) :
    criteria.window sorted =
      (sorted.drop criteria.start).take (criteria.limit.getD sorted.length) := by
  rw [window]
  cases criteria.limit with
  | some limit => rfl
  | none =>
      refine (List.take_of_length_le ?_).symm
      rw [List.length_drop]
      exact Nat.sub_le ..

/-- **A criteria returns the window of the one arrangement of the rows that match.**  If the values
of each order field are of one kind in the rows that match, NULL apart, then there is one list
of just these rows in which none stands before a row that precedes it by the order fields, and in
which rows that tie are in their old order.  The criteria returns it without as many rows as it
starts behind, up to its limit.  A field puts NULL last, and first when it falls. -/
theorem apply_returns_window (wide : ∀ row ∈ rows, row.length = mapping.width)
    (known : ∀ order ∈ criteria.order, (mapping.fieldIndex? order.field).isSome = true)
    (filtered : criteria.filter mapping rows = .ok kept)
    (uniform : ∀ order ∈ criteria.order, ∃ kind, ∀ row ∈ kept, ∀ value,
      mapping.value row order.field = .ok value → value.Fits kind) :
    kept = (rows.filter fun row =>
      ∀ restriction ∈ criteria.restrictions, restriction.accepts mapping row = .ok true) ∧
    (∃ sorted,
      Arranges (Precedes mapping criteria.order) (Ties mapping criteria.order) kept sorted ∧
      (∀ other,
        Arranges (Precedes mapping criteria.order) (Ties mapping criteria.order) kept other →
        other = sorted) ∧
      criteria.apply mapping rows =
        .ok ((sorted.drop criteria.start).take (criteria.limit.getD sorted.length))) ∧
    ∀ order ∈ criteria.order, ∀ left right value, mapping.value left order.field = .ok .null →
      mapping.value right order.field = .ok value → value ≠ .null →
      order.order? mapping left right = some (if order.descending then .lt else .gt) := by
  have matching := eq_of_filter filtered
  obtain ⟨keys, placed⟩ := exists_keys known
  obtain ⟨cmp, _, agrees⟩ := exists_order placed (wide_of_filter wide filtered) uniform
  obtain ⟨sorted, sorting, arranges⟩ := SortKey.sortRows_arranges
    fun left leftMember right rightMember => (agrees left leftMember right rightMember).1
  have precedes := fun left leftMember right rightMember =>
    (agrees left leftMember right rightMember).2.1
  have ties := fun left leftMember right rightMember =>
    (agrees left leftMember right rightMember).2.2
  refine ⟨matching, ⟨sorted, arranges.congr precedes ties, fun other otherArranges => ?_, ?_⟩,
    fun _ _ _ _ _ => order?_of_null⟩
  · refine arranges.unique (otherArranges.congr ?_ ?_)
    · exact fun _ member _ otherMember => (precedes _ member _ otherMember).symm
    · exact fun _ member _ otherMember => (ties _ member _ otherMember).symm
  · rw [apply, filtered]
    refine bind_eq_ok_iff.mpr ⟨kept, rfl, bind_eq_ok_iff.mpr ⟨sorted, ?_, ?_⟩⟩
    · exact bind_eq_ok_iff.mpr ⟨keys, placed, sorting⟩
    · exact congrArg Except.ok (window_eq criteria sorted)

/-- Sales by whether they are paid, falling, and by their amount: one of which this is not known
comes first and is skipped, and two that tie stay as they were. -/
theorem sales_return_window :
    let mapping := ((EntityMapping.ofKey "Sale" "t_sale" "sal_id" 23).withField
      { field := "amount", column := "sal_amount", type := .integer }).withField
      { field := "paid", column := "sal_paid", type := .boolean }
    let criteria : Criteria :=
      { restrictions := [.compare "amount" .greater (.integer 0)]
        order := [⟨"paid", true⟩, ⟨"amount", false⟩], start := 1, limit := some 4 }
    let rows : List Row :=
      [[.text "a", .integer 2, .boolean false], [.text "b", .integer 5, .boolean true],
        [.text "c", .integer 2, .boolean false], [.text "d", .integer 0, .boolean true],
        [.text "e", .integer 1, .null], [.text "f", .integer 1, .boolean false]]
    (∀ row ∈ rows, row.length = mapping.width) ∧
      criteria.apply mapping rows =
        .ok [[.text "b", .integer 5, .boolean true], [.text "f", .integer 1, .boolean false],
          [.text "a", .integer 2, .boolean false], [.text "c", .integer 2, .boolean false]] := by
  intro mapping criteria rows
  have wide : ∀ row ∈ rows, row.length = mapping.width := by decide
  have known : ∀ order ∈ criteria.order, (mapping.fieldIndex? order.field).isSome = true := by
    decide
  have filtered : criteria.filter mapping rows =
      .ok [[.text "a", .integer 2, .boolean false], [.text "b", .integer 5, .boolean true],
        [.text "c", .integer 2, .boolean false], [.text "e", .integer 1, .null],
        [.text "f", .integer 1, .boolean false]] := by decide
  refine ⟨wide, ?_⟩
  have keptWide := wide_of_filter wide filtered
  have paid := fits_of_valueAt keptWide (show mapping.fieldIndex? "paid" = some 2 from rfl)
    (show ∀ row ∈ _, (valueAt 2 row).Fits .boolean by decide)
  have amount := fits_of_valueAt keptWide (show mapping.fieldIndex? "amount" = some 1 from rfl)
    (show ∀ row ∈ _, (valueAt 1 row).Fits .integer by decide)
  obtain ⟨-, ⟨sorted, -, unique, applied⟩, -⟩ := apply_returns_window wide known filtered
    (List.forall_mem_cons.mpr ⟨⟨.boolean, paid⟩, List.forall_mem_singleton.mpr ⟨.integer, amount⟩⟩)
  have arranged : [[.text "e", .integer 1, .null], [.text "b", .integer 5, .boolean true],
      [.text "f", .integer 1, .boolean false], [.text "a", .integer 2, .boolean false],
      [.text "c", .integer 2, .boolean false]] = sorted :=
    unique _ ⟨by decide, by decide, by decide⟩
  rw [applied, ← arranged]
  rfl

end Matching

end Criteria

end EntityStore
