import Mathlib.Order.BoundedOrder.Lattice
import Mathlib.Order.MinMax
import EntityStore.Query.Criteria
import EntityStore.Proofs.Checks

/-!
# Restrictions in three-valued logic

A restriction has a value that knows nothing of an order of evaluation.  Its leaves,
which look at the row, have the values that they evaluate to; a conjunction is the
least of all its parts and a disjunction the greatest, where a condition that is
false lies below an unknown one and that below one that is true; and a negation
turns this order around (`Restriction.value`).

Evaluation goes from left to right and stops early, and a criteria goes through its
restrictions in a loop of its own, which stops at an unknown one as well.  As long
as no leaf fails on the row, none of this shows: evaluation answers the value
(`Restriction.evaluate_eq_value`).  So the parts of a conjunction or a disjunction,
anywhere in a restriction, may be put in another order or be repeated, and a
criteria keeps the same rows for its restrictions in any order as for their
conjunction (`Restriction.three_valued_logic`).
-/

set_option autoImplicit false

namespace EntityStore

/-! ## The order of truth values -/

namespace Truth

/-- The place of a truth value, from false over unknown to true. -/
def rank : Truth → Nat
  | .no => 0
  | .unknown => 1
  | .yes => 2

/-- Truth values from false to true.  Conjunction is the minimum, disjunction the maximum. -/
instance : LinearOrder Truth where
  le left right := left.rank ≤ right.rank
  le_refl value := Nat.le_refl value.rank
  le_trans _ _ _ := Nat.le_trans
  le_antisymm left right := by cases left <;> cases right <;> decide
  le_total left right := Nat.le_total left.rank right.rank
  min := Truth.and
  max := Truth.or
  toDecidableLE left right := Nat.decLe left.rank right.rank
  toDecidableEq := inferInstance
  min_def left right := by cases left <;> cases right <;> rfl
  max_def left right := by cases left <;> cases right <;> rfl

instance : BoundedOrder Truth where
  top := .yes
  le_top value := by cases value <;> decide
  bot := .no
  bot_le value := by cases value <;> decide

theorem holds_min (left right : Truth) : (min left right).holds = (left.holds && right.holds) := by
  cases left <;> cases right <;> rfl

/-- The least of truth values.  Of none it is true. -/
def least (values : List Truth) : Truth := values.foldr min ⊤

/-- The greatest of truth values.  Of none it is false. -/
def greatest (values : List Truth) : Truth := values.foldr max ⊥

theorem least_cons (value : Truth) (values : List Truth) :
    least (value :: values) = min value (least values) := rfl

theorem greatest_cons (value : Truth) (values : List Truth) :
    greatest (value :: values) = max value (greatest values) := rfl

theorem least_singleton (value : Truth) : least [value] = value := min_top_right value

theorem le_least_iff {bound : Truth} {values : List Truth} :
    bound ≤ least values ↔ ∀ value ∈ values, bound ≤ value := by
  induction values with
  | nil => simp [least]
  | cons head rest ih => rw [least_cons, le_min_iff, ih, List.forall_mem_cons]

theorem greatest_le_iff {bound : Truth} {values : List Truth} :
    greatest values ≤ bound ↔ ∀ value ∈ values, value ≤ bound := by
  induction values with
  | nil => simp [greatest]
  | cons head rest ih => rw [greatest_cons, max_le_iff, ih, List.forall_mem_cons]

/-- The least value is a matter of which values there are. -/
theorem least_congr {values others : List Truth} (same : ∀ value, value ∈ values ↔ value ∈ others) :
    least values = least others :=
  eq_of_forall_le_iff fun bound => by simp only [le_least_iff, same]

theorem greatest_congr {values others : List Truth}
    (same : ∀ value, value ∈ values ↔ value ∈ others) : greatest values = greatest others :=
  eq_of_forall_ge_iff fun bound => by simp only [greatest_le_iff, same]

end Truth

namespace Restriction

/-! ## The value of a restriction -/

/-- Whether a restriction looks at the row itself. -/
def IsLeaf : Restriction → Prop
  | .compare .. | .between .. | .like .. | .isNull _ | .isNotNull _ => True
  | .all _ | .any _ | .not _ => False

mutual
/-- The leaves of a restriction, from left to right. -/
def leaves : Restriction → List Restriction
  | .all parts | .any parts => leavesOf parts
  | .not part => leaves part
  | leaf => [leaf]

/-- The leaves of restrictions in order. -/
def leavesOf : List Restriction → List Restriction
  | [] => []
  | part :: parts => leaves part ++ leavesOf parts
end

mutual
/-- The value of a restriction whose leaves have given values: the least of the parts for a
conjunction, the greatest for a disjunction, and the other way round for a negation. -/
def value (leafValue : Restriction → Truth) : Restriction → Truth
  | .all parts => .least (values leafValue parts)
  | .any parts => .greatest (values leafValue parts)
  | .not part => (value leafValue part).not
  | leaf => leafValue leaf

/-- The values of restrictions in order. -/
def values (leafValue : Restriction → Truth) : List Restriction → List Truth
  | [] => []
  | part :: parts => value leafValue part :: values leafValue parts
end

/-- A property of all restrictions, shown for leaves and for what is made of parts that have it. -/
@[elab_as_elim]
theorem byParts {motive : Restriction → Prop}
    (leaf : ∀ leaf : Restriction, leaf.IsLeaf → motive leaf)
    (all : ∀ parts : List Restriction, (∀ part ∈ parts, motive part) → motive (.all parts))
    (any : ∀ parts : List Restriction, (∀ part ∈ parts, motive part) → motive (.any parts))
    (not : ∀ part : Restriction, motive part → motive part.not) (restriction : Restriction) :
    motive restriction :=
  @Restriction.rec motive (fun parts => ∀ part ∈ parts, motive part)
    (fun _ _ _ => leaf _ trivial) (fun _ _ _ => leaf _ trivial) (fun _ _ _ => leaf _ trivial)
    (fun _ => leaf _ trivial) (fun _ => leaf _ trivial) all any not (fun _ member => nomatch member)
    (fun _ _ head tail => List.forall_mem_cons.mpr ⟨head, tail⟩) restriction

theorem mem_leavesOf_iff {leaf : Restriction} {parts : List Restriction} :
    leaf ∈ leavesOf parts ↔ ∃ part ∈ parts, leaf ∈ part.leaves := by
  induction parts with
  | nil => simp [leavesOf]
  | cons part parts ih => simp [leavesOf, ih]

theorem values_eq_map (leafValue : Restriction → Truth) (parts : List Restriction) :
    values leafValue parts = parts.map (value leafValue) := by
  induction parts with
  | nil => rfl
  | cons part parts ih => rw [values, ih, List.map_cons]

theorem value_all (leafValue : Restriction → Truth) (parts : List Restriction) :
    value leafValue (.all parts) = .least (parts.map (value leafValue)) := by
  rw [value, values_eq_map]

theorem value_any (leafValue : Restriction → Truth) (parts : List Restriction) :
    value leafValue (.any parts) = .greatest (parts.map (value leafValue)) := by
  rw [value, values_eq_map]

theorem IsLeaf.leaves_eq {leaf : Restriction} (isLeaf : leaf.IsLeaf) : leaf.leaves = [leaf] := by
  cases leaf with
  | compare | between | like | isNull | isNotNull => rfl
  | all | any | not => cases isLeaf

theorem IsLeaf.value_eq {leaf : Restriction} (isLeaf : leaf.IsLeaf)
    (leafValue : Restriction → Truth) : leaf.value leafValue = leafValue leaf := by
  cases leaf with
  | compare | between | like | isNull | isNotNull => rfl
  | all | any | not => cases isLeaf

/-! ## Evaluation answers the value -/

variable {mapping : EntityMapping} {row : Row} {restriction other : Restriction}
  {parts others : List Restriction}

/-- Whether no leaf of a restriction fails on a row. -/
def IsDecided (mapping : EntityMapping) (row : Row) (restriction : Restriction) : Prop :=
  ∀ leaf ∈ restriction.leaves, (leaf.evaluate mapping row).isOk = true

instance (mapping : EntityMapping) (row : Row) (restriction : Restriction) :
    Decidable (restriction.IsDecided mapping row) :=
  inferInstanceAs (Decidable (∀ leaf ∈ restriction.leaves, _))

/-- What a leaf says of a row. -/
def found (mapping : EntityMapping) (row : Row) (leaf : Restriction) : Truth :=
  (leaf.evaluate mapping row).toOption.getD .unknown

theorem IsDecided.leaf (decided : restriction.IsDecided mapping row) (isLeaf : restriction.IsLeaf) :
    restriction.evaluate mapping row = .ok (restriction.found mapping row) := by
  have evaluates := decided restriction (by rw [isLeaf.leaves_eq]; exact List.mem_singleton_self _)
  rw [found]
  cases answer : restriction.evaluate mapping row with
  | ok truth => rfl
  | error fault =>
      rw [answer] at evaluates
      cases evaluates

theorem isDecided_all_iff :
    (all parts).IsDecided mapping row ↔ ∀ part ∈ parts, part.IsDecided mapping row := by
  simp only [IsDecided, leaves, mem_leavesOf_iff]
  exact ⟨fun decided part member leaf leafMember => decided leaf ⟨part, member, leafMember⟩,
    fun decided leaf ⟨part, member, leafMember⟩ => decided part member leaf leafMember⟩

theorem isDecided_any_iff :
    (any parts).IsDecided mapping row ↔ ∀ part ∈ parts, part.IsDecided mapping row :=
  isDecided_all_iff

/-- A conjunction goes on as long as it has not met a false part, so it ends with the least of what
it met. -/
theorem evaluateAll_eq {truth : Truth} {valueOf : Restriction → Truth} (goesOn : truth ≠ .no)
    (evaluates : ∀ part ∈ parts, part.evaluate mapping row = .ok (valueOf part)) :
    evaluateAll mapping row truth parts = .ok (min truth (.least (parts.map valueOf))) := by
  induction parts generalizing truth with
  | nil => cases truth <;> rfl
  | cons part parts ih =>
      obtain ⟨first, rest⟩ := List.forall_mem_cons.mp evaluates
      rw [evaluateAll, first, List.map_cons, Truth.least_cons]
      -- The first part decides how the loop goes on.
      cases valueOf part with
      | no =>
          rw [show Truth.no = ⊥ from rfl, min_bot_left, min_bot_right]
          rfl
      | unknown =>
          refine (ih Truth.noConfusion rest).trans (congrArg _ ?_)
          rw [← min_assoc]
          cases truth with
          | no => exact absurd rfl goesOn
          | unknown | yes => rfl
      | yes =>
          refine (ih goesOn rest).trans (congrArg _ ?_)
          rw [show Truth.yes = ⊤ from rfl, min_top_left]

theorem evaluateAny_eq {truth : Truth} {valueOf : Restriction → Truth} (goesOn : truth ≠ .yes)
    (evaluates : ∀ part ∈ parts, part.evaluate mapping row = .ok (valueOf part)) :
    evaluateAny mapping row truth parts = .ok (max truth (.greatest (parts.map valueOf))) := by
  induction parts generalizing truth with
  | nil => cases truth <;> rfl
  | cons part parts ih =>
      obtain ⟨first, rest⟩ := List.forall_mem_cons.mp evaluates
      rw [evaluateAny, first, List.map_cons, Truth.greatest_cons]
      cases valueOf part with
      | yes =>
          rw [show Truth.yes = ⊤ from rfl, max_top_left, max_top_right]
          rfl
      | unknown =>
          refine (ih Truth.noConfusion rest).trans (congrArg _ ?_)
          rw [← max_assoc]
          cases truth with
          | yes => exact absurd rfl goesOn
          | unknown | no => rfl
      | no =>
          refine (ih goesOn rest).trans (congrArg _ ?_)
          rw [show Truth.no = ⊥ from rfl, max_bot_left]

/-- **Evaluation answers the value**, when no leaf fails on the row. -/
theorem evaluate_eq_value (decided : restriction.IsDecided mapping row) :
    restriction.evaluate mapping row = .ok (restriction.value (found mapping row)) := by
  induction restriction using byParts with
  | leaf leaf isLeaf => rw [decided.leaf isLeaf, isLeaf.value_eq]
  | all parts ih =>
      have evaluates := fun part member => ih part member (isDecided_all_iff.mp decided part member)
      rw [evaluate, evaluateAll_eq Truth.noConfusion evaluates, value_all]
      exact congrArg _ (min_top_left _)
  | any parts ih =>
      have evaluates := fun part member => ih part member (isDecided_any_iff.mp decided part member)
      rw [evaluate, evaluateAny_eq Truth.noConfusion evaluates, value_any]
      exact congrArg _ (max_bot_left _)
  | not part ih =>
      rw [evaluate, ih decided, value]
      rfl

theorem accepts_eq_holds (decided : restriction.IsDecided mapping row) :
    restriction.accepts mapping row = .ok (restriction.value (found mapping row)).holds := by
  rw [accepts, evaluate_eq_value decided]
  rfl

/-! ## Order and repetition of parts -/

/-- Restrictions that come from each other by putting the parts of conjunctions and disjunctions,
wherever they stand, into another order and by repeating them. -/
inductive Rearranges : Restriction → Restriction → Prop where
  | refl (restriction : Restriction) : Rearranges restriction restriction
  | symm {first second : Restriction} : Rearranges first second → Rearranges second first
  | trans {first second third : Restriction} :
      Rearranges first second → Rearranges second third → Rearranges first third
  | all {parts others : List Restriction} (same : ∀ part, part ∈ parts ↔ part ∈ others) :
      Rearranges (.all parts) (.all others)
  | any {parts others : List Restriction} (same : ∀ part, part ∈ parts ↔ part ∈ others) :
      Rearranges (.any parts) (.any others)
  | inAll (before after : List Restriction) {part other : Restriction} : Rearranges part other →
      Rearranges (.all (before ++ part :: after)) (.all (before ++ other :: after))
  | inAny (before after : List Restriction) {part other : Restriction} : Rearranges part other →
      Rearranges (.any (before ++ part :: after)) (.any (before ++ other :: after))
  | inNot {part other : Restriction} : Rearranges part other → Rearranges part.not other.not

theorem mem_leavesOf_congr (same : ∀ part, part ∈ parts ↔ part ∈ others) (leaf : Restriction) :
    leaf ∈ leavesOf parts ↔ leaf ∈ leavesOf others := by
  simp only [mem_leavesOf_iff, same]

/-- Rearranging keeps the leaves, up to order and repetition. -/
theorem Rearranges.mem_leaves_iff (rearranges : restriction.Rearranges other) (leaf : Restriction) :
    leaf ∈ restriction.leaves ↔ leaf ∈ other.leaves := by
  induction rearranges with
  | refl => exact Iff.rfl
  | symm _ ih => exact ih.symm
  | trans _ _ first second => exact first.trans second
  | all same | any same => exact mem_leavesOf_congr same leaf
  | inAll before after _ ih | inAny before after _ ih =>
      simp only [leaves, mem_leavesOf_iff, List.mem_append, List.mem_cons, or_and_right,
        exists_or, exists_eq_left, ih]
  | inNot _ ih => exact ih

theorem mem_map_congr {α β : Type} {items others : List α}
    (same : ∀ item, item ∈ items ↔ item ∈ others)
    (image : α → β) (answer : β) : answer ∈ items.map image ↔ answer ∈ others.map image := by
  simp only [List.mem_map, same]

/-- Rearranging keeps the value. -/
theorem Rearranges.value_eq (rearranges : restriction.Rearranges other)
    (leafValue : Restriction → Truth) :
    restriction.value leafValue = other.value leafValue := by
  induction rearranges with
  | refl => rfl
  | symm _ ih => exact ih.symm
  | trans _ _ first second => exact first.trans second
  | all same => rw [value_all, value_all, Truth.least_congr (mem_map_congr same _)]
  | any same => rw [value_any, value_any, Truth.greatest_congr (mem_map_congr same _)]
  | inAll before after _ ih =>
      rw [value_all, value_all, List.map_append, List.map_append, List.map_cons, List.map_cons, ih]
  | inAny before after _ ih =>
      rw [value_any, value_any, List.map_append, List.map_append, List.map_cons, List.map_cons, ih]
  | inNot _ ih => rw [value, value, ih]

theorem Rearranges.evaluate_eq (rearranges : restriction.Rearranges other)
    (decided : restriction.IsDecided mapping row) :
    other.evaluate mapping row = restriction.evaluate mapping row := by
  have otherDecided : other.IsDecided mapping row :=
    fun leaf member => decided leaf ((rearranges.mem_leaves_iff leaf).mpr member)
  rw [evaluate_eq_value decided, evaluate_eq_value otherDecided, rearranges.value_eq]

end Restriction

/-! ## Criteria -/

namespace Criteria

variable {mapping : EntityMapping} {row : Row} {restrictions others : List Restriction}

theorem filterAuxM_eq {ε α : Type} {test : α → Except ε Bool} {keeps : α → Bool} {items : List α}
    (tests : ∀ item ∈ items, test item = .ok (keeps item)) (kept : List α) :
    List.filterAuxM test items kept = .ok ((items.filter keeps).reverse ++ kept) := by
  induction items generalizing kept with
  | nil => rfl
  | cons item items ih =>
      obtain ⟨first, rest⟩ := List.forall_mem_cons.mp tests
      rw [List.filterAuxM, first]
      refine (ih rest _).trans (congrArg _ ?_)
      rw [List.filter_cons]
      cases keeps item <;> simp

/-- A filter whose tests all succeed keeps what passes them. -/
theorem filterM_eq {ε α : Type} {test : α → Except ε Bool} {keeps : α → Bool} {items : List α}
    (tests : ∀ item ∈ items, test item = .ok (keeps item)) :
    items.filterM test = .ok (items.filter keeps) := by
  rw [List.filterM, filterAuxM_eq tests, List.append_nil]
  exact congrArg _ (List.reverse_reverse _)

/-- A criteria accepts a row exactly when the conjunction of its restrictions is true of it. -/
theorem acceptsAll_eq (decided : ∀ restriction ∈ restrictions, restriction.IsDecided mapping row) :
    acceptsAll mapping row restrictions =
      .ok ((Restriction.all restrictions).value (Restriction.found mapping row)).holds := by
  induction restrictions with
  | nil => rfl
  | cons restriction restrictions ih =>
      obtain ⟨first, rest⟩ := List.forall_mem_cons.mp decided
      rw [acceptsAll, Restriction.accepts_eq_holds first, ih rest, Restriction.value_all,
        Restriction.value_all, List.map_cons, Truth.least_cons, Truth.holds_min]
      cases (restriction.value (Restriction.found mapping row)).holds <;> rfl

/-- A criteria keeps the rows of which the conjunction of its restrictions is true. -/
theorem filter_eq {criteria : Criteria} {rows : List Row}
    (decided : ∀ row ∈ rows, ∀ restriction ∈ criteria.restrictions,
      restriction.IsDecided mapping row) :
    criteria.filter mapping rows = .ok (rows.filter fun row =>
      ((Restriction.all criteria.restrictions).value (Restriction.found mapping row)).holds) :=
  filterM_eq fun row member => acceptsAll_eq (decided row member)

/-- Criteria keep the same rows when the conjunctions of their restrictions rearrange. -/
theorem filter_congr {criteria other : Criteria} {rows : List Row}
    (decided : ∀ row ∈ rows, ∀ restriction ∈ criteria.restrictions,
      restriction.IsDecided mapping row)
    (rearranges : (Restriction.all criteria.restrictions).Rearranges (.all other.restrictions)) :
    other.filter mapping rows = criteria.filter mapping rows := by
  have otherDecided : ∀ row ∈ rows, ∀ restriction ∈ other.restrictions,
      restriction.IsDecided mapping row := fun row member =>
    Restriction.isDecided_all_iff.mp fun leaf leafMember =>
      Restriction.isDecided_all_iff.mpr (decided row member) leaf
        ((rearranges.mem_leaves_iff leaf).mpr leafMember)
  rw [filter_eq decided, filter_eq otherDecided]
  simp only [rearranges.value_eq]

/-- A criteria keeps the same rows for the conjunction of its restrictions. -/
theorem filter_all {criteria : Criteria} {rows : List Row}
    (decided : ∀ row ∈ rows, ∀ restriction ∈ criteria.restrictions,
      restriction.IsDecided mapping row) :
    { criteria with restrictions := [.all criteria.restrictions] }.filter mapping rows =
      criteria.filter mapping rows := by
  have allDecided : ∀ row ∈ rows, ∀ restriction ∈ [Restriction.all criteria.restrictions],
      restriction.IsDecided mapping row := fun row member =>
    List.forall_mem_singleton.mpr (Restriction.isDecided_all_iff.mpr (decided row member))
  rw [filter_eq decided, filter_eq allDecided]
  simp only [Restriction.value_all _ [_], List.map_singleton, Truth.least_singleton]

end Criteria

/-! ## Three-valued logic -/

namespace Restriction

/-- Of a restriction, its negation and its being unknown just one holds of a row. -/
theorem matches_or_refused_or_unknown {mapping : EntityMapping} {row : Row}
    {restriction : Restriction} (decided : restriction.IsDecided mapping row) :
    let matched := restriction.accepts mapping row = .ok true
    let refused := restriction.not.accepts mapping row = .ok true
    let isUnknown := restriction.evaluate mapping row = .ok .unknown
    (matched ∧ ¬ refused ∧ ¬ isUnknown) ∨ (¬ matched ∧ refused ∧ ¬ isUnknown) ∨
      (¬ matched ∧ ¬ refused ∧ isUnknown) := by
  have negated : restriction.not.IsDecided mapping row := decided
  simp only [accepts_eq_holds decided, accepts_eq_holds negated, evaluate_eq_value decided, value]
  cases restriction.value (found mapping row) with
  | yes => exact .inl ⟨rfl, nofun, nofun⟩
  | no => exact .inr (.inl ⟨nofun, rfl, nofun⟩)
  | unknown => exact .inr (.inr ⟨nofun, nofun, rfl⟩)

/-- **Restrictions follow three-valued logic, whatever the order of their parts.**  When no leaf
of a restriction fails on a row, evaluation answers its value: the least of the parts for a
conjunction, the greatest for a disjunction, in the order from false over unknown to true, and
this order reversed for a negation.  So rearranging parts changes nothing; a row matches the
restriction, or its negation, or it is unknown whether, and just one of these; and a criteria
keeps the rows of which the conjunction of its restrictions is true, be they given as that one
restriction or in any other order. -/
theorem three_valued_logic (mapping : EntityMapping) :
    (∀ (row : Row) (restriction : Restriction), restriction.IsDecided mapping row →
      restriction.evaluate mapping row = .ok (restriction.value (found mapping row)) ∧
      (∀ other, restriction.Rearranges other →
        other.evaluate mapping row = restriction.evaluate mapping row) ∧
      let matched := restriction.accepts mapping row = .ok true
      let refused := restriction.not.accepts mapping row = .ok true
      let isUnknown := restriction.evaluate mapping row = .ok .unknown
      (matched ∧ ¬ refused ∧ ¬ isUnknown) ∨ (¬ matched ∧ refused ∧ ¬ isUnknown) ∨
        (¬ matched ∧ ¬ refused ∧ isUnknown)) ∧
    ∀ (criteria : Criteria) (rows : List Row),
      (∀ row ∈ rows, ∀ restriction ∈ criteria.restrictions, restriction.IsDecided mapping row) →
        criteria.filter mapping rows = .ok (rows.filter fun row =>
          ((all criteria.restrictions).value (found mapping row)).holds) ∧
        { criteria with restrictions := [all criteria.restrictions] }.filter mapping rows =
          criteria.filter mapping rows ∧
        ∀ others, others.Perm criteria.restrictions →
          { criteria with restrictions := others }.filter mapping rows =
            criteria.filter mapping rows := by
  refine ⟨fun row restriction decided => ?_, fun criteria rows decided => ?_⟩
  · exact ⟨evaluate_eq_value decided, fun other rearranges => rearranges.evaluate_eq decided,
      matches_or_refused_or_unknown decided⟩
  · exact ⟨Criteria.filter_eq decided, Criteria.filter_all decided, fun others same =>
      Criteria.filter_congr decided (.all fun part => same.symm.mem_iff)⟩

/-- A note without a text, for which a comparison with the text is unknown. -/
theorem note_three_valued :
    let mapping := (EntityMapping.ofKey "Note" "t_note" "nte_id" 23).withField
      (.text "text" "nte_text" 40)
    let row : Row := [.text "k", .null]
    let compared := compare "text" .equal (.text "x")
    let restriction := all [any [compared, isNull "text"], not (isNotNull "text")]
    restriction.IsDecided mapping row ∧
      (∀ other, restriction.Rearranges other → other.evaluate mapping row = .ok .yes) ∧
      ({ restrictions := [compared, isNull "text"] } : Criteria).filter mapping [row] = .ok [] ∧
      ({ restrictions := [isNull "text", compared] } : Criteria).filter mapping [row] = .ok [] := by
  intro mapping row compared restriction
  have decided : restriction.IsDecided mapping row := by decide
  have parts : ∀ row' ∈ [row], ∀ part ∈ [compared, isNull "text"], part.IsDecided mapping row' := by
    decide
  obtain ⟨ofRow, ofCriteria⟩ := three_valued_logic mapping
  obtain ⟨value, rearranged, -⟩ := ofRow row restriction decided
  obtain ⟨kept, -, permuted⟩ := ofCriteria { restrictions := [compared, isNull "text"] } [row] parts
  refine ⟨decided, fun other rearranges => ?_, kept, ?_⟩
  · exact (rearranged other rearranges).trans value
  · exact (permuted [isNull "text", compared] (List.Perm.swap _ _ [])).trans kept

end Restriction

end EntityStore
