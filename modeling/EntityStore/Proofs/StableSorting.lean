import EntityStore.Proofs.Listing

/-!
# Stable sorting

A list arranges items when it holds the same items, no item stands before one that has to
precede it, and items that tie follow each other as they did (`Arranges`).  For an order
that is total and transitive there is one such list: the first item of an arrangement is
the first of the items that nothing precedes, and the others arrange what is left
(`Arranges.unique`).

An order is a ranking whose answers are exact, and moving items into it is arranging them
(`StableSort.Ranking.Sorts.arranges`).  A sort of rows asks about its rows only, so when
every two of them can be compared it arranges them (`SortKey.sortRows_arranges`).
-/

set_option autoImplicit false

namespace EntityStore

/-! ## Arrangements -/

/-- Whether a list holds given items, none before an item that precedes it, and those that tie in
their old order. -/
structure Arranges {α : Type} (Precedes Ties : α → α → Prop) [DecidableRel Ties]
    (items sorted : List α) : Prop where
  perm : sorted.Perm items
  ordered : sorted.Pairwise fun earlier later => ¬ Precedes later earlier
  ties : ∀ item ∈ items, sorted.filter (fun other => Ties item other) =
    items.filter fun other => Ties item other

namespace Arranges

variable {α : Type} {cmp : α → α → Ordering} {items sorted other : List α}

/-- Arranging is a matter of how the items themselves compare. -/
theorem congr {Precedes Ties OtherPrecedes OtherTies : α → α → Prop} [DecidableRel Ties]
    [DecidableRel OtherTies] (arranges : Arranges Precedes Ties items sorted)
    (precedes : ∀ left ∈ items, ∀ right ∈ items, OtherPrecedes left right ↔ Precedes left right)
    (ties : ∀ left ∈ items, ∀ right ∈ items, OtherTies left right ↔ Ties left right) :
    Arranges OtherPrecedes OtherTies items sorted where
  perm := arranges.perm
  ordered := by
    refine arranges.ordered.imp_of_mem fun earlier later notBefore before => notBefore ?_
    have member := arranges.perm.mem_iff.mp later
    exact (precedes _ member _ (arranges.perm.mem_iff.mp earlier)).mp before
  ties item member := by
    have same {list : List α} (sub : ∀ other ∈ list, other ∈ items) :
        list.filter (fun other => OtherTies item other) =
          list.filter fun other => Ties item other :=
      List.filter_congr fun other otherMember =>
        decide_eq_decide.mpr (ties item member other (sub other otherMember))
    rw [same fun _ => arranges.perm.mem_iff.mp, same fun _ => id]
    exact arranges.ties item member

variable [Std.TransCmp cmp]

/-- Nothing precedes the first item. -/
theorem not_lt_head {head item : α} {tail : List α}
    (ordered : (head :: tail).Pairwise fun earlier later => ¬ cmp later earlier = .lt)
    (member : item ∈ head :: tail) : ¬ cmp item head = .lt := by
  rcases List.mem_cons.mp member with rfl | later
  · have self : cmp item item = .eq := Std.ReflCmp.compare_self
    rw [self]
    exact nofun
  · exact (List.pairwise_cons.mp ordered).1 item later

theorem eq_of_ordered_of_ties (perm : sorted.Perm other)
    (ordered : sorted.Pairwise fun earlier later => ¬ cmp later earlier = .lt)
    (otherOrdered : other.Pairwise fun earlier later => ¬ cmp later earlier = .lt)
    (ties : ∀ item ∈ sorted, sorted.filter (fun other => cmp item other = .eq) =
      other.filter fun other => cmp item other = .eq) : sorted = other := by
  induction sorted generalizing other with
  | nil => exact perm.nil_eq
  | cons first rest ih =>
      cases other with
      | nil => exact absurd perm.symm.nil_eq.symm (List.cons_ne_nil first rest)
      | cons head tail =>
          have self : cmp first first = .eq := Std.ReflCmp.compare_self
          -- Neither of the two first items precedes the other one, so they tie.
          have tied : cmp first head = .eq := by
            cases found : cmp first head with
            | eq => rfl
            | lt =>
                exact absurd found
                  (not_lt_head otherOrdered (perm.mem_iff.mp List.mem_cons_self))
            | gt =>
                exact absurd (Std.OrientedCmp.gt_iff_lt.mp found)
                  (not_lt_head ordered (perm.mem_iff.mpr List.mem_cons_self))
          -- Each is the first of the items that tie with it, so they are one.
          have same := ties first List.mem_cons_self
          rw [List.filter_cons, List.filter_cons, if_pos (decide_eq_true self),
            if_pos (decide_eq_true tied)] at same
          obtain ⟨rfl, -⟩ := List.cons_eq_cons.mp same
          refine congrArg (first :: ·) (ih perm.cons_inv (List.pairwise_cons.mp ordered).2
            (List.pairwise_cons.mp otherOrdered).2 fun item member => ?_)
          have kept := ties item (List.mem_cons_of_mem first member)
          rw [List.filter_cons, List.filter_cons] at kept
          split at kept
          · exact (List.cons_eq_cons.mp kept).2
          · exact kept

/-- **There is one arrangement** of items in an order. -/
theorem unique
    (arranges : Arranges (cmp · · = .lt) (cmp · · = .eq) items sorted)
    (otherArranges : Arranges (cmp · · = .lt) (cmp · · = .eq) items other) : other = sorted := by
  have same := otherArranges.perm.trans arranges.perm.symm
  refine eq_of_ordered_of_ties same otherArranges.ordered arranges.ordered fun item member => ?_
  · have known := otherArranges.perm.mem_iff.mp member
    exact (otherArranges.ties item known).trans (arranges.ties item known).symm

end Arranges

/-! ## Sorting rows -/

section Order

variable {α : Type} {cmp : α → α → Ordering} [Std.TransCmp cmp]

/-- The ranking of an order, with the answers that it gives. -/
def StableSort.Ranking.ofOrder (cmp : α → α → Ordering) [Std.TransCmp cmp] :
    StableSort.Ranking α where
  less left right := cmp left right == .lt
  le left right := (cmp left right).isLE = true
  trans := Std.TransCmp.isLE_trans
  of_less {left right} before := by
    rw [eq_of_beq before]
    rfl
  of_not_less {left right} notBefore := by
    have swapped : cmp right left = (cmp left right).swap := Std.OrientedCmp.eq_swap
    rw [swapped]
    revert notBefore
    cases cmp left right <;> decide

namespace StableSort.Ranking

theorem less_ofOrder (left right : α) :
    (ofOrder cmp).less left right = (cmp left right == .lt) := rfl

theorem ofOrder_exact : (ofOrder cmp).Exact := by
  intro left right before le
  have swapped : cmp right left = (cmp left right).swap := Std.OrientedCmp.eq_swap
  have least : (cmp right left).isLE = true := le
  rw [swapped, eq_of_beq before] at least
  cases least

theorem ties_ofOrder (item : α) :
    (ofOrder cmp).ties item = fun other => decide (cmp item other = .eq) := by
  funext other
  have swapped : cmp other item = (cmp item other).swap := Std.OrientedCmp.eq_swap
  rw [ties, less_ofOrder, less_ofOrder, swapped]
  cases cmp item other <;> rfl

/-- Moving items into an order, those that tie as they stood, is arranging them. -/
theorem Sorts.arranges {items sorted : List α} (sorts : (ofOrder cmp).Sorts items sorted) :
    Arranges (cmp · · = .lt) (cmp · · = .eq) items sorted where
  perm := sorts.perm
  ordered := by
    refine sorts.ordered.imp fun {earlier later} le before => ?_
    exact ofOrder_exact later earlier (beq_iff_eq.mpr before) le
  ties item _ := by
    have kept := sorts.stable ofOrder_exact item
    rwa [ties_ofOrder] at kept

end StableSort.Ranking

/-- **Sorting arranges rows** that can all be compared. -/
theorem SortKey.sortRows_arranges {keys : List SortKey} {rows : List Row}
    {cmp : Row → Row → Ordering} [Std.TransCmp cmp]
    (compares : ∀ left ∈ rows, ∀ right ∈ rows, compareRows left right keys = .ok (cmp left right)) :
    ∃ sorted, sortRows keys rows = .ok sorted ∧
      Arranges (cmp · · = .lt) (cmp · · = .eq) rows sorted := by
  have ensures := StableSort.sort_ensures (.ofOrder cmp) rows
  have known := ensures.known_of_mem_questions
  -- The questions are about the rows, so they are answered by the order.
  have agree : ∀ question ∈ (StableSort.sort rows).questions (StableSort.Ranking.ofOrder cmp).less,
      Before keys question.1 question.2 =
        (StableSort.Ranking.ofOrder cmp).less question.1 question.2 := by
    intro question member
    obtain ⟨leftMember, rightMember⟩ := known question member
    rw [Bool.eq_iff_iff, Comparing.places_eq_true_iff, compares _ leftMember _ rightMember,
      StableSort.Ranking.less_ofOrder]
    simp
  obtain ⟨same, asked⟩ := Comparing.run_congr agree
  cases found : (StableSort.sort rows).run (StableSort.Ranking.ofOrder cmp).less with
  | none => exact absurd StableSort.Ranking.ofOrder_exact (ensures.run_eq.2 found)
  | some sorted =>
      refine ⟨sorted, sortRows_eq_ok_iff.mpr ⟨same.trans found, ?_⟩,
        (ensures.run_eq.1 sorted found).arranges⟩
      rw [asked]
      intro question member
      obtain ⟨leftMember, rightMember⟩ := known question member
      exact ⟨_, compares _ leftMember _ rightMember⟩

end Order

end EntityStore
