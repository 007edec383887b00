import EntityStore.Proofs.Rankings

/-!
# Insertion and merging

Insertion goes over the sorted items from their end, so there the order is the one from
the other end.  A merge from the end is the merge of the reversed items in that order.

A merge from both ends takes as many items from the front as from the end.  What is
taken from the front is below all that is left there, and what is taken from the end is
above it (`Front`), so the two and the items between them are in order when they leave
nothing out (`Front.joins`).  They could only overlap in one half and leave a gap in
the other, and then an item taken from the front would be above one taken from the end:
the answers would contradict each other (`Front.not_crossed`).
-/

set_option autoImplicit false

namespace EntityStore.StableSort

variable {α : Type} {ranking : Ranking α} {known : α → Prop}

/-! ## Insertion -/

/-- Sorted items stand latest first when one is inserted, so the order is the one from the other
end. -/
theorem insertBack_ensures {item : α} (itemKnown : known item) {sorted : List α}
    (sortedKnown : ∀ other ∈ sorted, known other) (ordered : sorted.Pairwise ranking.flip.le) :
    Ensures ranking known (ranking.flip.Sorts (item :: sorted)) (insertBack item sorted) := by
  induction sorted with
  | nil => exact .pure (.of_length Nat.one_lt_two)
  | cons last earlier ih =>
      obtain ⟨lastKnown, earlierKnown⟩ := List.forall_mem_cons.mp sortedKnown
      obtain ⟨below, earlierOrdered⟩ := List.pairwise_cons.mp ordered
      rw [insertBack]
      refine .bind (.before itemKnown lastKnown) fun answer answered => ?_
      split
      · next comesBefore =>
          have less : ranking.less item last = true := answered.symm.trans comesBefore
          refine .bind (ih earlierKnown earlierOrdered) fun inserted sorts => .pure ?_
          have passes : ranking.flip.Moves (item :: last :: earlier) (last :: item :: earlier) :=
            .swap [] earlier fun _ => less
          refine ⟨passes.trans (sorts.toMoves.cons last),
            List.pairwise_cons.mpr ⟨?_, sorts.ordered⟩⟩
          refine sorts.forall_mem (List.forall_mem_cons.mpr ⟨?_, below⟩)
          exact ranking.of_less less
      · next stays =>
          have le : ranking.le last item :=
            ranking.of_not_less (answered.symm.trans (Bool.eq_false_iff.mpr stays))
          refine .pure (.of_ordered (List.pairwise_cons.mpr ⟨?_, ordered⟩))
          exact List.forall_mem_cons.mpr
            ⟨le, fun other member => ranking.trans (below other member) le⟩

theorem insertAll_ensures {sorted items : List α} (sortedKnown : ∀ item ∈ sorted, known item)
    (itemsKnown : ∀ item ∈ items, known item) (ordered : sorted.Pairwise ranking.flip.le) :
    Ensures ranking known (ranking.Sorts (sorted.reverse ++ items)) (insertAll sorted items) := by
  induction items generalizing sorted with
  | nil =>
      refine .pure ?_
      rw [List.append_nil]
      exact .of_ordered (List.pairwise_reverse.mpr ordered)
  | cons item items ih =>
      obtain ⟨itemKnown, othersKnown⟩ := List.forall_mem_cons.mp itemsKnown
      rw [insertAll]
      refine .bind (insertBack_ensures itemKnown sortedKnown ordered) fun inserted sorts => ?_
      have insertedKnown := sorts.forall_mem (List.forall_mem_cons.mpr ⟨itemKnown, sortedKnown⟩)
      refine (ih insertedKnown othersKnown sorts.ordered).mono
        fun result resultSorts => .of_moves ?_ resultSorts
      have inserts := sorts.reverse.toMoves
      rw [List.reverse_cons] at inserts
      rw [List.append_cons]
      exact inserts.append (.refl ranking items)

theorem insertionSort_ensures {items : List α} (itemsKnown : ∀ item ∈ items, known item) :
    Ensures ranking known (ranking.Sorts items) (insertionSort items) :=
  insertAll_ensures nofun itemsKnown .nil

/-! ## Merging -/

section Merging

/-- Whether asking which of two items goes first in a merge is asking about an order. -/
def Follows (ranking : Ranking α) (known : α → Prop) (order : Ranking α)
    (overtakes : α → α → Comparing α Bool) : Prop :=
  ∀ second first, known second → known first →
    Ensures ranking known (fun answer => answer = order.less second first) (overtakes second first)

theorem before_follows : Follows ranking known ranking Comparing.before :=
  fun _ _ => .before

theorem beforeFromEnd_follows : Follows ranking known ranking.flip beforeFromEnd :=
  fun _ _ secondKnown firstKnown => .before firstKnown secondKnown

variable {order : Ranking α} {overtakes : α → α → Comparing α Bool} {left right : List α}

theorem mergeBy_ensures (follows : Follows ranking known order overtakes)
    (leftKnown : ∀ item ∈ left, known item) (rightKnown : ∀ item ∈ right, known item)
    (leftOrdered : left.Pairwise order.le) (rightOrdered : right.Pairwise order.le) :
    Ensures ranking known (order.Sorts (left ++ right)) (mergeBy overtakes left right) := by
  induction left, right using mergeBy.induct with
  | case1 right =>
      rw [mergeBy]
      exact .pure (.of_ordered rightOrdered)
  | case2 left nonempty =>
      rw [mergeBy]
      · refine .pure ?_
        rw [List.append_nil]
        exact .of_ordered leftOrdered
      · exact nonempty
  | case3 first left second right overtaken kept =>
      obtain ⟨firstKnown, othersKnown⟩ := List.forall_mem_cons.mp leftKnown
      obtain ⟨secondKnown, laterKnown⟩ := List.forall_mem_cons.mp rightKnown
      obtain ⟨firstBelow, othersOrdered⟩ := List.pairwise_cons.mp leftOrdered
      obtain ⟨secondBelow, laterOrdered⟩ := List.pairwise_cons.mp rightOrdered
      rw [mergeBy]
      refine .bind (follows second first secondKnown firstKnown) fun answer answered => ?_
      split
      · next comesBefore =>
          have less : order.less second first = true := answered.symm.trans comesBefore
          have below : ∀ item ∈ first :: left, order.le second item :=
            List.forall_mem_cons.mpr ⟨order.of_less less,
              fun item member => order.trans (order.of_less less) (firstBelow item member)⟩
          have passes : order.Moves (first :: left ++ [second]) ([second] ++ first :: left) := by
            refine .exchange fun exact later member earlier earlierMember => ?_
            rw [List.mem_singleton.mp member]
            rcases List.mem_cons.mp earlierMember with rfl | earlierMember
            · exact less
            · exact exact.less_of_less_of_le less (firstBelow earlier earlierMember)
          refine .bind (overtaken leftKnown laterKnown leftOrdered laterOrdered)
            fun merged sorts => .pure ⟨?_, List.pairwise_cons.mpr ⟨?_, sorts.ordered⟩⟩
          · rw [List.append_cons]
            exact (passes.append (.refl order right)).trans (sorts.toMoves.cons second)
          · refine sorts.forall_mem fun item member => ?_
            exact (List.mem_append.mp member).elim (below item) (secondBelow item)
      · next stays =>
          have le : order.le first second :=
            order.of_not_less (answered.symm.trans (Bool.eq_false_iff.mpr stays))
          refine .bind (kept othersKnown rightKnown othersOrdered rightOrdered)
            fun merged sorts => .pure
              ⟨sorts.toMoves.cons first, List.pairwise_cons.mpr ⟨?_, sorts.ordered⟩⟩
          refine sorts.forall_mem fun item member => ?_
          refine (List.mem_append.mp member).elim (firstBelow item) fun member => ?_
          rcases List.mem_cons.mp member with rfl | member
          · exact le
          · exact order.trans le (secondBelow item member)

theorem merge_ensures (leftKnown : ∀ item ∈ left, known item)
    (rightKnown : ∀ item ∈ right, known item) (leftOrdered : left.Pairwise ranking.le)
    (rightOrdered : right.Pairwise ranking.le) :
    Ensures ranking known (ranking.Sorts (left ++ right)) (merge left right) := by
  rw [merge]
  split
  · exact mergeBy_ensures before_follows leftKnown rightKnown leftOrdered rightOrdered
  · have reversed : ∀ {items : List α}, (∀ item ∈ items, known item) →
        ∀ item ∈ items.reverse, known item :=
      fun all item member => all item (List.mem_reverse.mp member)
    refine .bind (mergeBy_ensures beforeFromEnd_follows (reversed rightKnown)
      (reversed leftKnown) (List.pairwise_reverse.mpr rightOrdered)
      (List.pairwise_reverse.mpr leftOrdered)) fun merged sorts => .pure ?_
    have back := sorts.reverse
    rw [List.reverse_append, List.reverse_reverse, List.reverse_reverse] at back
    exact back

/-! ## Merging from both ends -/

/-- Taking items from the fronts of two lists by an order, one after the other. -/
inductive Takes (order : Ranking α) : List α → List α → List α → List α → List α → Prop where
  | nothing (left right : List α) : Takes order left right [] left right
  | first {first second : α} {left right taken leftRest rightRest : List α}
      (stays : order.less second first = false)
      (takes : Takes order left (second :: right) taken leftRest rightRest) :
      Takes order (first :: left) (second :: right) (first :: taken) leftRest rightRest
  | second {first second : α} {left right taken leftRest rightRest : List α}
      (overtakes : order.less second first = true)
      (takes : Takes order (first :: left) right taken leftRest rightRest) :
      Takes order (first :: left) (second :: right) (second :: taken) leftRest rightRest

/-- What was taken from the fronts of two sorted lists. -/
structure Front (order : Ranking α) (left right taken leftRest rightRest leftTaken rightTaken :
    List α) : Prop where
  left_eq : left = leftTaken ++ leftRest
  right_eq : right = rightTaken ++ rightRest
  sorts : order.Sorts (leftTaken ++ rightTaken) taken
  below : ∀ item ∈ taken, ∀ other ∈ leftRest ++ rightRest, order.le item other
  overtook : order.Exact → ∀ second ∈ rightTaken, ∀ first ∈ leftRest,
    order.less second first = true

variable {taken leftRest rightRest leftTaken rightTaken : List α}

theorem Front.forall_taken {holds : α → Prop}
    (front : Front order left right taken leftRest rightRest leftTaken rightTaken)
    (all : ∀ item ∈ left ++ right, holds item) : ∀ item ∈ taken, holds item := by
  refine front.sorts.forall_mem fun item member => all item ?_
  rw [front.left_eq, front.right_eq]
  rcases List.mem_append.mp member with member | member
  · exact List.mem_append_left _ (List.mem_append_left _ member)
  · exact List.mem_append_right _ (List.mem_append_left _ member)

theorem Front.forall_rest {holds : α → Prop}
    (front : Front order left right taken leftRest rightRest leftTaken rightTaken)
    (all : ∀ item ∈ left ++ right, holds item) : ∀ item ∈ leftRest ++ rightRest, holds item := by
  refine fun item member => all item ?_
  rw [front.left_eq, front.right_eq]
  rcases List.mem_append.mp member with member | member
  · exact List.mem_append_left _ (List.mem_append_right _ member)
  · exact List.mem_append_right _ (List.mem_append_right _ member)

/-- An item below all the others goes first in a merge of sorted lists. -/
theorem forall_le_append {item : α} {first second : List α}
    (below : ∀ other ∈ first, order.le item other)
    (alsoBelow : ∀ other ∈ second, order.le item other) :
    ∀ other ∈ first ++ second, order.le item other :=
  fun other member => (List.mem_append.mp member).elim (below other) (alsoBelow other)

theorem forall_le_cons {item head : α} {tail : List α} (le : order.le item head)
    (ordered : (head :: tail).Pairwise order.le) : ∀ other ∈ head :: tail, order.le item other :=
  List.forall_mem_cons.mpr ⟨le, fun other member =>
    order.trans le ((List.pairwise_cons.mp ordered).1 other member)⟩

theorem Takes.front (takes : Takes order left right taken leftRest rightRest)
    (leftOrdered : left.Pairwise order.le) (rightOrdered : right.Pairwise order.le) :
    ∃ leftTaken rightTaken,
      Front order left right taken leftRest rightRest leftTaken rightTaken := by
  induction takes with
  | nothing left right =>
      exact ⟨[], [], rfl, rfl, .of_ordered .nil, nofun, fun _ => nofun⟩
  | @first first second left right taken leftRest rightRest stays takes ih =>
      obtain ⟨firstBelow, othersOrdered⟩ := List.pairwise_cons.mp leftOrdered
      obtain ⟨leftTaken, rightTaken, front⟩ := ih othersOrdered rightOrdered
      have least : ∀ item ∈ left ++ second :: right, order.le first item :=
        forall_le_append firstBelow (forall_le_cons (order.of_not_less stays) rightOrdered)
      refine ⟨first :: leftTaken, rightTaken, ?_, front.right_eq, ⟨?_, ?_⟩, ?_, front.overtook⟩
      · rw [front.left_eq, List.cons_append]
      · exact front.sorts.toMoves.cons first
      · exact List.pairwise_cons.mpr ⟨front.forall_taken least, front.sorts.ordered⟩
      · exact List.forall_mem_cons.mpr ⟨front.forall_rest least, front.below⟩
  | @second first second left right taken leftRest rightRest overtakes takes ih =>
      obtain ⟨secondBelow, laterOrdered⟩ := List.pairwise_cons.mp rightOrdered
      obtain ⟨leftTaken, rightTaken, front⟩ := ih leftOrdered laterOrdered
      have least : ∀ item ∈ first :: left ++ right, order.le second item :=
        forall_le_append (forall_le_cons (order.of_less overtakes) leftOrdered) secondBelow
      have overtaken : order.Exact → ∀ item ∈ leftTaken ++ leftRest,
          order.less second item = true := by
        rw [← front.left_eq]
        exact fun exact item member =>
          exact.less_of_less_of_le overtakes (forall_le_cons (order.le_refl first) leftOrdered
            item member)
      have passes : order.Moves (leftTaken ++ [second]) ([second] ++ leftTaken) := by
        refine .exchange fun exact later member earlier earlierMember => ?_
        rw [List.mem_singleton.mp member]
        exact overtaken exact earlier (List.mem_append_left _ earlierMember)
      refine ⟨leftTaken, second :: rightTaken, front.left_eq, ?_, ⟨?_, ?_⟩, ?_, fun exact => ?_⟩
      · rw [front.right_eq, List.cons_append]
      · rw [List.append_cons]
        exact (passes.append (.refl order rightTaken)).trans (front.sorts.toMoves.cons second)
      · exact List.pairwise_cons.mpr ⟨front.forall_taken least, front.sorts.ordered⟩
      · exact List.forall_mem_cons.mpr ⟨front.forall_rest least, front.below⟩
      · exact List.forall_mem_cons.mpr
          ⟨fun item member => overtaken exact item (List.mem_append_right _ member),
            front.overtook exact⟩

theorem takeFirst_ensures (follows : Follows ranking known order overtakes)
    (leftKnown : ∀ item ∈ left, known item) (rightKnown : ∀ item ∈ right, known item)
    (leftSome : 0 < left.length) (rightSome : 0 < right.length) :
    Ensures ranking known
      (fun first => (∀ taken leftRest rightRest,
          Takes order first.left first.right taken leftRest rightRest →
            Takes order left right (first.item :: taken) leftRest rightRest) ∧
        (first.left <:+ left ∧ left.length ≤ first.left.length + 1) ∧
        first.right <:+ right ∧ right.length ≤ first.right.length + 1)
      (takeFirst overtakes left right) := by
  match left, right, leftSome, rightSome with
  | first :: left, second :: right, _, _ =>
      have secondKnown := rightKnown second List.mem_cons_self
      have firstKnown := leftKnown first List.mem_cons_self
      rw [takeFirst]
      refine .bind (follows second first secondKnown firstKnown) fun answer answered => ?_
      split
      · next comesBefore =>
          exact .pure ⟨fun _ _ _ => .second (answered.symm.trans comesBefore),
            ⟨List.suffix_refl _, Nat.le_succ _⟩, List.suffix_cons .., Nat.le_refl _⟩
      · next stays =>
          exact .pure ⟨fun _ _ _ => .first (answered.symm.trans (Bool.eq_false_iff.mpr stays)),
            ⟨List.suffix_cons .., Nat.le_refl _⟩, List.suffix_refl _,
            Nat.le_succ _⟩

/-- What the rounds of a merge from both ends come to. -/
structure Met (ranking : Ranking α) (rounds : Nat) (left right leftBack rightBack : List α)
    (meeting : Meeting α) : Prop where
  front : Takes ranking left right meeting.front meeting.left meeting.right
  back : Takes ranking.flip rightBack leftBack meeting.back meeting.rightBack meeting.leftBack
  frontLength : meeting.front.length = rounds
  backLength : meeting.back.length = rounds

theorem mergeInward_ensures {rounds : Nat} {leftBack rightBack : List α}
    (leftKnown : ∀ item ∈ left, known item) (rightKnown : ∀ item ∈ right, known item)
    (leftBackKnown : ∀ item ∈ leftBack, known item)
    (rightBackKnown : ∀ item ∈ rightBack, known item)
    (leftLength : rounds ≤ left.length) (rightLength : rounds ≤ right.length)
    (leftBackLength : rounds ≤ leftBack.length) (rightBackLength : rounds ≤ rightBack.length) :
    Ensures ranking known (Met ranking rounds left right leftBack rightBack)
      (mergeInward rounds left right leftBack rightBack) := by
  induction rounds generalizing left right leftBack rightBack with
  | zero => exact .pure ⟨.nothing .., .nothing .., rfl, rfl⟩
  | succ rounds ih =>
      rw [mergeInward]
      refine .bind (takeFirst_ensures before_follows leftKnown rightKnown (by omega) (by omega))
        fun first fromFront => ?_
      obtain ⟨takesFront, ⟨leftSuffix, leftMost⟩, rightSuffix, rightMost⟩ := fromFront
      refine .bind (takeFirst_ensures beforeFromEnd_follows rightBackKnown leftBackKnown
        (by omega) (by omega)) fun last fromBack => ?_
      obtain ⟨takesBack, ⟨rightBackSuffix, rightBackMost⟩, leftBackSuffix, leftBackMost⟩ := fromBack
      refine .bind (ih (fun item member => leftKnown item (leftSuffix.subset member))
        (fun item member => rightKnown item (rightSuffix.subset member))
        (fun item member => leftBackKnown item (leftBackSuffix.subset member))
        (fun item member => rightBackKnown item (rightBackSuffix.subset member))
        (by omega) (by omega) (by omega) (by omega)) fun meeting met => .pure ?_
      exact ⟨takesFront _ _ _ met.front, takesBack _ _ _ met.back,
        congrArg (· + 1) met.frontLength, congrArg (· + 1) met.backLength⟩

/-- Of two cuts through one list, the items between them. -/
theorem append_eq_append_of_le {first rest second back : List α}
    (same : first ++ rest = second ++ back) (le : first.length ≤ second.length) :
    second = first ++ second.drop first.length ∧ rest = second.drop first.length ++ back := by
  obtain ⟨between, rfl⟩ : first <+: second :=
    List.prefix_of_prefix_length_le ⟨rest, same⟩ ⟨back, rfl⟩ le
  rw [List.append_assoc, List.append_cancel_left_eq] at same
  rw [List.drop_left]
  exact ⟨rfl, same⟩

theorem exists_between {first rest second back : List α} (same : first ++ rest = second ++ back)
    (lt : first.length < second.length) : ∃ item ∈ second, item ∈ rest := by
  obtain ⟨secondEq, restEq⟩ := append_eq_append_of_le same (Nat.le_of_lt lt)
  cases between : second.drop first.length with
  | nil => exact absurd (List.drop_eq_nil_iff.mp between) (Nat.not_le.mpr lt)
  | cons item items =>
      rw [between] at secondEq restEq
      refine ⟨item, ?_, ?_⟩
      · rw [secondEq]
        exact List.mem_append_right _ List.mem_cons_self
      · rw [restEq]
        exact List.mem_append_left _ List.mem_cons_self

theorem ordered_of_length {items others : List α} (itemsOrdered : items.Pairwise order.le)
    (othersOrdered : others.Pairwise order.le) (short : items.length + others.length ≤ 1) :
    (items ++ others).Pairwise order.le := by
  refine List.pairwise_append.mpr ⟨itemsOrdered, othersOrdered, fun item member other also => ?_⟩
  have := List.length_pos_of_mem member
  have := List.length_pos_of_mem also
  omega

/-- Of two lists in three parts each, the first parts go ahead and the last ones behind. -/
theorem Ranking.Moves.between {first middle last second alsoMiddle alsoLast : List α}
    (passes : order.Moves ((middle ++ last) ++ second) (second ++ (middle ++ last)))
    (alsoPasses : order.Moves (last ++ alsoMiddle) (alsoMiddle ++ last)) :
    order.Moves ((first ++ (middle ++ last)) ++ (second ++ (alsoMiddle ++ alsoLast)))
      ((first ++ second) ++ (middle ++ alsoMiddle) ++ (last ++ alsoLast)) := by
  have ahead := Ranking.Moves.append (.refl order first)
    (passes.append (.refl order (alsoMiddle ++ alsoLast)))
  have behind := Ranking.Moves.append (.refl order (first ++ second))
    (.append (.refl order middle) (alsoPasses.append (.refl order alsoLast)))
  simp only [List.append_assoc] at ahead behind ⊢
  exact ahead.trans behind

/-! Either half is cut twice, by what is taken from its front and by what is taken from its end. -/

section Ends

variable {backTaken rightBack leftBack rightEnd leftEnd leftMiddle rightMiddle : List α}
  (front : Front ranking left right taken leftRest rightRest leftTaken rightTaken)
  (back : Front ranking.flip right.reverse left.reverse backTaken rightBack leftBack rightEnd
    leftEnd)

include front back

theorem Front.left_cuts : leftTaken ++ leftRest = leftBack.reverse ++ leftEnd.reverse := by
  rw [← front.left_eq, ← List.reverse_append, ← back.right_eq, List.reverse_reverse]

theorem Front.right_cuts : rightTaken ++ rightRest = rightBack.reverse ++ rightEnd.reverse := by
  rw [← front.right_eq, ← List.reverse_append, ← back.left_eq, List.reverse_reverse]

/-- Where the ends have met, what is between them goes between what was taken. -/
theorem Front.joins (leftOrdered : left.Pairwise ranking.le)
    (rightOrdered : right.Pairwise ranking.le)
    (leftBackEq : leftBack.reverse = leftTaken ++ leftMiddle)
    (leftRestEq : leftRest = leftMiddle ++ leftEnd.reverse)
    (rightBackEq : rightBack.reverse = rightTaken ++ rightMiddle)
    (rightRestEq : rightRest = rightMiddle ++ rightEnd.reverse)
    (short : leftMiddle.length + rightMiddle.length ≤ 1) :
    ranking.Sorts (left ++ right) (taken ++ (leftMiddle ++ rightMiddle) ++ backTaken.reverse) := by
  have backSorts : ranking.Sorts (leftEnd.reverse ++ rightEnd.reverse) backTaken.reverse := by
    rw [← List.reverse_append]
    exact back.sorts.reverse
  have leftEq : left = leftTaken ++ (leftMiddle ++ leftEnd.reverse) := leftRestEq ▸ front.left_eq
  have rightEq : right = rightTaken ++ (rightMiddle ++ rightEnd.reverse) :=
    rightRestEq ▸ front.right_eq
  -- What was taken from the right front goes ahead of the rest of the left half.
  have frontPasses : ranking.Moves ((leftMiddle ++ leftEnd.reverse) ++ rightTaken)
      (rightTaken ++ (leftMiddle ++ leftEnd.reverse)) := by
    refine .exchange fun exact later member earlier earlierMember => ?_
    exact front.overtook exact later member earlier (leftRestEq ▸ earlierMember)
  -- What was taken from the left end goes behind the rest of the right half.
  have endPasses : ranking.Moves (leftEnd.reverse ++ rightMiddle)
      (rightMiddle ++ leftEnd.reverse) := by
    refine .exchange fun exact later member earlier earlierMember => ?_
    refine back.overtook exact.flip earlier (List.mem_reverse.mp earlierMember) later
      (List.mem_reverse.mp ?_)
    rw [rightBackEq]
    exact List.mem_append_right _ member
  refine ⟨?moves, ?ordered⟩
  case moves =>
    rw [leftEq, rightEq]
    exact (frontPasses.between endPasses).trans
      ((front.sorts.toMoves.append (.refl ranking _)).append backSorts.toMoves)
  case ordered =>
    have leftMiddleOrdered : leftMiddle.Pairwise ranking.le := by
      rw [leftEq] at leftOrdered
      exact ((List.pairwise_append.mp leftOrdered).2.1).sublist (List.sublist_append_left _ _)
    have rightMiddleOrdered : rightMiddle.Pairwise ranking.le := by
      rw [rightEq] at rightOrdered
      exact ((List.pairwise_append.mp rightOrdered).2.1).sublist (List.sublist_append_left _ _)
    rw [List.append_assoc]
    refine List.pairwise_append.mpr ⟨front.sorts.ordered, List.pairwise_append.mpr
      ⟨ordered_of_length leftMiddleOrdered rightMiddleOrdered short, backSorts.ordered, ?_⟩, ?_⟩
    · intro item member other otherMember
      refine back.below other (List.mem_reverse.mp otherMember) item ?_
      rcases List.mem_append.mp member with member | member
      · refine List.mem_append_right _ (List.mem_reverse.mp ?_)
        rw [leftBackEq]
        exact List.mem_append_right _ member
      · refine List.mem_append_left _ (List.mem_reverse.mp ?_)
        rw [rightBackEq]
        exact List.mem_append_right _ member
    · intro item member other otherMember
      refine front.below item member other ?_
      rw [leftRestEq, rightRestEq]
      have moved : ((leftMiddle ++ rightMiddle) ++ backTaken.reverse).Perm
          ((leftMiddle ++ rightMiddle) ++ (leftEnd.reverse ++ rightEnd.reverse)) :=
        backSorts.perm.append_left _
      have same := moved.mem_iff.mp otherMember
      simp only [List.mem_append] at same ⊢
      tauto

/-- When the answers are exact, nothing is taken from both ends. -/
theorem Front.not_crossed (exact : ranking.Exact)
    (frontLength : leftTaken.length + rightTaken.length = left.length)
    (backLength : leftEnd.length + rightEnd.length = left.length)
    (notLonger : left.length ≤ right.length) :
    leftTaken.length ≤ leftBack.length ∧ rightTaken.length ≤ rightBack.length := by
  have leftCuts := front.left_cuts back
  have rightCuts := front.right_cuts back
  have leftLength := congrArg List.length back.right_eq
  have rightLength := congrArg List.length back.left_eq
  rw [List.length_reverse, List.length_append] at leftLength rightLength
  constructor
  · by_contra crossed
    -- An item of the left half is in both, and one of the right half in neither.
    obtain ⟨first, firstTaken, firstEnd⟩ := exists_between leftCuts.symm
      (by rw [List.length_reverse]; omega)
    obtain ⟨second, secondBack, secondRest⟩ := exists_between rightCuts
      (by rw [List.length_reverse]; omega)
    have less := back.overtook exact.flip first (List.mem_reverse.mp firstEnd) second
      (List.mem_reverse.mp secondBack)
    have le := front.below first (front.sorts.perm.mem_iff.mpr (List.mem_append_left _ firstTaken))
      second (List.mem_append_right _ secondRest)
    exact exact second first less le
  · by_contra crossed
    obtain ⟨second, secondTaken, secondEnd⟩ := exists_between rightCuts.symm
      (by rw [List.length_reverse]; omega)
    obtain ⟨first, firstBack, firstRest⟩ := exists_between leftCuts
      (by rw [List.length_reverse]; omega)
    have less := front.overtook exact second secondTaken first firstRest
    have le := back.below second
      (back.sorts.perm.mem_iff.mpr (List.mem_append_left _ (List.mem_reverse.mp secondEnd))) first
      (List.mem_append_right _ (List.mem_reverse.mp firstBack))
    exact exact second first less le

end Ends

theorem mergeHalves_ensures (leftKnown : ∀ item ∈ left, known item)
    (rightKnown : ∀ item ∈ right, known item) (leftOrdered : left.Pairwise ranking.le)
    (rightOrdered : right.Pairwise ranking.le) (notLonger : left.length ≤ right.length)
    (almost : right.length ≤ left.length + 1) :
    Ensures ranking known (ranking.Sorts (left ++ right)) (mergeHalves left right) := by
  rw [mergeHalves]
  refine .bind (mergeInward_ensures leftKnown rightKnown
    (fun item member => leftKnown item (List.mem_reverse.mp member))
    (fun item member => rightKnown item (List.mem_reverse.mp member)) (Nat.le_refl _) notLonger
    (Nat.le_of_eq List.length_reverse.symm) (by rwa [List.length_reverse]))
    fun meeting met => ?_
  obtain ⟨leftTaken, rightTaken, front⟩ := met.front.front leftOrdered rightOrdered
  obtain ⟨rightEnd, leftEnd, back⟩ := met.back.front (List.pairwise_reverse.mpr rightOrdered)
    (List.pairwise_reverse.mpr leftOrdered)
  have fromLeft : left.length - meeting.left.length = leftTaken.length := by
    rw [front.left_eq, List.length_append, Nat.add_sub_cancel_right]
  have fromRight : right.length - meeting.right.length = rightTaken.length := by
    rw [front.right_eq, List.length_append, Nat.add_sub_cancel_right]
  have frontLength : leftTaken.length + rightTaken.length = left.length := by
    rw [← List.length_append, ← front.sorts.perm.length_eq, met.frontLength]
  have backLength : leftEnd.length + rightEnd.length = left.length := by
    rw [Nat.add_comm, ← List.length_append, ← back.sorts.perm.length_eq, met.backLength]
  dsimp only
  rw [fromLeft, fromRight]
  split
  · next apart =>
      obtain ⟨leftBackEq, leftRestEq⟩ := append_eq_append_of_le (front.left_cuts back)
        (by rw [List.length_reverse]; exact apart.1)
      obtain ⟨rightBackEq, rightRestEq⟩ := append_eq_append_of_le (front.right_cuts back)
        (by rw [List.length_reverse]; exact apart.2)
      refine .pure (front.joins back leftOrdered rightOrdered leftBackEq leftRestEq rightBackEq
        rightRestEq ?_)
      have leftRestLength := congrArg List.length leftRestEq
      have rightRestLength := congrArg List.length rightRestEq
      rw [List.length_append, List.length_reverse] at leftRestLength rightRestLength
      have leftLength := congrArg List.length front.left_eq
      have rightLength := congrArg List.length front.right_eq
      rw [List.length_append] at leftLength rightLength
      omega
  · next crossed =>
      exact fun exact => crossed (front.not_crossed back exact frontLength backLength
        notLonger)

end Merging

end EntityStore.StableSort
