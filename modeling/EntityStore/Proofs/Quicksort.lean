import EntityStore.Proofs.SortedRuns

/-!
# The sort sorts

A quicksort parts items around a pivot.  Below the pivot go the items that come before
it, in their old order, and the others stay behind them.  Where no item comes before
the pivot it is the items that tie with it which go to the left, and they are sorted
already.

The whole sort is made of insertions, runs and quicksorts, so its result holds the items
in the order, with ties as they stood when the answers are exact, and then it does not
break off (`sort_ensures`).  A few items are sorted by insertion alone, which never
breaks off, whatever the answers are (`isSome_sort_of_few`).
-/

set_option autoImplicit false

namespace EntityStore.StableSort

variable {α : Type} {ranking : Ranking α} {known : α → Prop} {items : List α}

/-! ## Pivots -/

theorem middleOf_ensures {first second third : Nat} (itemsKnown : ∀ item ∈ items, known item)
    (firstLt : first < items.length) (secondLt : second < items.length)
    (thirdLt : third < items.length) :
    Ensures ranking known (· < items.length) (middleOf items first second third) := by
  rw [middleOf]
  split
  · next a b c firstAt secondAt thirdAt =>
      have aKnown := itemsKnown a (List.mem_of_getElem? firstAt)
      have bKnown := itemsKnown b (List.mem_of_getElem? secondAt)
      have cKnown := itemsKnown c (List.mem_of_getElem? thirdAt)
      refine .bind (.before aKnown bKnown) fun overSecond _ => ?_
      refine .bind (.before aKnown cKnown) fun overThird _ => ?_
      split
      · refine .bind (.before bKnown cKnown) fun answer _ => ?_
        split
        · exact .pure secondLt
        · exact .pure thirdLt
      · exact .pure firstLt
  · exact .pure firstLt

theorem middleOfRegions_ensures {first second third length : Nat}
    (itemsKnown : ∀ item ∈ items, known item) (positive : 0 < length)
    (firstLe : first + length ≤ items.length) (secondLe : second + length ≤ items.length)
    (thirdLe : third + length ≤ items.length) :
    Ensures ranking known (· < items.length)
      (middleOfRegions items first second third length) := by
  induction length using Nat.strongRecOn generalizing first second third with
  | ind length ih =>
      rw [middleOfRegions]
      split
      · next long =>
          have smaller : length / 8 < length := by omega
          have inside {place : Nat} (le : place + length ≤ items.length) :
              Ensures ranking known (· < items.length)
                (middleOfRegions items place (place + length / 8 * 4) (place + length / 8 * 7)
                  (length / 8)) :=
            ih (length / 8) smaller (by omega) (by omega) (by omega) (by omega)
          refine .bind (inside firstLe) fun first firstLt => ?_
          refine .bind (inside secondLe) fun second secondLt => ?_
          refine .bind (inside thirdLe) fun third thirdLt => ?_
          exact middleOf_ensures itemsKnown firstLt secondLt thirdLt
      · exact middleOf_ensures itemsKnown (by omega) (by omega) (by omega)

theorem choosePivot_ensures (itemsKnown : ∀ item ∈ items, known item) (long : 8 ≤ items.length) :
    Ensures ranking known (· < items.length) (choosePivot items) :=
  middleOfRegions_ensures itemsKnown (by omega) (by omega) (by omega) (by omega)

/-! ## Quicksort -/

section Quicksort

variable {goesLeft : α → Comparing α Bool} {goes : α → Bool} {room : Nat} {pivot : α}
  {pivotLeft : Bool} {earlier later : List α}

theorem part_ensures (decides : ∀ item ∈ items,
      Ensures ranking known (fun answer => answer = goes item) (goesLeft item)) :
    Ensures ranking known (fun parts => parts = (items.filter goes, items.filter (! goes ·)))
      (part goesLeft items) := by
  induction items with
  | nil => exact .pure rfl
  | cons item items ih =>
      obtain ⟨first, others⟩ := List.forall_mem_cons.mp decides
      rw [part]
      refine .bind first fun answer answered => ?_
      refine .bind (ih others) fun (left, right) parted => .pure ?_
      cases parted
      rw [List.filter_cons, List.filter_cons, ← answered]
      cases answer with
      | false | true => rfl

/-- Items of one side stay as they stand when all are parted. -/
theorem filter_parts {picks : α → Bool} {side : Bool}
    (alike : ∀ item, picks item = true → goes item = side) (items : List α) :
    (items.filter goes ++ items.filter (! goes ·)).filter picks = items.filter picks := by
  induction items with
  | nil => rfl
  | cons item items ih =>
      rw [List.filter_append] at ih ⊢
      cases picked : picks item with
      | false =>
          cases went : goes item with
          | false | true => simpa [List.filter_cons, picked, went] using ih
      | true =>
          cases side with
          | true => simpa [List.filter_cons, picked, alike item picked] using ih
          | false =>
              have none : (items.filter goes).filter picks = [] := by
                refine List.filter_eq_nil_iff.mpr fun other member alsoPicked => ?_
                exact Bool.false_ne_true
                  ((alike other alsoPicked).symm.trans (List.mem_filter.mp member).2)
              rw [none, List.nil_append] at ih
              simpa [List.filter_cons, picked, alike item picked, none] using ih

theorem perm_parts (first second third fourth : List α) :
    ((first ++ second) ++ (third ++ fourth)).Perm ((first ++ third) ++ (second ++ fourth)) := by
  rw [List.append_assoc, List.append_assoc]
  exact (List.perm_append_comm_assoc second third fourth).append_left first

/-- What goes to the left and to the right of an item that goes to a side of its own. -/
def sides (goes : α → Bool) (pivotLeft : Bool) (earlier : List α) (pivot : α) (later : List α) :
    List α × List α :=
  if pivotLeft then
    (earlier.filter goes ++ pivot :: later.filter goes,
      earlier.filter (! goes ·) ++ later.filter (! goes ·))
  else
    (earlier.filter goes ++ later.filter goes,
      earlier.filter (! goes ·) ++ pivot :: later.filter (! goes ·))

theorem partAround_ensures (goes : α → Bool) (decides : ∀ item ∈ earlier ++ pivot :: later,
      Ensures ranking known (fun answer => answer = goes item) (goesLeft item)) :
    Ensures ranking known (fun parts => parts = sides goes pivotLeft earlier pivot later)
      (partAround goesLeft pivotLeft earlier pivot later) := by
  obtain ⟨earlierDecides, others⟩ := List.forall_mem_append.mp decides
  obtain ⟨-, laterDecides⟩ := List.forall_mem_cons.mp others
  rw [partAround]
  refine .bind (part_ensures earlierDecides) fun (left, right) parted => ?_
  refine .bind (part_ensures laterDecides) fun (laterLeft, laterRight) laterParted => .pure ?_
  cases parted
  cases laterParted
  rfl

/-- Parting items around one of them moves them, when the item goes to its own side and items that
tie go to one side. -/
theorem moves_sides (own : ranking.Exact → goes pivot = pivotLeft)
    (alike : ranking.Exact → ∀ first second, ranking.ties first second = true →
      goes second = goes first) :
    ranking.Moves (earlier ++ pivot :: later) ((sides goes pivotLeft earlier pivot later).1 ++
      (sides goes pivotLeft earlier pivot later).2) where
  perm := by
    have whole : ((earlier.filter goes ++ earlier.filter (! goes ·)) ++
        (pivot :: (later.filter goes ++ later.filter (! goes ·)))).Perm
          (earlier ++ pivot :: later) :=
      (List.filter_append_perm goes earlier).append
        ((List.filter_append_perm goes later).cons pivot)
    cases pivotLeft with
    | true => exact (perm_parts ..).trans whole
    | false => exact (perm_parts ..).trans ((List.perm_middle.append_left _).trans whole)
  stable exact item := by
    have parted : (sides goes pivotLeft earlier pivot later).1 ++
        (sides goes pivotLeft earlier pivot later).2 =
          (earlier ++ pivot :: later).filter goes ++
            (earlier ++ pivot :: later).filter (! goes ·) := by
      cases pivotLeft with
      | false | true => simp [sides, own exact]
    rw [parted]
    exact filter_parts (alike exact item) _

theorem mem_left {item : α} (member : item ∈ (sides goes pivotLeft earlier pivot later).1) :
    goes item = true ∨ item = pivot := by
  cases pivotLeft with
  | false | true => grind [sides]

theorem mem_right {item : α} (member : item ∈ (sides goes pivotLeft earlier pivot later).2) :
    goes item = false ∨ item = pivot := by
  cases pivotLeft with
  | false | true => grind [sides]

/-- Items parted at a pivot: those on one side are not above it, those on the other not below. -/
structure Split (ranking : Ranking α) (pivot : α) (items left right : List α) : Prop where
  moves : ranking.Moves items (left ++ right)
  below : ∀ item ∈ left, ranking.le item pivot
  above : ∀ item ∈ right, ranking.le pivot item

theorem split_sides (own : ranking.Exact → goes pivot = pivotLeft)
    (alike : ranking.Exact → ∀ first second, ranking.ties first second = true →
      goes second = goes first)
    (went : ∀ item, goes item = true → ranking.le item pivot)
    (stayed : ∀ item, goes item = false → ranking.le pivot item) :
    Split ranking pivot (earlier ++ pivot :: later) (sides goes pivotLeft earlier pivot later).1
      (sides goes pivotLeft earlier pivot later).2 where
  moves := moves_sides own alike
  below item member := by
    rcases mem_left member with goes | rfl
    · exact went item goes
    · exact ranking.le_refl item
  above item member := by
    rcases mem_right member with stays | rfl
    · exact stayed item stays
    · exact ranking.le_refl item

/-- Sorted sides of a pivot are sorted together. -/
theorem Split.sorts {leftSorted rightSorted left right : List α}
    (split : Split ranking pivot items left right) (leftSorts : ranking.Sorts left leftSorted)
    (rightSorts : ranking.Sorts right rightSorted) :
    ranking.Sorts items (leftSorted ++ rightSorted) where
  toMoves := split.moves.trans (leftSorts.toMoves.append rightSorts.toMoves)
  ordered := by
    refine List.pairwise_append.mpr ⟨leftSorts.ordered, rightSorts.ordered, ?_⟩
    intro item member other otherMember
    exact ranking.trans (leftSorts.forall_mem split.below item member)
      (rightSorts.forall_mem split.above other otherMember)

variable {ancestor : Option α}

/-- Whether an ancestor is known and none of the items is below it. -/
def IsAncestor (ranking : Ranking α) (known : α → Prop) (items : List α) (ancestor : Option α) :
    Prop :=
  ∀ held ∈ ancestor, known held ∧ ∀ item ∈ items, ranking.le held item

theorem tiesWith_ensures (pivotKnown : known pivot)
    (isAncestor : IsAncestor ranking known items ancestor) :
    Ensures ranking known
      (fun ties => ties = true → ∀ item ∈ items, ranking.le pivot item)
      (tiesWith pivot ancestor) := by
  cases ancestor with
  | none => exact .pure nofun
  | some held =>
      obtain ⟨heldKnown, least⟩ := isAncestor held rfl
      refine (Ensures.notBefore heldKnown pivotKnown).mono ?_
      intro answer answered ties item member
      have le : ranking.le pivot held :=
        ranking.of_not_less (Bool.not_eq_true' _ ▸ answered.symm.trans ties)
      exact ranking.trans le (least item member)

theorem partBelow_ensures (itemsKnown : ∀ item ∈ earlier ++ pivot :: later, known item)
    (isAncestor : IsAncestor ranking known (earlier ++ pivot :: later) ancestor) :
    Ensures ranking known
      (fun parts => Split ranking pivot (earlier ++ pivot :: later) parts.1 parts.2)
      (partBelow ancestor earlier pivot later) := by
  have pivotKnown := itemsKnown pivot (List.mem_append_right _ List.mem_cons_self)
  rw [partBelow]
  refine .bind (tiesWith_ensures pivotKnown isAncestor) fun ties tied => ?_
  split
  · next holds => exact .pure ⟨.refl ranking _, nofun, tied holds⟩
  · refine (partAround_ensures (ranking.less · pivot)
      fun item member => .before (itemsKnown item member) pivotKnown).mono fun parts parted => ?_
    subst parted
    refine split_sides (fun exact => ?_) (fun exact first second tied => ?_)
      (fun _ => ranking.of_less) fun _ => ranking.of_not_less
    · exact exact.not_less (ranking.le_refl pivot)
    · exact (exact.less_congr tied).1.symm

theorem partSame_ensures (itemsKnown : ∀ item ∈ earlier ++ pivot :: later, known item) :
    Ensures ranking known
      (fun parts => Split ranking pivot (earlier ++ pivot :: later) parts.1 parts.2)
      (partAround (Comparing.notBefore pivot) true earlier pivot later) := by
  have pivotKnown := itemsKnown pivot (List.mem_append_right _ List.mem_cons_self)
  refine (partAround_ensures (! ranking.less pivot ·)
    fun item member => .notBefore pivotKnown (itemsKnown item member)).mono fun parts parted => ?_
  subst parted
  refine split_sides (fun exact => ?_) (fun exact first second tied => ?_) (fun item went => ?_)
    fun item stayed => ?_
  · rw [exact.not_less (ranking.le_refl pivot), Bool.not_false]
  · rw [(exact.less_congr tied).2]
  · exact ranking.of_not_less (Bool.not_eq_true' _ ▸ went)
  · exact ranking.of_less (Bool.not_eq_false' _ ▸ stayed)

theorem quicksort_ensures {limit : Nat} (itemsKnown : ∀ item ∈ items, known item)
    (isAncestor : IsAncestor ranking known items ancestor) :
    Ensures ranking known (ranking.Sorts items) (quicksort room limit ancestor items) := by
  induction limit generalizing ancestor items with
  | zero =>
      rw [quicksort]
      split
      · exact smallSort_ensures itemsKnown
      · exact sortByRuns_ensures (fun _ => insertionSort_ensures) itemsKnown
  | succ limit ih =>
      rw [quicksort]
      split
      · exact smallSort_ensures itemsKnown
      · next long =>
          refine .bind (choosePivot_ensures itemsKnown (by rw [smallLength] at long; omega))
            fun place inside => ?_
          have cut := List.take_append_drop place items
          cases rest : items.drop place with
          | nil => exact absurd (List.drop_eq_nil_iff.mp rest) (Nat.not_le.mpr inside)
          | cons pivot later =>
              rw [rest] at cut
              dsimp only
              generalize items.take place = earlier at cut ⊢
              subst cut
              have pivotKnown := itemsKnown pivot (List.mem_append_right _ List.mem_cons_self)
              refine .bind (partBelow_ensures itemsKnown isAncestor) fun (below, others) split => ?_
              dsimp only at split ⊢
              obtain ⟨belowKnown, othersKnown⟩ :=
                List.forall_mem_append.mp (split.moves.forall_mem itemsKnown)
              split
              · next nothing =>
                  cases List.isEmpty_iff.mp nothing
                  have least : ∀ item ∈ earlier ++ pivot :: later, ranking.le pivot item :=
                    fun item member => split.above item (split.moves.perm.mem_iff.mpr member)
                  refine .bind (partSame_ensures itemsKnown) fun (same, above) again => ?_
                  obtain ⟨-, aboveKnown⟩ :=
                    List.forall_mem_append.mp (again.moves.forall_mem itemsKnown)
                  refine .bind (ih aboveKnown nofun) fun aboveSorted aboveSorts =>
                    .pure (again.sorts (.of_ordered ?_) aboveSorts)
                  refine List.pairwise_of_forall_mem_list fun item member other otherMember => ?_
                  have otherLeast := again.moves.forall_mem least other
                    (List.mem_append_left _ otherMember)
                  exact ranking.trans (again.below item member) otherLeast
              · refine .bind (ih othersKnown ?_) fun othersSorted othersSorts => ?_
                · rintro held ⟨⟩
                  exact ⟨pivotKnown, split.above⟩
                · refine .bind (ih belowKnown ?_) fun belowSorted belowSorts =>
                    .pure (split.sorts belowSorts othersSorts)
                  intro held same
                  obtain ⟨heldKnown, least⟩ := isAncestor held same
                  exact ⟨heldKnown, (List.forall_mem_append.mp
                    (split.moves.forall_mem least)).1⟩

/-! ## The whole sort -/

/-- **A sort moves its items into the order of any ranking.**  It asks about its items only, keeps
those that tie as they stood when the answers are exact, and breaks off at most when they are
not. -/
theorem sort_ensures (ranking : Ranking α) (items : List α) :
    Ensures ranking (· ∈ items) (ranking.Sorts items) (sort items) := by
  rw [sort]
  split
  · exact insertionSort_ensures fun _ => id
  · exact sortByRuns_ensures (fun _ partKnown => quicksort_ensures partKnown nofun) fun _ => id

end Quicksort

/-! ## Answers of any kind -/

/-- Whatever the answers are, a sort moves its items and does nothing else. -/
theorem perm_of_run_sort {less : α → α → Bool} {sorted : List α}
    (done : (sort items).run less = some sorted) : sorted.Perm items := by
  have ensures := sort_ensures (.arbitrary less) items
  exact (ensures.run_eq.1 sorted done).perm

/-- Items none of which comes before another stay where they are. -/
theorem run_sort_of_never {less : α → α → Bool} (never : ∀ left right, less left right = false) :
    (sort items).run less = some items := by
  have exact : (Ranking.arbitrary less).Exact :=
    fun left right before => absurd before (Bool.eq_false_iff.mp (never left right))
  have ensures := sort_ensures (.arbitrary less) items
  cases found : (sort items).run less with
  | none => exact absurd exact (ensures.run_eq.2 found)
  | some sorted =>
      have sorts := ensures.run_eq.1 sorted found
      cases items with
      | nil => rw [sorts.perm.eq_nil]
      | cons item items =>
          have tied : (Ranking.arbitrary less).ties item = fun _ => true := by
            funext other
            simp only [Ranking.ties, Ranking.arbitrary, never, Bool.not_false, Bool.and_self]
          have same := sorts.stable exact item
          rw [tied, List.filter_true, List.filter_true] at same
          rw [same]

/-! ## Few items -/

theorem isSome_insertBack (less : α → α → Bool) (item : α) (sorted : List α) :
    ((insertBack item sorted).run less).isSome = true := by
  induction sorted with
  | nil => rfl
  | cons last earlier ih =>
      rw [insertBack, Comparing.run_bind]
      cases answer : less item last with
      | false => simp [Comparing.before, Comparing.run, answer, pure]
      | true =>
          obtain ⟨inserted, found⟩ := Option.isSome_iff_exists.mp ih
          simp [Comparing.before, Comparing.run, answer, Comparing.run_bind, found, pure]

theorem isSome_insertAll (less : α → α → Bool) (sorted items : List α) :
    ((insertAll sorted items).run less).isSome = true := by
  induction items generalizing sorted with
  | nil => rfl
  | cons item items ih =>
      obtain ⟨inserted, found⟩ := Option.isSome_iff_exists.mp (isSome_insertBack less item sorted)
      rw [insertAll, Comparing.run_bind, found]
      exact ih inserted

/-- The sort of a few items never breaks off. -/
theorem isSome_sort_of_few (few : items.length ≤ 20) (less : α → α → Bool) :
    ((sort items).run less).isSome = true := by
  rw [sort, if_pos few]
  exact isSome_insertAll less [] items

end EntityStore.StableSort
