import EntityStore.Proofs.Merging

/-!
# Small portions and runs

A small portion is sorted in halves: the first items of a half by a few fixed questions
(`bounded_of_pairs`), the others by insertion, and the halves are merged from both ends.

Runs that are sorted are sorted parts of the items, and runs that are not are parts of
them as they stand.  What holds of every run holds of every join of neighbours, so the
items of all runs together stay the items that were cut (`joinAll_ensures`).
-/

set_option autoImplicit false

namespace EntityStore.StableSort

variable {α : Type} {ranking : Ranking α} {known : α → Prop} {items : List α}

/-! ## Small portions -/

theorem sortTwo_ensures {first second : α} (firstKnown : known first) (secondKnown : known second) :
    Ensures ranking known (fun pair => ranking.Sorts [first, second] [pair.1, pair.2])
      (sortTwo first second) := by
  rw [sortTwo]
  refine .bind (.before secondKnown firstKnown) fun answer answered => ?_
  split
  · next comesBefore =>
      have less : ranking.less second first = true := answered.symm.trans comesBefore
      exact .pure ⟨.swap [] [] fun _ => less, List.pairwise_pair.mpr (ranking.of_less less)⟩
  · next stays =>
      refine .pure (.of_ordered (List.pairwise_pair.mpr (ranking.of_not_less ?_)))
      exact answered.symm.trans (Bool.eq_false_iff.mpr stays)

/-- Four items with the least one in front and the greatest one at the end. -/
structure Bounded (ranking : Ranking α) (items : List α) (least left right greatest : α) :
    Prop where
  moves : ranking.Moves items [least, left, right, greatest]
  leftAbove : ranking.le least left
  rightAbove : ranking.le least right
  leftBelow : ranking.le left greatest
  rightBelow : ranking.le right greatest

theorem Bounded.sorts {items : List α} {least left right greatest low high : α}
    (bounded : Bounded ranking items least left right greatest)
    (sorts : ranking.Sorts [left, right] [low, high]) :
    ranking.Sorts items [least, low, high, greatest] := by
  have above : ∀ item ∈ [low, high], ranking.le least item ∧ ranking.le item greatest := by
    refine sorts.forall_mem (List.forall_mem_cons.mpr ⟨⟨bounded.leftAbove, bounded.leftBelow⟩, ?_⟩)
    exact List.forall_mem_singleton.mpr ⟨bounded.rightAbove, bounded.rightBelow⟩
  obtain ⟨lowBetween, others⟩ := List.forall_mem_cons.mp above
  have highBetween := List.forall_mem_singleton.mp others
  refine ⟨bounded.moves.trans ((sorts.toMoves.append (.refl ranking [greatest])).cons least), ?_⟩
  have le := List.pairwise_pair.mp sorts.ordered
  have ends := ranking.trans lowBetween.1 lowBetween.2
  simp [lowBetween, highBetween, le, ends]

/-- The least of the low ones and the greatest of the high ones bound the two others. -/
theorem bounded_of_pairs {low high otherLow otherHigh : α} (le : ranking.le low high)
    (otherLe : ranking.le otherLow otherHigh) :
    Bounded ranking [low, high, otherLow, otherHigh]
      (if ranking.less otherLow low then otherLow else low)
      (if ranking.less otherLow low then low
        else if ranking.less otherHigh high then otherLow else high)
      (if ranking.less otherHigh high then otherHigh
        else if ranking.less otherLow low then high else otherLow)
      (if ranking.less otherHigh high then high else otherHigh) := by
  have lowPasses (overtaken : ranking.less otherLow low = true) :
      ranking.Moves ([low, high] ++ [otherLow]) ([otherLow] ++ [low, high]) := by
    refine .exchange fun exact later member => ?_
    rw [List.mem_singleton.mp member]
    exact List.forall_mem_cons.mpr ⟨overtaken,
      List.forall_mem_singleton.mpr (exact.less_of_less_of_le overtaken le)⟩
  have highPasses (overtaken : ranking.less otherHigh high = true) :
      ranking.Moves ([high] ++ [otherLow, otherHigh]) ([otherLow, otherHigh] ++ [high]) := by
    refine .exchange fun exact later member earlier earlierMember => ?_
    rw [List.mem_singleton.mp earlierMember]
    revert later
    exact List.forall_mem_cons.mpr ⟨exact.less_of_le_of_less otherLe overtaken,
      List.forall_mem_singleton.mpr overtaken⟩
  cases lowAnswer : ranking.less otherLow low with
  | false =>
      have lowLe := ranking.of_not_less lowAnswer
      cases highAnswer : ranking.less otherHigh high with
      | false => exact ⟨.refl ranking _, le, lowLe, ranking.of_not_less highAnswer, otherLe⟩
      | true =>
          have highLe := ranking.of_less highAnswer
          exact ⟨(highPasses highAnswer).cons low, lowLe, ranking.trans lowLe otherLe,
            ranking.trans otherLe highLe, highLe⟩
  | true =>
      have lowLe := ranking.of_less lowAnswer
      have lowMoves := (lowPasses lowAnswer).append (.refl ranking [otherHigh])
      cases highAnswer : ranking.less otherHigh high with
      | false =>
          have highLe := ranking.of_not_less highAnswer
          exact ⟨lowMoves, lowLe, ranking.trans lowLe le, ranking.trans le highLe, highLe⟩
      | true =>
          have highMoves : ranking.Moves [otherLow, low, high, otherHigh]
              [otherLow, low, otherHigh, high] := .swap [otherLow, low] [] fun _ => highAnswer
          exact ⟨lowMoves.trans highMoves, lowLe, otherLe, le, ranking.of_less highAnswer⟩

theorem sortFour_ensures {first second third fourth : α}
    (itemsKnown : ∀ item ∈ [first, second, third, fourth], known item) :
    Ensures ranking known (ranking.Sorts [first, second, third, fourth])
      (sortFour first second third fourth) := by
  simp only [List.forall_mem_cons] at itemsKnown
  obtain ⟨firstKnown, secondKnown, thirdKnown, fourthKnown, -⟩ := itemsKnown
  rw [sortFour]
  refine .bind (sortTwo_ensures firstKnown secondKnown) fun (low, high) sorts => ?_
  refine .bind (sortTwo_ensures thirdKnown fourthKnown) fun (otherLow, otherHigh) otherSorts => ?_
  have pairKnown : ∀ item ∈ [low, high], known item :=
    sorts.forall_mem
      (List.forall_mem_cons.mpr ⟨firstKnown, List.forall_mem_singleton.mpr secondKnown⟩)
  have otherPairKnown : ∀ item ∈ [otherLow, otherHigh], known item :=
    otherSorts.forall_mem
      (List.forall_mem_cons.mpr ⟨thirdKnown, List.forall_mem_singleton.mpr fourthKnown⟩)
  obtain ⟨lowKnown, others⟩ := List.forall_mem_cons.mp pairKnown
  obtain ⟨otherLowKnown, otherOthers⟩ := List.forall_mem_cons.mp otherPairKnown
  have highKnown := List.forall_mem_singleton.mp others
  have otherHighKnown := List.forall_mem_singleton.mp otherOthers
  have bounded := bounded_of_pairs (List.pairwise_pair.mp sorts.ordered)
    (List.pairwise_pair.mp otherSorts.ordered)
  refine .bind (.before otherLowKnown lowKnown) fun lowAnswer lowAnswered => ?_
  refine .bind (.before otherHighKnown highKnown) fun highAnswer highAnswered => ?_
  rw [← lowAnswered, ← highAnswered] at bounded
  refine .bind (sortTwo_ensures ?_ ?_) fun (left, right) middleSorts => .pure ?_
  · split_ifs <;> assumption
  · split_ifs <;> assumption
  · exact .of_moves (sorts.toMoves.append otherSorts.toMoves) (bounded.sorts middleSorts)

theorem sortHead_ensures {byFour : Bool} {items : List α}
    (itemsKnown : ∀ item ∈ items, known item) :
    Ensures ranking known
      (fun parts => ∃ head, items = head ++ parts.2 ∧ ranking.Sorts head parts.1)
      (sortHead byFour items) := by
  fun_cases sortHead byFour items with
  | case1 first second third fourth items =>
      refine .bind (sortFour_ensures fun item member => itemsKnown item ?_)
        fun sorted sorts => .pure ⟨[first, second, third, fourth], rfl, sorts⟩
      exact List.mem_append_left items member
  | case2 first => exact .pure ⟨[first], rfl, .of_length Nat.one_lt_two⟩
  | case3 items few =>
      refine .pure ⟨items.take 1, (List.take_append_drop 1 items).symm, .of_length ?_⟩
      exact Nat.lt_succ_of_le (List.length_take_le 1 items)

theorem smallSort_ensures {items : List α} (itemsKnown : ∀ item ∈ items, known item) :
    Ensures ranking known (ranking.Sorts items) (smallSort items) := by
  rw [smallSort]
  split
  · next short => exact .pure (.of_length short)
  · have cut : items.take (items.length / 2) ++ items.drop (items.length / 2) = items :=
      List.take_append_drop ..
    have leftKnown : ∀ item ∈ items.take (items.length / 2), known item :=
      fun item member => itemsKnown item (List.mem_of_mem_take member)
    have rightKnown : ∀ item ∈ items.drop (items.length / 2), known item :=
      fun item member => itemsKnown item (List.mem_of_mem_drop member)
    have leftLength : (items.take (items.length / 2)).length = items.length / 2 := by
      rw [List.length_take]
      omega
    have rightLength : (items.drop (items.length / 2)).length =
        items.length - items.length / 2 := List.length_drop ..
    dsimp only
    refine .bind (sortHead_ensures leftKnown) fun (leftHead, leftRest) => ?_
    rintro ⟨leftItems, leftEq, leftSorts⟩
    refine .bind (sortHead_ensures rightKnown) fun (rightHead, rightRest) => ?_
    rintro ⟨rightItems, rightEq, rightSorts⟩
    dsimp only at leftEq leftSorts rightEq rightSorts
    generalize items.take (items.length / 2) = leftHalf at *
    generalize items.drop (items.length / 2) = rightHalf at *
    have insert {half head rest taken : List α} (halfKnown : ∀ item ∈ half, known item)
        (halfEq : half = taken ++ rest) (sorts : ranking.Sorts taken head) :
        Ensures ranking known (ranking.Sorts half) (insertAll head.reverse rest) := by
      subst halfEq
      obtain ⟨takenKnown, restKnown⟩ := List.forall_mem_append.mp halfKnown
      refine (insertAll_ensures (fun item member => ?_) restKnown
        (List.pairwise_reverse.mpr sorts.ordered)).mono fun sorted done => ?_
      · exact sorts.forall_mem takenKnown item (List.mem_reverse.mp member)
      · rw [List.reverse_reverse] at done
        exact .of_moves (sorts.toMoves.append (.refl ranking rest)) done
    refine .bind (insert leftKnown leftEq leftSorts) fun left leftDone => ?_
    refine .bind (insert rightKnown rightEq rightSorts) fun right rightDone => ?_
    have leftCount := leftDone.perm.length_eq
    have rightCount := rightDone.perm.length_eq
    refine (mergeHalves_ensures (leftDone.forall_mem leftKnown) (rightDone.forall_mem rightKnown)
      leftDone.ordered rightDone.ordered (by omega) (by omega)).mono fun sorted sorts => ?_
    rw [← cut]
    exact .of_moves (leftDone.toMoves.append rightDone.toMoves) sorts

/-! ## Runs -/

/-- Whether a run, latest first, falls all the way, or nowhere. -/
def Falls (ranking : Ranking α) : Bool → List α → Prop
  | true, run => run.Pairwise fun later earlier =>
      ranking.le later earlier ∧ (ranking.Exact → ranking.less later earlier = true)
  | false, run => run.Pairwise ranking.flip.le

theorem Falls.cons {falling : Bool} {item last : α} {run : List α}
    (falls : Falls ranking falling (last :: run)) (answer : ranking.less item last = falling) :
    Falls ranking falling (item :: last :: run) := by
  cases falling with
  | false =>
      have le := ranking.of_not_less answer
      refine List.pairwise_cons.mpr ⟨?_, falls⟩
      exact List.forall_mem_cons.mpr
        ⟨le, fun other member => ranking.trans ((List.pairwise_cons.mp falls).1 other member) le⟩
  | true =>
      have le := ranking.of_less answer
      refine List.pairwise_cons.mpr ⟨List.forall_mem_cons.mpr ⟨⟨le, fun _ => answer⟩, ?_⟩, falls⟩
      intro other member
      have below := ((List.pairwise_cons.mp falls).1 other member).1
      exact ⟨ranking.trans le below, fun exact => exact.less_of_less_of_le answer below⟩

/-- A run that falls is in order when it is read from its end. -/
theorem Falls.sorts {falling : Bool} {run : List α} (falls : Falls ranking falling run) :
    ranking.Sorts run.reverse (if falling then run else run.reverse) := by
  cases falling with
  | false => exact .of_ordered (List.pairwise_reverse.mpr falls)
  | true =>
      refine ⟨?_, falls.imp And.left⟩
      induction run with
      | nil => exact .refl ranking []
      | cons last run ih =>
          obtain ⟨below, others⟩ := List.pairwise_cons.mp falls
          have passes : ranking.Moves (run.reverse ++ [last]) ([last] ++ run.reverse) := by
            refine .exchange fun exact later member earlier earlierMember => ?_
            rw [List.mem_singleton.mp member]
            exact (below earlier (List.mem_reverse.mp earlierMember)).2 exact
          rw [List.reverse_cons]
          exact passes.trans ((ih others).cons last)

theorem extendRun_ensures {falling : Bool} {last : α} {run : List α} (lastKnown : known last)
    (itemsKnown : ∀ item ∈ items, known item) (falls : Falls ranking falling (last :: run)) :
    Ensures ranking known
      (fun parts => (last :: run).reverse ++ items = parts.1.reverse ++ parts.2 ∧
        Falls ranking falling parts.1)
      (extendRun falling last run items) := by
  induction items generalizing last run with
  | nil => exact .pure ⟨rfl, falls⟩
  | cons item items ih =>
      obtain ⟨itemKnown, othersKnown⟩ := List.forall_mem_cons.mp itemsKnown
      rw [extendRun]
      refine .bind (.before itemKnown lastKnown) fun answer answered => ?_
      split
      · next goesOn =>
          refine (ih itemKnown othersKnown (falls.cons (answered.symm.trans goesOn))).mono
            fun parts done => ?_
          rw [List.reverse_cons, List.append_assoc] at done
          exact done
      · exact .pure ⟨rfl, falls⟩

theorem naturalRun_ensures (itemsKnown : ∀ item ∈ items, known item) :
    Ensures ranking known
      (fun parts => ∃ taken, items = taken ++ parts.2 ∧ ranking.Sorts taken parts.1)
      (naturalRun items) := by
  fun_cases naturalRun items with
  | case1 first second items =>
      obtain ⟨firstKnown, others⟩ := List.forall_mem_cons.mp itemsKnown
      obtain ⟨secondKnown, othersKnown⟩ := List.forall_mem_cons.mp others
      refine .bind (.before secondKnown firstKnown) fun falling answered => ?_
      have falls : Falls ranking falling ([second, first]) := by
        refine Falls.cons ?_ answered.symm
        cases falling with
        | false | true => exact List.pairwise_singleton ..
      refine .bind (extendRun_ensures secondKnown othersKnown falls) fun (run, rest) done => ?_
      exact .pure ⟨run.reverse, done.1, done.2.sorts⟩
  | case2 items few =>
      refine .pure ⟨items, (List.append_nil items).symm, .of_length ?_⟩
      match items, few with
      | [], _ => exact Nat.zero_lt_two
      | [item], _ => exact Nat.one_lt_two
      | first :: second :: items, few => exact absurd rfl (few first second items)

/-- Whether a run holds given items, in order when it says so. -/
structure Run.Holds (ranking : Ranking α) (items : List α) (run : Run α) : Prop where
  moves : ranking.Moves items run.items
  ordered : run.sorted = true → run.items.Pairwise ranking.le

theorem Run.Holds.of_sorts {sorted : List α} (sorts : ranking.Sorts items sorted) :
    Run.Holds ranking items ⟨sorted, true⟩ :=
  ⟨sorts.toMoves, fun _ => sorts.ordered⟩

theorem createRun_ensures {eager : Bool} {minimum : Nat} (itemsKnown : ∀ item ∈ items, known item)
    (some : items ≠ []) (positive : 0 < minimum) :
    Ensures ranking known
      (fun parts => ∃ taken, items = taken ++ parts.2 ∧ taken ≠ [] ∧
        Run.Holds ranking taken parts.1)
      (createRun eager minimum items) := by
  have found : Ensures ranking known
      (fun parts => ∃ taken, items = taken ++ parts.2 ∧ ranking.Sorts taken parts.1)
      (runFrom minimum items) := by
    rw [runFrom]
    split
    · exact naturalRun_ensures itemsKnown
    · exact .pure ⟨[], rfl, .of_ordered .nil⟩
  have taken_ne {count : Nat} (some : items ≠ []) (positive : 0 < count) :
      items.take count ≠ [] := by
    rw [ne_eq, List.take_eq_nil_iff]
    exact not_or.mpr ⟨Nat.pos_iff_ne_zero.mp positive, some⟩
  rw [createRun]
  refine .bind found fun (run, rest) => ?_
  rintro ⟨taken, cut, sorts⟩
  dsimp only at cut sorts ⊢
  split_ifs with long
  · refine .pure ⟨taken, cut, ?_, .of_sorts sorts⟩
    rintro rfl
    rw [sorts.perm.eq_nil] at long
    exact Nat.not_le.mpr positive long
  · refine .bind (smallSort_ensures fun item member =>
      itemsKnown item (List.mem_of_mem_take member)) fun sorted sorts => .pure ?_
    exact ⟨items.take smallLength, (List.take_append_drop ..).symm,
      taken_ne some (by decide), .of_sorts sorts⟩
  · exact .pure ⟨items.take minimum, (List.take_append_drop ..).symm, taken_ne some positive,
      .refl ranking _, nofun⟩

/-! ## Joining runs -/

/-- Whether a computation sorts parts of known items. -/
def SortsParts (ranking : Ranking α) (known : α → Prop)
    (sortPart : List α → Comparing α (List α)) : Prop :=
  ∀ items, (∀ item ∈ items, known item) →
    Ensures ranking known (ranking.Sorts items) (sortPart items)

variable {sortPart : List α → Comparing α (List α)} {room : Nat} {run left right : Run α}
  {leftItems rightItems : List α}

theorem Run.Holds.settle_ensures (sortsParts : SortsParts ranking known sortPart)
    (holds : Run.Holds ranking items run) (itemsKnown : ∀ item ∈ items, known item) :
    Ensures ranking known (ranking.Sorts items) (run.settle sortPart) := by
  rw [Run.settle]
  split
  · next sorted => exact .pure ⟨holds.moves, holds.ordered sorted⟩
  · exact (sortsParts run.items (holds.moves.forall_mem itemsKnown)).mono
      fun _ sorts => .of_moves holds.moves sorts

theorem joinRuns_ensures (sortsParts : SortsParts ranking known sortPart)
    (leftHolds : Run.Holds ranking leftItems left) (rightHolds : Run.Holds ranking rightItems right)
    (itemsKnown : ∀ item ∈ leftItems ++ rightItems, known item) :
    Ensures ranking known (Run.Holds ranking (leftItems ++ rightItems))
      (joinRuns room sortPart left right) := by
  obtain ⟨leftKnown, rightKnown⟩ := List.forall_mem_append.mp itemsKnown
  rw [joinRuns]
  split
  · exact .pure ⟨leftHolds.moves.append rightHolds.moves, nofun⟩
  · refine .bind (leftHolds.settle_ensures sortsParts leftKnown) fun leftSorted leftSorts => ?_
    refine .bind (rightHolds.settle_ensures sortsParts rightKnown) fun rightSorted rightSorts => ?_
    refine .bind (merge_ensures (leftSorts.forall_mem leftKnown) (rightSorts.forall_mem rightKnown)
      leftSorts.ordered rightSorts.ordered) fun merged sorts => .pure (.of_sorts ?_)
    exact .of_moves (leftSorts.toMoves.append rightSorts.toMoves) sorts

/-- Whether runs, latest first, hold given items.  The earliest one is empty. -/
inductive Hold (ranking : Ranking α) : List (Run α × Nat) → List α → Prop where
  | nothing : Hold ranking [] []
  | bottom {run : Run α} (depth : Nat) (holds : Run.Holds ranking [] run) :
      Hold ranking [(run, depth)] []
  | above {run : Run α} {next : Run α × Nat} {earlier : List (Run α × Nat)} {items taken : List α}
      (depth : Nat) (hold : Hold ranking (next :: earlier) items)
      (holds : Run.Holds ranking taken run) :
      Hold ranking ((run, depth) :: next :: earlier) (items ++ taken)

theorem joinDeeper_ensures (sortsParts : SortsParts ranking known sortPart) {depth : Nat}
    {latest : Run α} {earlier : List (Run α × Nat)} {items taken : List α}
    (hold : Hold ranking earlier items) (holds : Run.Holds ranking taken latest)
    (itemsKnown : ∀ item ∈ items ++ taken, known item) :
    Ensures ranking known
      (fun joined => ∃ kept part, items ++ taken = kept ++ part ∧ Hold ranking joined.2 kept ∧
        Run.Holds ranking part joined.1 ∧ (joined.2 = [] → earlier = []) ∧
          (depth = 0 → joined.2.length ≤ 1))
      (joinDeeper room sortPart depth latest earlier) := by
  fun_induction joinDeeper room sortPart depth latest earlier generalizing items taken with
  | case1 latest run runDepth next earlier deeper ih =>
      cases hold with
      | above runDepth hold runHolds =>
          rw [List.append_assoc] at itemsKnown
          have partKnown := (List.forall_mem_append.mp itemsKnown).2
          refine .bind (joinRuns_ensures sortsParts runHolds holds partKnown) fun joined done => ?_
          refine (ih joined hold done itemsKnown).mono fun result => ?_
          rintro ⟨kept, part, same, left, joinedHolds, nothingBefore, few⟩
          rw [List.append_assoc]
          exact ⟨kept, part, same, left, joinedHolds, fun none => (nomatch nothingBefore none), few⟩
  | case2 latest run runDepth next earlier shallow =>
      exact .pure ⟨items, taken, rfl, hold, holds, nofun,
        fun zero => absurd (zero ▸ Nat.zero_le _) shallow⟩
  | case3 latest earlier few =>
      refine .pure ⟨items, taken, rfl, hold, holds, id, fun _ => ?_⟩
      match earlier, few with
      | [], _ => exact Nat.zero_le 1
      | [entry], _ => exact Nat.le_refl 1
      | (run, runDepth) :: next :: earlier, few => exact absurd rfl (few run runDepth next earlier)

theorem Hold.push {depth : Nat} {latest : Run α} {earlier : List (Run α × Nat)}
    {items taken : List α} (hold : Hold ranking earlier items)
    (holds : Run.Holds ranking taken latest) (bottom : earlier = [] → taken = []) :
    Hold ranking ((latest, depth) :: earlier) (items ++ taken) := by
  cases earlier with
  | nil =>
      cases hold
      cases bottom rfl
      exact .bottom depth holds
  | cons next earlier => exact .above depth hold holds

/-- In the end all runs are joined. -/
theorem joinDown_ensures (sortsParts : SortsParts ranking known sortPart) {latest : Run α}
    {earlier : List (Run α × Nat)} {items taken : List α} (hold : Hold ranking earlier items)
    (holds : Run.Holds ranking taken latest) (itemsKnown : ∀ item ∈ items ++ taken, known item) :
    Ensures ranking known (Run.Holds ranking (items ++ taken))
      (do return (← joinDeeper room sortPart 0 latest earlier).1) := by
  refine .bind (joinDeeper_ensures sortsParts hold holds itemsKnown) fun (joined, left) => ?_
  rintro ⟨kept, part, same, leftHold, joinedHolds, -, few⟩
  refine .pure ?_
  have none : kept = [] := by
    cases leftHold with
    | nothing | bottom => rfl
    | above => exact absurd (few rfl) (by simp)
  rw [same, none]
  exact joinedHolds

theorem joinAll_ensures {policy : RunPolicy α}
    (sortsParts : SortsParts ranking known policy.sortPart) (positive : 0 < policy.minimum)
    {limit scanned : Nat} {latest : Run α} {earlier : List (Run α × Nat)}
    {held taken items : List α} (enough : items.length ≤ limit) (hold : Hold ranking earlier held)
    (holds : Run.Holds ranking taken latest) (bottom : earlier = [] → taken = [])
    (itemsKnown : ∀ item ∈ held ++ taken ++ items, known item) :
    Ensures ranking known (Run.Holds ranking (held ++ taken ++ items))
      (joinAll policy limit scanned latest earlier items) := by
  induction limit generalizing scanned latest earlier held taken items with
  | zero =>
      cases List.length_eq_zero_iff.mp (Nat.le_zero.mp enough)
      rw [List.append_nil] at itemsKnown ⊢
      rw [joinAll]
      exact joinDown_ensures sortsParts hold holds itemsKnown
  | succ limit ih =>
      cases items with
      | nil =>
          rw [List.append_nil] at itemsKnown ⊢
          rw [joinAll]
          exact joinDown_ensures sortsParts hold holds itemsKnown
      | cons item items =>
          obtain ⟨heldKnown, cutKnown⟩ := List.forall_mem_append.mp itemsKnown
          rw [joinAll]
          refine .bind (createRun_ensures cutKnown (List.cons_ne_nil item items) positive)
            fun (run, rest) => ?_
          rintro ⟨made, cut, some, runHolds⟩
          refine .bind (joinDeeper_ensures sortsParts hold holds heldKnown)
            fun (joined, earlierLeft) => ?_
          rintro ⟨kept, part, same, left, joinedHolds, nothingBefore, -⟩
          have pushBottom : earlierLeft = [] → part = [] := by
            intro none
            have nothing := nothingBefore none
            rw [bottom nothing, List.append_nil] at same
            subst nothing
            cases hold
            exact (List.append_eq_nil_iff.mp same.symm).2
          have shorter := congrArg List.length cut
          rw [List.length_append] at shorter
          have madeSome := List.length_pos_iff.mpr some
          rw [same, cut, ← List.append_assoc] at itemsKnown ⊢
          have enoughLeft : rest.length ≤ limit := by
            rw [List.length_cons] at shorter enough
            dsimp only at shorter
            omega
          exact ih enoughLeft (left.push joinedHolds pushBottom) runHolds nofun itemsKnown

theorem goodLength_pos {count : Nat} (some : 0 < count) : 0 < goodLength count := by
  rw [goodLength]
  split
  · omega
  · next large =>
      have deep : 1 ≤ Nat.log2 count := (Nat.le_log2 (by omega)).mpr (by omega)
      have wide : 1 < 1 <<< ((1 + Nat.log2 count) / 2) := by
        rw [Nat.one_shiftLeft]
        exact Nat.one_lt_two_pow (by omega)
      exact Nat.div_pos (Nat.le_trans wide (Nat.le_add_right ..)) Nat.zero_lt_two

theorem sortByRuns_ensures {eager : Bool} (sortsParts : SortsParts ranking known sortPart)
    (itemsKnown : ∀ item ∈ items, known item) :
    Ensures ranking known (ranking.Sorts items) (sortByRuns eager room sortPart items) := by
  rw [sortByRuns]
  have empty : Run.Holds ranking [] (⟨[], true⟩ : Run α) := .of_sorts (.of_ordered .nil)
  cases items with
  | nil => exact .pure (.of_ordered .nil)
  | cons item items =>
      have positive := goodLength_pos (Nat.succ_pos items.length)
      refine .bind (joinAll_ensures sortsParts positive (Nat.le_refl _) .nothing empty
        (fun _ => rfl) itemsKnown) fun run holds => ?_
      exact holds.settle_ensures sortsParts itemsKnown

end EntityStore.StableSort
