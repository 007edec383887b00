import Mathlib.Data.List.Basic
import EntityStore.Sorting

/-!
# Answers that follow an order

What a sort answers depends on how its questions are answered, and on nothing else: two
ways that agree on the questions that are asked lead to the same result
(`Comparing.run_congr`).

A ranking is an order together with a way to answer that never says the contrary of it
(`StableSort.Ranking`): an item that comes before another is not after it in the order,
and one that does not is not before it.  Between items that the order does not tell
apart the answers may be anything, and they may contradict each other.

That is all a sort needs in order to sort (`Ranking.Sorts`): its result holds the same
items in the order.  When the answers are the order itself, the ranking is exact, and
then items that tie stay as they stood and no sort breaks off.  Both are one statement
about the computation, and it is carried from each step to the next
(`StableSort.Ensures`), together with the items that the questions are about.
-/

set_option autoImplicit false

namespace EntityStore

/-! ## Running computations -/

namespace Comparing

variable {α β γ ε : Type} {less other : α → α → Bool} {compare : α → α → Except ε Ordering}
  {computation : Comparing α β} {next : β → Comparing α γ} {left right : α} {fault : ε}

theorem run_bind (less : α → α → Bool) (computation : Comparing α β)
    (next : β → Comparing α γ) :
    (computation >>= next).run less =
      (computation.run less).bind fun result => (next result).run less := by
  induction computation with
  | done | broken => rfl
  | ask left right answered ih => exact ih _

/-- Answers that agree on what is asked lead to the same result. -/
theorem run_congr
    (agree : ∀ question ∈ computation.questions less,
      other question.1 question.2 = less question.1 question.2) :
    computation.run other = computation.run less ∧
      computation.questions other = computation.questions less := by
  induction computation with
  | done | broken => exact ⟨rfl, rfl⟩
  | ask left right answered ih =>
      obtain ⟨first, others⟩ := List.forall_mem_cons.mp agree
      obtain ⟨result, asked⟩ := ih _ others
      rw [run, run, questions, questions, first]
      exact ⟨result, congrArg _ asked⟩

theorem places_eq_true_iff : places compare left right = true ↔ compare left right = .ok .lt := by
  rw [places]
  split
  · next found => exact iff_of_true rfl found
  · next found => exact iff_of_false Bool.false_ne_true found

/-- A comparison has no fault that could be reported when it decides everything that is asked. -/
theorem faults_eq_nil_iff :
    computation.faults compare = [] ↔
      ∀ question ∈ computation.questions (places compare),
        ∃ order, compare question.1 question.2 = .ok order := by
  rw [faults, List.filterMap_eq_nil_iff]
  refine forall₂_congr fun question _ => ?_
  cases compare question.1 question.2 <;> simp

theorem mem_faults_iff :
    fault ∈ computation.faults compare ↔
      ∃ question ∈ computation.questions (places compare),
        compare question.1 question.2 = .error fault := by
  rw [faults, List.mem_filterMap]
  refine exists_congr fun question => and_congr_right fun _ => ?_
  cases compare question.1 question.2 <;> simp

end Comparing

/-! ## Answers that follow an order -/

namespace StableSort

/-- An order, and answers that never say the contrary of it. -/
structure Ranking (α : Type) where
  less : α → α → Bool
  le : α → α → Prop
  trans : ∀ {first second third : α}, le first second → le second third → le first third
  of_less : ∀ {left right : α}, less left right = true → le left right
  of_not_less : ∀ {left right : α}, less left right = false → le right left

namespace Ranking

variable {α : Type} {ranking : Ranking α} {first second third item : α}

/-- Any answers at all, with the order that tells nothing apart. -/
def arbitrary (less : α → α → Bool) : Ranking α where
  less
  le _ _ := True
  trans _ _ := trivial
  of_less _ := trivial
  of_not_less _ := trivial

/-- The order of numbers that stand for items. -/
def ofRank (rank : α → Nat) (less : α → α → Bool)
    (of_less : ∀ {left right : α}, less left right = true → rank left ≤ rank right)
    (of_not_less : ∀ {left right : α}, less left right = false → rank right ≤ rank left) :
    Ranking α where
  less
  le left right := rank left ≤ rank right
  trans := Nat.le_trans
  of_less
  of_not_less

/-- Whether the answers are the order itself. -/
def Exact (ranking : Ranking α) : Prop :=
  ∀ left right, ranking.less left right = true → ¬ ranking.le right left

/-- Whether neither of two items comes before the other. -/
def ties (ranking : Ranking α) (left right : α) : Bool :=
  !ranking.less left right && !ranking.less right left

/-- The order from its other end. -/
def flip (ranking : Ranking α) : Ranking α where
  less left right := ranking.less right left
  le left right := ranking.le right left
  trans before after := ranking.trans after before
  of_less := ranking.of_less
  of_not_less := ranking.of_not_less

theorem le_refl (ranking : Ranking α) (item : α) : ranking.le item item := by
  cases answer : ranking.less item item with
  | true => exact ranking.of_less answer
  | false => exact ranking.of_not_less answer

theorem Exact.flip (exact : ranking.Exact) : ranking.flip.Exact :=
  fun left right => exact right left

theorem ties_flip (left right : α) : ranking.flip.ties left right = ranking.ties left right :=
  Bool.and_comm ..

namespace Exact

theorem not_less (exact : ranking.Exact) (le : ranking.le first second) :
    ranking.less second first = false :=
  Bool.eq_false_iff.mpr fun less => exact second first less le

theorem less_of_not_le (_ : ranking.Exact) (above : ¬ ranking.le second first) :
    ranking.less first second = true := by
  cases answer : ranking.less first second with
  | true => rfl
  | false => exact absurd (ranking.of_not_less answer) above

theorem less_of_le_of_less (exact : ranking.Exact) (le : ranking.le first second)
    (less : ranking.less second third = true) : ranking.less first third = true :=
  exact.less_of_not_le fun back => exact second third less (ranking.trans back le)

theorem less_of_less_of_le (exact : ranking.Exact) (less : ranking.less first second = true)
    (le : ranking.le second third) : ranking.less first third = true :=
  exact.less_of_not_le fun back => exact first second less (ranking.trans le back)

theorem le_of_ties (_ : ranking.Exact) (tied : ranking.ties first second = true) :
    ranking.le first second ∧ ranking.le second first := by
  rw [ties, Bool.and_eq_true, Bool.not_eq_true', Bool.not_eq_true'] at tied
  exact ⟨ranking.of_not_less tied.2, ranking.of_not_less tied.1⟩

/-- Of two items one of which comes before the other, at most one ties with a third one. -/
theorem not_ties (exact : ranking.Exact) (less : ranking.less first second = true)
    (tied : ranking.ties item first = true) : ranking.ties item second = false := by
  refine Bool.eq_false_iff.mpr fun alsoTied => ?_
  exact exact first second less
    (ranking.trans (exact.le_of_ties alsoTied).2 (exact.le_of_ties tied).1)

/-- Items that tie are on the same side of every other item. -/
theorem less_congr (exact : ranking.Exact) (tied : ranking.ties first second = true) :
    ranking.less first third = ranking.less second third ∧
      ranking.less third first = ranking.less third second := by
  obtain ⟨below, above⟩ := exact.le_of_ties tied
  constructor
  · exact Bool.eq_iff_iff.mpr ⟨exact.less_of_le_of_less above, exact.less_of_le_of_less below⟩
  · exact Bool.eq_iff_iff.mpr
      ⟨fun less => exact.less_of_less_of_le less below,
        fun less => exact.less_of_less_of_le less above⟩

end Exact

/-! ## Moving items -/

/-- Whether a list holds the items of another, those that tie as they stood when the answers are
exact. -/
structure Moves (ranking : Ranking α) (items moved : List α) : Prop where
  perm : moved.Perm items
  stable : ranking.Exact → ∀ item,
    moved.filter (ranking.ties item) = items.filter (ranking.ties item)

/-- Whether a list moves items into the order. -/
structure Sorts (ranking : Ranking α) (items sorted : List α) : Prop
    extends ranking.Moves items sorted where
  ordered : sorted.Pairwise ranking.le

namespace Moves

variable {items moved again others otherMoved : List α}

theorem refl (ranking : Ranking α) (items : List α) : ranking.Moves items items :=
  ⟨.refl _, fun _ _ => rfl⟩

theorem trans (moves : ranking.Moves items moved) (after : ranking.Moves moved again) :
    ranking.Moves items again where
  perm := after.perm.trans moves.perm
  stable exact item := (after.stable exact item).trans (moves.stable exact item)

theorem append (moves : ranking.Moves items moved) (also : ranking.Moves others otherMoved) :
    ranking.Moves (items ++ others) (moved ++ otherMoved) where
  perm := moves.perm.append also.perm
  stable exact item := by
    rw [List.filter_append, List.filter_append, moves.stable exact, also.stable exact]

theorem cons (item : α) (moves : ranking.Moves items moved) :
    ranking.Moves (item :: items) (item :: moved) :=
  append (.refl ranking [item]) moves

/-- Items may go ahead of others before which they come. -/
theorem exchange (before : ranking.Exact → ∀ later ∈ others, ∀ earlier ∈ items,
      ranking.less later earlier = true) : ranking.Moves (items ++ others) (others ++ items) where
  perm := List.perm_append_comm
  stable exact item := by
    rw [List.filter_append, List.filter_append]
    -- Of the items that tie with a given one, there are none on one of the two sides.
    by_cases some : ∃ later ∈ others, ranking.ties item later = true
    · obtain ⟨later, member, tied⟩ := some
      have none : items.filter (ranking.ties item) = [] := by
        refine List.filter_eq_nil_iff.mpr fun earlier earlierMember alsoTied => ?_
        have untied := exact.not_ties (before exact later member earlier earlierMember) tied
        exact Bool.false_ne_true (untied.symm.trans alsoTied)
      rw [none, List.append_nil, List.nil_append]
    · have none : others.filter (ranking.ties item) = [] :=
        List.filter_eq_nil_iff.mpr fun later member tied => some ⟨later, member, tied⟩
      rw [none, List.append_nil, List.nil_append]

/-- Two neighbours may change places when the second one comes before the first. -/
theorem swap (earlier items : List α)
    (before : ranking.Exact → ranking.less second first = true) :
    ranking.Moves (earlier ++ first :: second :: items) (earlier ++ second :: first :: items) := by
  have pair : ranking.Moves ([first] ++ [second]) ([second] ++ [first]) := by
    refine exchange fun exact later member other otherMember => ?_
    rw [List.mem_singleton.mp member, List.mem_singleton.mp otherMember]
    exact before exact
  exact append (.refl ranking earlier) (append pair (.refl ranking items))

theorem reverse (moves : ranking.flip.Moves items moved) :
    ranking.Moves items.reverse moved.reverse where
  perm := (List.reverse_perm moved).trans (moves.perm.trans (List.reverse_perm items).symm)
  stable exact item := by
    have kept := moves.stable exact.flip item
    have same : ranking.flip.ties item = ranking.ties item := funext fun other => ties_flip ..
    rw [same] at kept
    rw [List.filter_reverse, List.filter_reverse, kept]

theorem forall_mem {holds : α → Prop} (moves : ranking.Moves items moved)
    (all : ∀ item ∈ items, holds item) : ∀ item ∈ moved, holds item :=
  fun item member => all item (moves.perm.mem_iff.mp member)

end Moves

namespace Sorts

variable {items moved sorted : List α}

theorem forall_mem {holds : α → Prop} (sorts : ranking.Sorts items sorted)
    (all : ∀ item ∈ items, holds item) : ∀ item ∈ sorted, holds item :=
  sorts.toMoves.forall_mem all

theorem of_moves (moves : ranking.Moves items moved) (sorts : ranking.Sorts moved sorted) :
    ranking.Sorts items sorted :=
  ⟨moves.trans sorts.toMoves, sorts.ordered⟩

theorem reverse (sorts : ranking.flip.Sorts items sorted) :
    ranking.Sorts items.reverse sorted.reverse :=
  ⟨sorts.toMoves.reverse, List.pairwise_reverse.mpr sorts.ordered⟩

theorem of_ordered (ordered : items.Pairwise ranking.le) : ranking.Sorts items items :=
  ⟨.refl ranking items, ordered⟩

theorem of_length (short : items.length < 2) : ranking.Sorts items items := by
  refine of_ordered ?_
  match items, short with
  | [], _ => exact .nil
  | [item], _ => exact List.pairwise_singleton ..

end Sorts

end Ranking

/-! ## What a computation ensures -/

/-- Whether a computation asks about known items only, ends with a result of some kind when its
questions are answered by a ranking, and breaks off at most when the ranking is not exact. -/
def Ensures {α β : Type} (ranking : Ranking α) (known : α → Prop) (holds : β → Prop) :
    Comparing α β → Prop
  | .done result => holds result
  | .broken => ¬ ranking.Exact
  | .ask left right next =>
      known left ∧ known right ∧ Ensures ranking known holds (next (ranking.less left right))

namespace Ensures

variable {α β γ : Type} {ranking : Ranking α} {known : α → Prop} {holds : β → Prop}
  {also : γ → Prop} {computation : Comparing α β} {next : β → Comparing α γ} {left right : α}

theorem pure {result : β} (held : holds result) :
    Ensures ranking known holds (pure result : Comparing α β) := held

theorem bind (ensures : Ensures ranking known holds computation)
    (after : ∀ result, holds result → Ensures ranking known also (next result)) :
    Ensures ranking known also (computation >>= next) := by
  induction computation with
  | done result => exact after result ensures
  | broken => exact ensures
  | ask left right answered ih =>
      obtain ⟨leftKnown, rightKnown, ensures⟩ := ensures
      exact ⟨leftKnown, rightKnown, ih _ ensures⟩

theorem mono {weaker : β → Prop} (ensures : Ensures ranking known holds computation)
    (weaken : ∀ result, holds result → weaker result) :
    Ensures ranking known weaker computation := by
  induction computation with
  | done result => exact weaken result ensures
  | broken => exact ensures
  | ask left right answered ih => exact ⟨ensures.1, ensures.2.1, ih _ ensures.2.2⟩

theorem before (leftKnown : known left) (rightKnown : known right) :
    Ensures ranking known (fun answer => answer = ranking.less left right)
      (Comparing.before left right) :=
  ⟨leftKnown, rightKnown, rfl⟩

theorem notBefore (leftKnown : known left) (rightKnown : known right) :
    Ensures ranking known (fun answer => answer = !ranking.less left right)
      (Comparing.notBefore left right) :=
  ⟨leftKnown, rightKnown, rfl⟩

/-- A computation that breaks off or ends does so as it ensures. -/
theorem run_eq (ensures : Ensures ranking known holds computation) :
    (∀ result, computation.run ranking.less = some result → holds result) ∧
      (computation.run ranking.less = none → ¬ ranking.Exact) := by
  induction computation with
  | done result => exact ⟨fun _ same => Option.some.inj same ▸ ensures, nofun⟩
  | broken => exact ⟨nofun, fun _ => ensures⟩
  | ask left right answered ih => exact ih _ ensures.2.2

theorem known_of_mem_questions (ensures : Ensures ranking known holds computation) :
    ∀ question ∈ computation.questions ranking.less, known question.1 ∧ known question.2 := by
  induction computation with
  | done | broken => exact nofun
  | ask left right answered ih =>
      exact List.forall_mem_cons.mpr ⟨⟨ensures.1, ensures.2.1⟩, ih _ ensures.2.2⟩

end Ensures

end StableSort

end EntityStore
