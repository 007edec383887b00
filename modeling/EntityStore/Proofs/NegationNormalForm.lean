import Mathlib.Data.List.Forall2
import EntityStore.Proofs.ThreeValuedLogic

/-!
# Negation normal form

Negations can be pushed inward until they stand before the leaves.  A negated
conjunction becomes the disjunction of its negated parts, in the same order, and the
other way round; two negations cancel; a negated comparison becomes the complementary
one; and the two tests for a missing value change places.  Only a negation of
`between` or of `like` stays (`Restriction.negationNormal`).

This is more than a law of truth values.  A conjunction stops at the first part that
is false, and a fault in a part that is reached is the answer, so that which fault
comes out is a matter of the order of evaluation.  The disjunction of the negated
parts stops at the same place: one loop answers the negation of what the other
answers, after the same parts, or the same fault
(`Restriction.evaluateAny_of_opposes`).  So the normal form has the same outcome on
every row, be it a truth value or a fault (`Restriction.agrees_negationNormal`).

A condition that a conjunction takes up at its end is evaluated exactly when it would
be evaluated beside the conjunction, so that has the same outcome, too
(`Restriction.agrees_and`).
-/

set_option autoImplicit false

namespace EntityStore

/-! ## Complements -/

/-- The comparison that holds exactly where another one does not. -/
def Comparison.complement : Comparison → Comparison
  | .equal => .notEqual
  | .notEqual => .equal
  | .less => .greaterOrEqual
  | .lessOrEqual => .greater
  | .greater => .lessOrEqual
  | .greaterOrEqual => .less

theorem Comparison.accepts_complement (comparison : Comparison) (order : Ordering) :
    comparison.complement.accepts order = !comparison.accepts order := by
  cases comparison <;> cases order <;> rfl

theorem Truth.not_ofBool (decided : Bool) : (Truth.ofBool decided).not = .ofBool (!decided) := by
  cases decided <;> rfl

theorem Truth.not_not (truth : Truth) : truth.not.not = truth := by
  cases truth <;> rfl

namespace Restriction

/-! ## The normal form -/

mutual
/-- A restriction with its negations pushed inward. -/
def negationNormal : Restriction → Restriction
  | .all parts => .all (allNegationNormal parts)
  | .any parts => .any (allNegationNormal parts)
  | .not part => refutation part
  | leaf => leaf

/-- The negation of a restriction, pushed inward. -/
def refutation : Restriction → Restriction
  | .compare field comparison value => .compare field comparison.complement value
  | .isNull field => .isNotNull field
  | .isNotNull field => .isNull field
  | .all parts => .any (refutations parts)
  | .any parts => .all (refutations parts)
  | .not part => negationNormal part
  | leaf => .not leaf

/-- Restrictions in order with their negations pushed inward. -/
def allNegationNormal : List Restriction → List Restriction
  | [] => []
  | part :: parts => negationNormal part :: allNegationNormal parts

/-- The negations of restrictions in order, pushed inward. -/
def refutations : List Restriction → List Restriction
  | [] => []
  | part :: parts => refutation part :: refutations parts
end

/-- Whether negations stand before leaves only, and only before those that have no complement. -/
inductive IsNegationNormal : Restriction → Prop where
  | leaf {leaf : Restriction} (isLeaf : leaf.IsLeaf) : IsNegationNormal leaf
  | notBetween (field : String) (low high : Value) :
      IsNegationNormal (.not (.between field low high))
  | notLike (field pattern : String) (caseSensitive : Bool) :
      IsNegationNormal (.not (.like field pattern caseSensitive))
  | all {parts : List Restriction} (normal : ∀ part ∈ parts, IsNegationNormal part) :
      IsNegationNormal (.all parts)
  | any {parts : List Restriction} (normal : ∀ part ∈ parts, IsNegationNormal part) :
      IsNegationNormal (.any parts)

variable {mapping : EntityMapping} {row : Row} {restriction other third : Restriction}
  {parts others : List Restriction}

theorem allNegationNormal_eq_map (parts : List Restriction) :
    allNegationNormal parts = parts.map negationNormal := by
  induction parts with
  | nil => rfl
  | cons part parts ih => rw [allNegationNormal, ih, List.map_cons]

theorem refutations_eq_map (parts : List Restriction) :
    refutations parts = parts.map refutation := by
  induction parts with
  | nil => rfl
  | cons part parts ih => rw [refutations, ih, List.map_cons]

theorem IsLeaf.negationNormal_eq {leaf : Restriction} (isLeaf : leaf.IsLeaf) :
    leaf.negationNormal = leaf := by
  cases leaf with
  | compare | between | like | isNull | isNotNull => rfl
  | all | any | not => cases isLeaf

theorem IsLeaf.refutation_isNegationNormal {leaf : Restriction} (isLeaf : leaf.IsLeaf) :
    leaf.refutation.IsNegationNormal := by
  cases leaf with
  | compare | isNull | isNotNull => exact .leaf trivial
  | between field low high => exact .notBetween field low high
  | like field pattern caseSensitive => exact .notLike field pattern caseSensitive
  | all | any | not => cases isLeaf

/-- Pushing negations inward leaves none but those before leaves without a complement. -/
theorem isNegationNormal (restriction : Restriction) :
    restriction.negationNormal.IsNegationNormal ∧ restriction.refutation.IsNegationNormal := by
  induction restriction using byParts with
  | leaf leaf isLeaf =>
      refine ⟨?_, isLeaf.refutation_isNegationNormal⟩
      rw [isLeaf.negationNormal_eq]
      exact .leaf isLeaf
  | all parts ih =>
      rw [negationNormal, refutation, allNegationNormal_eq_map, refutations_eq_map]
      exact ⟨.all (List.forall_mem_map.mpr fun part member => (ih part member).1),
        .any (List.forall_mem_map.mpr fun part member => (ih part member).2)⟩
  | any parts ih =>
      rw [negationNormal, refutation, allNegationNormal_eq_map, refutations_eq_map]
      exact ⟨.any (List.forall_mem_map.mpr fun part member => (ih part member).1),
        .all (List.forall_mem_map.mpr fun part member => (ih part member).2)⟩
  | not part ih => exact ⟨ih.2, ih.1⟩

/-! ## Opposite outcomes -/

/-- Whether two restrictions have the same outcome on a row: a truth value or a fault. -/
def Agrees (mapping : EntityMapping) (row : Row) (restriction other : Restriction) : Prop :=
  other.evaluate mapping row = restriction.evaluate mapping row

/-- Whether two restrictions have opposite outcomes on a row: truth values that are each other's
negation, or the same fault. -/
def Opposes (mapping : EntityMapping) (row : Row) (restriction other : Restriction) : Prop :=
  other.evaluate mapping row = (restriction.evaluate mapping row).map Truth.not

theorem map_not_map_not (outcome : Except Fault Truth) :
    (outcome.map Truth.not).map Truth.not = outcome := by
  cases outcome with
  | error fault => rfl
  | ok truth => exact congrArg Except.ok truth.not_not

theorem Agrees.symm (agrees : Agrees mapping row restriction other) :
    Agrees mapping row other restriction :=
  Eq.symm agrees

theorem Opposes.symm (opposes : Opposes mapping row restriction other) :
    Opposes mapping row other restriction := by
  rw [Opposes, opposes, map_not_map_not]

theorem Agrees.opposes (agrees : Agrees mapping row other third)
    (opposes : Opposes mapping row restriction other) : Opposes mapping row restriction third :=
  Eq.trans agrees opposes

theorem Opposes.agrees (first : Opposes mapping row restriction other)
    (second : Opposes mapping row restriction third) : Agrees mapping row other third :=
  Eq.trans second (Eq.symm first)

theorem opposes_not (restriction : Restriction) :
    Opposes mapping row restriction restriction.not := by
  rw [Opposes, evaluate]
  cases restriction.evaluate mapping row with
  | error fault => rfl
  | ok truth => rfl

/-- Negations agree exactly when what they negate does. -/
theorem agrees_not_iff :
    Agrees mapping row restriction.not other.not ↔ Agrees mapping row restriction other := by
  constructor
  · intro agrees
    have opposes : Opposes mapping row restriction other.not :=
      agrees.opposes (opposes_not restriction)
    exact opposes.symm.agrees (opposes_not other).symm
  · intro agrees
    have opposes : Opposes mapping row restriction.not other :=
      agrees.opposes (opposes_not restriction).symm
    exact opposes.symm.agrees (opposes_not other)

/-! ## Leaves -/

theorem evaluateCompare_complement (field : String) (comparison : Comparison) (value : Value) :
    evaluateCompare mapping row field comparison.complement value =
      (evaluateCompare mapping row field comparison value).map Truth.not := by
  rw [evaluateCompare, evaluateCompare]
  cases mapping.value row field with
  | error fault => rfl
  | ok actual =>
      dsimp only [bind, Except.bind]
      split_ifs
      · rfl
      · cases actual.compare value with
        | error fault => rfl
        | ok order =>
            refine congrArg Except.ok ?_
            rw [comparison.accepts_complement, Truth.not_ofBool]

theorem opposes_isNotNull (field : String) :
    Opposes mapping row (isNull field) (isNotNull field) := by
  rw [Opposes, evaluate, evaluate]
  cases mapping.value row field with
  | error fault => rfl
  | ok actual => exact congrArg Except.ok (Truth.not_ofBool _).symm

theorem IsLeaf.opposes_refutation {leaf : Restriction} (isLeaf : leaf.IsLeaf) :
    Opposes mapping row leaf leaf.refutation := by
  cases leaf with
  | compare field comparison value => exact evaluateCompare_complement field comparison value
  | between | like => exact opposes_not _
  | isNull field => exact opposes_isNotNull field
  | isNotNull field => exact (opposes_isNotNull field).symm
  | all | any | not => cases isLeaf

/-! ## Conjunctions and disjunctions -/

/-- **A disjunction goes through its parts as the conjunction of opposite parts does**, and has the
opposite outcome. -/
theorem evaluateAny_of_opposes (opposes : List.Forall₂ (Opposes mapping row) parts others)
    (truth : Truth) :
    evaluateAny mapping row truth.not others =
      (evaluateAll mapping row truth parts).map Truth.not := by
  induction opposes generalizing truth with
  | nil => rfl
  | @cons part other parts others first rest ih =>
      rw [evaluateAny, evaluateAll, first]
      -- A fault ends both loops, and so does a part that is false, for its opposite is true.
      cases part.evaluate mapping row with
      | error fault => rfl
      | ok answer =>
          cases answer with
          | no => rfl
          | unknown => exact ih .unknown
          | yes => exact ih truth

theorem opposes_any (opposes : List.Forall₂ (Opposes mapping row) parts others) :
    Opposes mapping row (all parts) (any others) := by
  rw [Opposes, evaluate, evaluate]
  exact evaluateAny_of_opposes opposes .yes

theorem opposes_all (opposes : List.Forall₂ (Opposes mapping row) parts others) :
    Opposes mapping row (any parts) (all others) :=
  (opposes_any (opposes.imp fun _ _ => Opposes.symm).flip).symm

/-- The negations of parts oppose all that agree with the parts. -/
theorem opposes_of_agrees (agrees : List.Forall₂ (Agrees mapping row) parts others) :
    List.Forall₂ (Opposes mapping row) (parts.map Restriction.not) others :=
  List.forall₂_map_left_iff.mpr
    (agrees.imp fun part _ agrees => agrees.opposes (opposes_not part).symm)

theorem agrees_self (parts : List Restriction) : List.Forall₂ (Agrees mapping row) parts parts :=
  List.forall₂_same.mpr fun _ _ => rfl

/-- Conjunctions of parts that agree do so, for both oppose the disjunction of the negated parts. -/
theorem agrees_all (agrees : List.Forall₂ (Agrees mapping row) parts others) :
    Agrees mapping row (all parts) (all others) :=
  (opposes_all (opposes_of_agrees (agrees_self parts))).agrees
    (opposes_all (opposes_of_agrees agrees))

theorem agrees_any (agrees : List.Forall₂ (Agrees mapping row) parts others) :
    Agrees mapping row (any parts) (any others) :=
  (opposes_any (opposes_of_agrees (agrees_self parts))).agrees
    (opposes_any (opposes_of_agrees agrees))

/-! ## The outcome of the normal form -/

theorem forall₂_map {related : Restriction → Restriction → Prop}
    {change : Restriction → Restriction} (relates : ∀ part ∈ parts, related part (change part)) :
    List.Forall₂ related parts (parts.map change) :=
  List.forall₂_map_right_iff.mpr (List.forall₂_same.mpr relates)

/-- **The normal form agrees with the restriction, and the refutation opposes it.** -/
theorem agrees_negationNormal (mapping : EntityMapping) (row : Row) (restriction : Restriction) :
    Agrees mapping row restriction restriction.negationNormal ∧
      Opposes mapping row restriction restriction.refutation := by
  induction restriction using byParts with
  | leaf leaf isLeaf =>
      refine ⟨?_, isLeaf.opposes_refutation⟩
      rw [Agrees, isLeaf.negationNormal_eq]
  | all parts ih =>
      rw [negationNormal, refutation, allNegationNormal_eq_map, refutations_eq_map]
      exact ⟨agrees_all (forall₂_map fun part member => (ih part member).1),
        opposes_any (forall₂_map fun part member => (ih part member).2)⟩
  | any parts ih =>
      rw [negationNormal, refutation, allNegationNormal_eq_map, refutations_eq_map]
      exact ⟨agrees_any (forall₂_map fun part member => (ih part member).1),
        opposes_all (forall₂_map fun part member => (ih part member).2)⟩
  | not part ih =>
      rw [negationNormal, refutation]
      exact ⟨(opposes_not part).agrees ih.2, ih.1.opposes (opposes_not part).symm⟩

/-! ## Builders -/

/-- A conjunction goes through its first parts and, unless one of them is false, through the others
with what it has found. -/
theorem evaluateAll_append {truth : Truth} (goesOn : truth ≠ .no)
    (parts others : List Restriction) :
    evaluateAll mapping row truth (parts ++ others) =
      evaluateAll mapping row truth parts >>= fun found =>
        if found = .no then .ok .no else evaluateAll mapping row found others := by
  induction parts generalizing truth with
  | nil => exact (if_neg goesOn).symm
  | cons part parts ih =>
      rw [List.cons_append, evaluateAll, evaluateAll]
      cases part.evaluate mapping row with
      | error fault => rfl
      | ok answer =>
          cases answer with
          | no => rfl
          | unknown => exact ih Truth.noConfusion
          | yes => exact ih goesOn

/-- A condition that a conjunction takes up has the outcome that it has beside the conjunction. -/
theorem agrees_and (first other : Restriction) :
    Agrees mapping row (all [first, other]) (first.and other) := by
  cases first with
  | all parts =>
      rw [Agrees, Restriction.and, evaluate, evaluate, evaluateAll_append Truth.noConfusion,
        evaluateAll, evaluate]
      cases evaluateAll mapping row .yes parts with
      | error fault => rfl
      | ok found => cases found <;> rfl
  | compare | between | like | isNull | isNotNull | any | not => rfl

theorem agrees_or (first other : Restriction) :
    Agrees mapping row (any [first, other]) (first.or other) := by
  cases first with
  | any parts =>
      -- Both oppose the conjunction of the negated parts that takes up the negated condition.
      have nested : Opposes mapping row (all [all (parts.map Restriction.not), other.not])
          (any [any parts, other]) :=
        opposes_any (.cons (opposes_any (opposes_of_agrees (agrees_self parts)))
          (opposes_of_agrees (agrees_self [other])))
      have flat : Opposes mapping row ((all (parts.map Restriction.not)).and other.not)
          (any (parts ++ [other])) := by
        have negated : List.Forall₂ (Opposes mapping row)
            ((parts ++ [other]).map Restriction.not) (parts ++ [other]) :=
          opposes_of_agrees (agrees_self _)
        rw [List.map_append] at negated
        exact opposes_any negated
      have taken : Agrees mapping row (all [all (parts.map Restriction.not), other.not])
          ((all (parts.map Restriction.not)).and other.not) := agrees_and ..
      exact nested.agrees (taken.symm.opposes flat.symm).symm
  | compare | between | like | isNull | isNotNull | all | not => rfl

/-- **Pushing negations inward and flattening change no outcome.**  A restriction and its negation
normal form are true, false or unknown of a row alike, or fail with the same fault, and so do a
conjunction or a disjunction that takes up one more condition and the one of both. -/
theorem negationNormal_keeps_outcome (mapping : EntityMapping) (row : Row) :
    (∀ restriction : Restriction, restriction.negationNormal.IsNegationNormal ∧
      restriction.negationNormal.evaluate mapping row = restriction.evaluate mapping row) ∧
    ∀ first other : Restriction,
      (first.and other).evaluate mapping row = (all [first, other]).evaluate mapping row ∧
      (first.or other).evaluate mapping row = (any [first, other]).evaluate mapping row :=
  ⟨fun restriction =>
    ⟨restriction.isNegationNormal.1, (agrees_negationNormal mapping row restriction).1⟩,
    fun first other => ⟨agrees_and first other, agrees_or first other⟩⟩

/-- Of a negated conjunction the comparison is turned around, the pattern stays negated, and the
two negations of the test cancel. -/
example :
    (not (all [compare "rank" .less (.integer 3), like "name" "A%" true,
      not (isNull "name")])).negationNormal =
      any [compare "rank" .greaterOrEqual (.integer 3), not (like "name" "A%" true),
        isNull "name"] := rfl

end Restriction

end EntityStore
