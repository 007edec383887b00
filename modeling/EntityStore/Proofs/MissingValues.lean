import EntityStore.Proofs.NegationNormalForm

/-!
# Missing values

A condition that is unknown because a value is missing is really left open: whatever
is put in the place of missing values, a restriction that was true stays true and one
that was false stays false, as long as it can be evaluated and does not ask whether a
value is missing (`Restriction.definite_answer_stays`).

A leaf looks at one field.  It is unknown when the field is missing, and otherwise has
the same outcome on both rows, be it a fault.  This does not carry over to conjunctions
and disjunctions as it is, for on the completed row another part may decide, and a
part may come to be reached that fails.  What carries over is a relation between two
truth values that were both answered: the first is unknown or the second is the same
(`Truth.Settles`).
-/

set_option autoImplicit false

namespace EntityStore

/-! ## Completed rows -/

/-- Whether a row comes from another by putting values in the place of missing ones. -/
structure Row.Completes (row completed : Row) : Prop where
  width : completed.length = row.length
  kept : ∀ ⦃place : Nat⦄ ⦃value : Value⦄, row[place]? = some value → value ≠ .null →
    completed[place]? = some value

/-- A field is missing in a row, or reads the same when the row is completed. -/
theorem EntityMapping.value_completed {row completed : Row} (completes : row.Completes completed)
    (mapping : EntityMapping) (field : String) :
    mapping.value row field = .ok .null ∨
      mapping.value completed field = mapping.value row field := by
  rw [value, value]
  cases mapping.fieldIndex? field with
  | none => exact .inr rfl
  | some place =>
      dsimp only
      cases found : row[place]? with
      | none =>
          have beyond : row.length ≤ place := List.getElem?_eq_none_iff.mp found
          rw [List.getElem?_eq_none (completes.width ▸ beyond)]
          exact .inr rfl
      | some known =>
          by_cases missing : known = .null
          · exact .inl (congrArg Except.ok missing)
          · rw [completes.kept found missing]
            exact .inr rfl

/-! ## Settled truth values -/

/-- Whether a truth value may become another when more is known: a definite one stays. -/
def Truth.Settles (truth later : Truth) : Prop := truth = .unknown ∨ later = truth

theorem Truth.Settles.not {truth later : Truth} (settles : truth.Settles later) :
    truth.not.Settles later.not := by
  rcases settles with rfl | rfl
  · exact .inl rfl
  · exact .inr rfl

namespace Restriction

variable {mapping : EntityMapping} {row completed : Row} {restriction other : Restriction}
  {parts : List Restriction}

/-- Whether a restriction asks if a value is missing. -/
def TestsNull : Restriction → Prop
  | .isNull _ | .isNotNull _ => True
  | _ => False

instance : DecidablePred TestsNull
  | .isNull _ | .isNotNull _ => .isTrue trivial
  | .compare .. | .between .. | .like .. | .all _ | .any _ | .not _ => .isFalse id

/-- Whether what a restriction answers of a row stays, unless it is unknown, when the restriction
is answered of a completed row. -/
def Stays (mapping : EntityMapping) (row completed : Row) (restriction : Restriction) : Prop :=
  ∀ ⦃truth later : Truth⦄, restriction.evaluate mapping row = .ok truth →
    restriction.evaluate mapping completed = .ok later → truth.Settles later

/-- What is unknown when a field is missing has the same outcome whenever the field is there. -/
theorem unknown_or_completed (completes : row.Completes completed) {field : String}
    {answer : Value → Except Fault Truth} (missing : answer .null = .ok .unknown) :
    (mapping.value row field >>= answer) = .ok .unknown ∨
      (mapping.value completed field >>= answer) = (mapping.value row field >>= answer) := by
  rcases mapping.value_completed completes field with absent | kept
  · rw [absent]
    exact .inl missing
  · exact .inr (by rw [kept])

/-- A leaf that does not ask for missing values is unknown of a row, or has the same outcome when
the row is completed. -/
theorem IsLeaf.evaluate_completed {leaf : Restriction} (isLeaf : leaf.IsLeaf)
    (noTest : ¬ leaf.TestsNull) (completes : row.Completes completed) :
    leaf.evaluate mapping row = .ok .unknown ∨
      leaf.evaluate mapping completed = leaf.evaluate mapping row := by
  cases leaf with
  | compare field comparison value =>
      rw [evaluate, evaluate, evaluateCompare, evaluateCompare]
      exact unknown_or_completed completes rfl
  | between field low high =>
      rw [evaluate, evaluate, evaluateBetween, evaluateBetween]
      exact unknown_or_completed completes rfl
  | like field pattern caseSensitive =>
      rw [evaluate, evaluate, evaluateLike, evaluateLike]
      exact unknown_or_completed completes rfl
  | isNull | isNotNull => exact absurd trivial noTest
  | all | any | not => cases isLeaf

theorem IsLeaf.stays {leaf : Restriction} (isLeaf : leaf.IsLeaf) (noTest : ¬ leaf.TestsNull)
    (completes : row.Completes completed) : leaf.Stays mapping row completed := by
  intro truth later before after
  rcases isLeaf.evaluate_completed noTest completes with unknown | same
  · exact .inl (Except.ok.inj (before.symm.trans unknown))
  · exact .inr (Except.ok.inj (after.symm.trans (same.trans before)))

/-- What stays also does so when it is turned around. -/
theorem Stays.of_opposes (stays : restriction.Stays mapping row completed)
    (before : Opposes mapping row restriction other)
    (after : Opposes mapping completed restriction other) :
    other.Stays mapping row completed := by
  intro truth later answer laterAnswer
  have first := before.symm
  have second := after.symm
  rw [Opposes, answer] at first
  rw [Opposes, laterAnswer] at second
  have settles := (stays first second).not
  rwa [truth.not_not, later.not_not] at settles

/-- A conjunction that has met an unknown part stays unknown or becomes false. -/
theorem evaluateAll_unknown {truth : Truth}
    (answer : evaluateAll mapping row .unknown parts = .ok truth) : truth.Settles .no := by
  induction parts with
  | nil =>
      cases answer
      exact .inl rfl
  | cons part parts ih =>
      rw [evaluateAll, bind_eq_ok_iff] at answer
      obtain ⟨first, -, rest⟩ := answer
      cases first with
      | no =>
          cases rest
          exact .inr rfl
      | unknown | yes => exact ih rest

/-- If the parts of a conjunction stay, and what it has found before them, then so does what it
answers. -/
theorem evaluateAll_settles (stays : ∀ part ∈ parts, part.Stays mapping row completed)
    {found laterFound truth later : Truth} (settles : found.Settles laterFound)
    (answer : evaluateAll mapping row found parts = .ok truth)
    (laterAnswer : evaluateAll mapping completed laterFound parts = .ok later) :
    truth.Settles later := by
  induction parts generalizing found laterFound with
  | nil =>
      cases answer
      cases laterAnswer
      exact settles
  | cons part parts ih =>
      obtain ⟨partStays, rest⟩ := List.forall_mem_cons.mp stays
      rw [evaluateAll, bind_eq_ok_iff] at answer laterAnswer
      obtain ⟨first, firstAnswer, answer⟩ := answer
      obtain ⟨laterFirst, laterFirstAnswer, laterAnswer⟩ := laterAnswer
      rcases partStays firstAnswer laterFirstAnswer with rfl | rfl
      · -- The part was unknown, so the conjunction may only have been false or unknown.
        cases laterFirst with
        | no =>
            cases laterAnswer
            exact evaluateAll_unknown answer
        | unknown => exact ih rest (.inl rfl) answer laterAnswer
        | yes => exact ih rest (.inl rfl) answer laterAnswer
      · cases laterFirst with
        | no =>
            cases answer
            cases laterAnswer
            exact .inr rfl
        | unknown => exact ih rest (.inl rfl) answer laterAnswer
        | yes => exact ih rest settles answer laterAnswer

theorem stays_all (stays : ∀ part ∈ parts, part.Stays mapping row completed) :
    (all parts).Stays mapping row completed := by
  intro truth later answer laterAnswer
  rw [evaluate] at answer laterAnswer
  exact evaluateAll_settles stays (.inr rfl) answer laterAnswer

/-- A disjunction opposes the conjunction of the negated parts. -/
theorem stays_any (stays : ∀ part ∈ parts, part.Stays mapping row completed) :
    (any parts).Stays mapping row completed := by
  have negated : (all (parts.map Restriction.not)).Stays mapping row completed :=
    stays_all (List.forall_mem_map.mpr fun part member =>
      (stays part member).of_opposes (opposes_not part) (opposes_not part))
  exact negated.of_opposes (opposes_any (opposes_of_agrees (agrees_self parts)))
    (opposes_any (opposes_of_agrees (agrees_self parts)))

theorem forall_mem_leavesOf_iff {holds : Restriction → Prop} :
    (∀ leaf ∈ leavesOf parts, holds leaf) ↔ ∀ part ∈ parts, ∀ leaf ∈ part.leaves, holds leaf := by
  simp only [mem_leavesOf_iff]
  exact ⟨fun all part member leaf leafMember => all leaf ⟨part, member, leafMember⟩,
    fun all leaf ⟨part, member, leafMember⟩ => all part member leaf leafMember⟩

/-- **What is answered of a row stays when the row is completed**, for restrictions that do not
ask for missing values. -/
theorem stays_of_completes (completes : row.Completes completed)
    (noTest : ∀ leaf ∈ restriction.leaves, ¬ leaf.TestsNull) :
    restriction.Stays mapping row completed := by
  induction restriction using byParts with
  | leaf leaf isLeaf =>
      exact isLeaf.stays (noTest leaf (isLeaf.leaves_eq ▸ List.mem_singleton_self leaf)) completes
  | all parts ih =>
      exact stays_all fun part member =>
        ih part member (forall_mem_leavesOf_iff.mp noTest part member)
  | any parts ih =>
      exact stays_any fun part member =>
        ih part member (forall_mem_leavesOf_iff.mp noTest part member)
  | not part ih => exact (ih noTest).of_opposes (opposes_not part) (opposes_not part)

/-- **Filling in missing values never overturns a definite answer.**  A restriction that does not
ask for missing values and is true of a row, or false, is the same of every row that comes from it
by putting values in the place of missing ones, if it can be evaluated there. -/
theorem definite_answer_stays {mapping : EntityMapping} {restriction : Restriction}
    (noTest : ∀ leaf ∈ restriction.leaves, ¬ leaf.TestsNull) {row completed : Row}
    (completes : row.Completes completed) {decided : Bool}
    (definite : restriction.evaluate mapping row = .ok (.ofBool decided)) {later : Truth}
    (evaluates : restriction.evaluate mapping completed = .ok later) :
    later = .ofBool decided := by
  rcases stays_of_completes completes noTest definite evaluates with unknown | same
  · cases decided
    · cases unknown
    · cases unknown
  · exact same

end Restriction

/-! ## A person without a name -/

namespace Person

/-- Persons with a name and an age, both of which may be missing. -/
def mapping : EntityMapping :=
  ((EntityMapping.ofKey "Person" "t_person" "prs_id" 23).withField
    { field := "name", column := "prs_name", type := .text }).withField
    { field := "age", column := "prs_age", type := .integer }

def unnamed : Row := [.text "k", .null, .integer 30]

def named : Row := [.text "k", .text "Ada", .integer 30]

theorem unnamed_completes : unnamed.Completes named := by
  refine ⟨rfl, fun place value found present => ?_⟩
  match place with
  | 0 | 2 => exact found
  | 1 => exact absurd (Option.some.inj found).symm present
  | _ + 3 => exact found

end Person

namespace Restriction

/-- It is unknown whether the person is called Bob, and true that she is of age.  When she turns
out to be called otherwise, the first part decides, and the answer stays. -/
theorem person_stays_of_age :
    let minor := compare "age" .less (.integer 18)
    let restriction := any [not (all [compare "name" .equal (.text "Bob"), not minor]), not minor]
    restriction.evaluate Person.mapping Person.unnamed = .ok .yes ∧
      ∃ later, restriction.evaluate Person.mapping Person.named = .ok later ∧ later = .yes := by
  intro minor restriction
  have definite : restriction.evaluate Person.mapping Person.unnamed = .ok (.ofBool true) := rfl
  exact ⟨definite, _, rfl,
    definite_answer_stays (by decide) Person.unnamed_completes definite rfl⟩

/-- A test for a missing value is overturned. -/
example : (isNull "name").evaluate Person.mapping Person.unnamed = .ok .yes ∧
    (isNull "name").evaluate Person.mapping Person.named = .ok .no := ⟨rfl, rfl⟩

end Restriction

end EntityStore
