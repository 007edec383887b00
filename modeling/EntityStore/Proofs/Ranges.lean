import EntityStore.Proofs.NegationNormalForm

/-!
# Ranges

A range asks whether a field lies between two bounds, both included, and so does the
conjunction of a comparison with the lower bound and one with the upper bound
(`Restriction.bounds`).  While both bounds are given, the two have the same outcome on
every row, be it a truth value or a fault (`Restriction.agrees_bounds_of_given`).

A range with a missing bound is unknown at once, and the bound that is given is not
looked at.  The conjunction is false when the value lies beyond the bound that is given,
and fails when it cannot be compared with it.  The two differ there and nowhere else
(`Restriction.agrees_bounds_iff`).  Neither matches a row where they differ, so it takes a
negation to see it.
-/

set_option autoImplicit false

namespace EntityStore

/-- Whether a value is not within a bound, where neither is missing: it lies beyond it, or the two
cannot be compared. -/
structure Value.Misses (actual : Value) (comparison : Comparison) (bound : Value) : Prop where
  present : actual ≠ .null
  given : bound ≠ .null
  beyond : ∀ order, actual.order? bound = some order → comparison.accepts order = false

namespace Restriction

variable {mapping : EntityMapping} {row : Row} {field : String} {actual bound low high : Value}
  {comparison : Comparison} {restriction other : Restriction}

/-! ## Comparing with one bound -/

/-- A comparison is unknown when a value is missing. -/
theorem evaluateCompare_of_missing (readable : mapping.value row field = .ok actual)
    (missing : actual = .null ∨ bound = .null) :
    evaluateCompare mapping row field comparison bound = .ok .unknown := by
  rw [evaluateCompare, readable]
  rcases missing with rfl | rfl
  · rfl
  · cases actual <;> rfl

theorem evaluateCompare_of_present (readable : mapping.value row field = .ok actual)
    (present : actual ≠ .null) (given : bound ≠ .null) :
    evaluateCompare mapping row field comparison bound =
      (actual.compare bound).map fun order => .ofBool (comparison.accepts order) := by
  rw [evaluateCompare, readable]
  dsimp only [bind, Except.bind]
  rw [Value.isNull_eq_false present, Value.isNull_eq_false given]
  cases actual.compare bound with
  | error fault => rfl
  | ok order => rfl

/-- A value that is not within a bound gives a false answer or a fault. -/
theorem evaluateCompare_of_misses (readable : mapping.value row field = .ok actual)
    (misses : actual.Misses comparison bound) :
    evaluateCompare mapping row field comparison bound = .ok .no ∨
      evaluateCompare mapping row field comparison bound =
        .error (.typeMismatch (.incomparable actual.kind bound.kind)) := by
  rw [evaluateCompare_of_present readable misses.present misses.given, Value.compare]
  cases ordered : actual.order? bound with
  | none => exact .inr rfl
  | some order =>
      refine .inl ?_
      rw [Except.map, misses.beyond order ordered]
      rfl

theorem evaluateCompare_of_within (readable : mapping.value row field = .ok actual)
    (present : actual ≠ .null) (given : bound ≠ .null)
    (within : ¬ actual.Misses comparison bound) :
    evaluateCompare mapping row field comparison bound = .ok .yes := by
  rw [evaluateCompare_of_present readable present given, Value.compare]
  cases ordered : actual.order? bound with
  | none => exact absurd ⟨present, given, by rw [ordered]; exact nofun⟩ within
  | some order =>
      cases accepted : comparison.accepts order with
      | true => rw [Except.map, accepted]; rfl
      | false =>
          refine absurd ⟨present, given, fun other found => ?_⟩ within
          cases ordered.symm.trans found
          exact accepted

/-- Either there is a value to compare or there is none. -/
theorem no_value_or_value (mapping : EntityMapping) (row : Row) (field : String) :
    (∀ actual, mapping.value row field = .ok actual → actual = .null) ∨
      ∃ actual, mapping.value row field = .ok actual ∧ actual ≠ .null := by
  by_cases present : ∃ actual, mapping.value row field = .ok actual ∧ actual ≠ .null
  · exact .inr present
  · refine .inl fun actual readable => ?_
    by_contra isPresent
    exact present ⟨actual, readable, isPresent⟩

/-! ## The two bounds of a range -/

/-- The comparisons with the two bounds of a range. -/
def bounds (field : String) (low high : Value) : Restriction :=
  .all [.compare field .greaterOrEqual low, .compare field .lessOrEqual high]

/-- The upper bound is looked at unless the lower one excludes the value, and then an unknown answer
stays one unless the upper bound excludes the value. -/
theorem evaluate_bounds (mapping : EntityMapping) (row : Row) (field : String) (low high : Value) :
    (bounds field low high).evaluate mapping row =
      match evaluateCompare mapping row field .greaterOrEqual low with
      | .error fault => .error fault
      | .ok .no => .ok .no
      | .ok .yes => evaluateCompare mapping row field .lessOrEqual high
      | .ok .unknown =>
          (evaluateCompare mapping row field .lessOrEqual high).map (min .unknown) := by
  simp only [bounds, evaluate, evaluateAll]
  cases evaluateCompare mapping row field .greaterOrEqual low with
  | error fault => rfl
  | ok first =>
      cases evaluateCompare mapping row field .lessOrEqual high with
      | error fault => cases first <;> rfl
      | ok second => cases first <;> cases second <;> rfl

/-- A range is unknown when a value is missing. -/
theorem evaluateBetween_of_missing (readable : mapping.value row field = .ok actual)
    (missing : actual = .null ∨ low = .null ∨ high = .null) :
    evaluateBetween mapping row field low high = .ok .unknown := by
  have isMissing : (actual.isNull || low.isNull || high.isNull) = true := by
    rcases missing with rfl | rfl | rfl <;> simp [Value.isNull]
  rw [evaluateBetween, readable]
  dsimp only [bind, Except.bind]
  rw [isMissing]
  rfl

/-- Without a value to compare, a range and its bounds have the same outcome. -/
theorem agrees_bounds_of_no_value
    (noValue : ∀ actual, mapping.value row field = .ok actual → actual = .null) :
    Agrees mapping row (between field low high) (bounds field low high) := by
  rw [Agrees, evaluate_bounds, evaluate]
  cases readable : mapping.value row field with
  | error fault =>
      rw [evaluateCompare, evaluateBetween, readable]
      rfl
  | ok actual =>
      have absent := noValue actual readable
      rw [evaluateBetween_of_missing readable (.inl absent),
        evaluateCompare_of_missing readable (.inl absent),
        evaluateCompare_of_missing readable (.inl absent)]
      rfl

/-- **A range whose bounds are given is the conjunction of its bounds.** -/
theorem agrees_bounds_of_given (lowGiven : low ≠ .null) (highGiven : high ≠ .null) :
    Agrees mapping row (between field low high) (bounds field low high) := by
  rcases no_value_or_value mapping row field with noValue | ⟨actual, readable, present⟩
  · exact agrees_bounds_of_no_value noValue
  · rw [Agrees, evaluate_bounds, evaluate, evaluateBetween, readable,
      evaluateCompare_of_present readable present lowGiven,
      evaluateCompare_of_present readable present highGiven]
    dsimp only [bind, Except.bind]
    rw [Value.isNull_eq_false present, Value.isNull_eq_false lowGiven,
      Value.isNull_eq_false highGiven]
    cases actual.compare low with
    | error fault => rfl
    | ok order =>
        -- Both stop at a value below the lower bound, and else answer what the upper bound does.
        cases order with
        | lt => rfl
        | eq | gt => cases actual.compare high <;> rfl

/-! ## Ranges with a missing bound -/

/-- Whether a range passes over what the only bound that is given says of a field that is there: the
field is not within it. -/
inductive Hides (mapping : EntityMapping) (row : Row) (field : String) : Value → Value → Prop where
  | upper {actual high : Value} (readable : mapping.value row field = .ok actual)
      (misses : actual.Misses .lessOrEqual high) : Hides mapping row field .null high
  | lower {actual low : Value} (readable : mapping.value row field = .ok actual)
      (misses : actual.Misses .greaterOrEqual low) : Hides mapping row field low .null

/-- Where a range hides what a bound says, it is unknown, and the conjunction is false or fails. -/
theorem Hides.outcomes (hides : Hides mapping row field low high) :
    (between field low high).evaluate mapping row = .ok .unknown ∧
      ((bounds field low high).evaluate mapping row = .ok .no ∨
        ∃ mismatch, (bounds field low high).evaluate mapping row =
          .error (.typeMismatch mismatch)) := by
  rw [evaluate_bounds, evaluate]
  cases hides with
  | upper readable misses =>
      rw [evaluateCompare_of_missing readable (.inr rfl)]
      refine ⟨evaluateBetween_of_missing readable (.inr (.inl rfl)), ?_⟩
      rcases evaluateCompare_of_misses readable misses with beyond | incomparable
      · exact .inl (by rw [beyond]; rfl)
      · exact .inr ⟨_, by rw [incomparable]; rfl⟩
  | lower readable misses =>
      refine ⟨evaluateBetween_of_missing readable (.inr (.inr rfl)), ?_⟩
      rcases evaluateCompare_of_misses readable misses with beyond | incomparable
      · exact .inl (by rw [beyond])
      · exact .inr ⟨_, by rw [incomparable]⟩

/-- A range that hides nothing is the conjunction of its bounds. -/
theorem agrees_bounds_of_not_hides (reveals : ¬ Hides mapping row field low high) :
    Agrees mapping row (between field low high) (bounds field low high) := by
  rcases no_value_or_value mapping row field with noValue | ⟨actual, readable, present⟩
  · exact agrees_bounds_of_no_value noValue
  · by_cases lowMissing : low = .null
    · subst lowMissing
      rw [Agrees, evaluate_bounds, evaluate,
        evaluateBetween_of_missing readable (.inr (.inl rfl)),
        evaluateCompare_of_missing readable (.inr rfl)]
      by_cases highMissing : high = .null
      · rw [evaluateCompare_of_missing readable (.inr highMissing)]
        rfl
      · have within : ¬ actual.Misses .lessOrEqual high := fun misses =>
          reveals (.upper readable misses)
        rw [evaluateCompare_of_within readable present highMissing within]
        rfl
    · by_cases highMissing : high = .null
      · subst highMissing
        have within : ¬ actual.Misses .greaterOrEqual low := fun misses =>
          reveals (.lower readable misses)
        rw [Agrees, evaluate_bounds, evaluate,
          evaluateBetween_of_missing readable (.inr (.inr rfl)),
          evaluateCompare_of_within readable present lowMissing within,
          evaluateCompare_of_missing readable (.inr rfl)]
      · exact agrees_bounds_of_given lowMissing highMissing

theorem accepts_eq_ok_true_iff :
    restriction.accepts mapping row = .ok true ↔ restriction.evaluate mapping row = .ok .yes := by
  rw [accepts, bind_eq_ok_iff]
  constructor
  · rintro ⟨truth, evaluated, holds⟩
    cases truth with
    | yes => exact evaluated
    | no | unknown => cases holds
  · exact fun evaluated => ⟨.yes, evaluated, rfl⟩

/-- **A range and the conjunction of its bounds differ exactly where a missing bound hides what the
other one says.**  They differ there with and without a negation before them: the range is
unknown, and the conjunction is false or fails.  They always match the same rows. -/
theorem agrees_bounds_iff (mapping : EntityMapping) (row : Row) (field : String)
    (low high : Value) :
    let range := between field low high
    let conjunction := bounds field low high
    (Agrees mapping row range conjunction ↔ ¬ Hides mapping row field low high) ∧
    (Agrees mapping row range.not conjunction.not ↔ ¬ Hides mapping row field low high) ∧
    (Hides mapping row field low high → range.evaluate mapping row = .ok .unknown ∧
      (conjunction.evaluate mapping row = .ok .no ∨
        ∃ mismatch, conjunction.evaluate mapping row = .error (.typeMismatch mismatch))) ∧
    (range.accepts mapping row = .ok true ↔ conjunction.accepts mapping row = .ok true) := by
  intro range conjunction
  have differs (hides : Hides mapping row field low high) :
      ¬ Agrees mapping row range conjunction := by
    intro agrees
    obtain ⟨unknown, decided⟩ := hides.outcomes
    have isUnknown : conjunction.evaluate mapping row = .ok .unknown := Eq.trans agrees unknown
    rcases decided with no | ⟨mismatch, fails⟩
    · cases no.symm.trans isUnknown
    · cases fails.symm.trans isUnknown
  have whether : Agrees mapping row range conjunction ↔ ¬ Hides mapping row field low high :=
    ⟨fun agrees hides => differs hides agrees, agrees_bounds_of_not_hides⟩
  refine ⟨whether, agrees_not_iff.trans whether, Hides.outcomes, ?_⟩
  rw [accepts_eq_ok_true_iff, accepts_eq_ok_true_iff]
  by_cases hides : Hides mapping row field low high
  · obtain ⟨unknown, decided⟩ := hides.outcomes
    rw [unknown]
    rcases decided with no | ⟨mismatch, fails⟩
    · rw [no]; exact ⟨nofun, nofun⟩
    · rw [fails]; exact ⟨nofun, nofun⟩
  · have same : conjunction.evaluate mapping row = range.evaluate mapping row := whether.mpr hides
    rw [same]

/-- Five is not between nothing and three, nor outside, although it lies above three. -/
theorem open_range_negated :
    let mapping := (EntityMapping.ofKey "Note" "t_note" "nte_id" 23).withField
      { field := "n", column := "nte_n", type := .integer }
    let row : Row := [.text "k", .integer 5]
    (not (between "n" .null (.integer 3))).evaluate mapping row = .ok .unknown ∧
      (not (bounds "n" .null (.integer 3))).evaluate mapping row = .ok .yes :=
  ⟨rfl, rfl⟩

end Restriction

end EntityStore
