import Mathlib.Data.List.Basic

/-!
# Checks in sequence

Operations check one thing after the other and stop at the first fault.  They
succeed exactly when every one of their steps does.
-/

set_option autoImplicit false

namespace EntityStore

variable {ε α β : Type}

theorem bind_eq_ok_iff {first : Except ε α} {next : α → Except ε β} {answer : β} :
    first >>= next = .ok answer ↔ ∃ value, first = .ok value ∧ next value = .ok answer := by
  cases first with
  | error fault =>
      constructor
      · intro impossible
        cases impossible
      · rintro ⟨value, impossible, -⟩
        cases impossible
  | ok value =>
      constructor
      · exact fun done => ⟨value, rfl, done⟩
      · rintro ⟨_, same, done⟩
        cases same
        exact done

theorem bind_eq_error_iff {first : Except ε α} {next : α → Except ε β} {fault : ε} :
    first >>= next = .error fault ↔
      first = .error fault ∨ ∃ value, first = .ok value ∧ next value = .error fault := by
  cases first with
  | error other =>
      constructor
      · intro failed
        cases failed
        exact .inl rfl
      · rintro (failed | ⟨_, impossible, -⟩)
        · cases failed
          rfl
        · cases impossible
  | ok value =>
      constructor
      · exact fun failed => .inr ⟨value, rfl, failed⟩
      · rintro (impossible | ⟨_, same, failed⟩)
        · cases impossible
        · cases same
          exact failed

theorem forM_eq_ok_iff {check : α → Except ε Unit} {items : List α} :
    items.forM check = .ok () ↔ ∀ item ∈ items, check item = .ok () := by
  induction items with
  | nil => exact ⟨fun _ _ member => absurd member List.not_mem_nil, fun _ => rfl⟩
  | cons head rest ih =>
      rw [List.forall_mem_cons, ← ih]
      exact bind_eq_ok_iff.trans ⟨fun ⟨_, first, others⟩ => ⟨first, others⟩,
        fun ⟨first, others⟩ => ⟨(), first, others⟩⟩

/-- What stops a series of checks is the fault of one of them. -/
theorem exists_of_forM_eq_error {check : α → Except ε Unit} {items : List α} {fault : ε}
    (failed : items.forM check = .error fault) : ∃ item ∈ items, check item = .error fault := by
  induction items with
  | nil => cases failed
  | cons head rest ih =>
      rcases bind_eq_error_iff.mp failed with first | ⟨_, -, others⟩
      · exact ⟨head, List.mem_cons_self, first⟩
      · obtain ⟨item, member, error⟩ := ih others
        exact ⟨item, List.mem_cons_of_mem head member, error⟩

end EntityStore
