import EntityStore.Proofs.EntityLaws
import EntityStore.Proofs.Quicksort
import EntityStore.Proofs.ThreeValuedLogic

/-!
# Listing entities

A criteria without restrictions asks for all rows of a table, in some order.  Sorting
only moves rows, so each row is among them as often as before
(`Criteria.perm_of_apply`), and when no order is asked for they stay in the order in
which they were scanned.

Each row that is listed is read as an entity.  Where every row stands under the key
that its entity has, the entity under a key is therefore listed once, and no other one
has the key (`EntityType.listed_once`).
-/

set_option autoImplicit false

namespace EntityStore

open Connection (rowKey?)

/-! ## Sorting -/

namespace SortKey

variable {keys : List SortKey} {rows sorted : List Row} {fault : Fault}

/-- The answers of a sort by keys. -/
abbrev Before (keys : List SortKey) : Row → Row → Bool :=
  Comparing.places fun left right => compareRows left right keys

theorem sortRows_eq_ok_iff :
    sortRows keys rows = .ok sorted ↔
      (StableSort.sort rows).run (Before keys) = some sorted ∧
        ∀ question ∈ (StableSort.sort rows).questions (Before keys),
          ∃ order, compareRows question.1 question.2 keys = .ok order := by
  rw [sortRows, ← Comparing.faults_eq_nil_iff]
  split
  · next broken => simp [Before, broken]
  · next ended silent => simp [Before, ended, silent]
  · next ended reported => simp [reported]

/-- A sort that fails breaks off, or reports a comparison of two of the rows that failed. -/
theorem cases_of_sortRows (failed : sortRows keys rows = .error fault) :
    ((StableSort.sort rows).run (Before keys) = none ∧ fault = .panic) ∨
      ∃ left ∈ rows, ∃ right ∈ rows, compareRows left right keys = .error fault := by
  rw [sortRows] at failed
  split at failed
  · next broken => exact .inl ⟨broken, (Except.error.inj failed).symm⟩
  · cases failed
  · next first more ended reported =>
      have met : fault ∈ first :: more := by
        cases failed
        split_ifs with breaks
        · exact List.mem_cons_of_mem _ breaks
        · exact List.mem_cons_self
      rw [← reported, Comparing.mem_faults_iff] at met
      obtain ⟨question, asked, error⟩ := met
      have ensures := StableSort.sort_ensures (.arbitrary (Before keys)) rows
      obtain ⟨left, right⟩ := ensures.known_of_mem_questions question asked
      exact .inr ⟨_, left, _, right, error⟩

/-- Sorting rows moves them and does nothing else. -/
theorem sortRows_perm (done : sortRows keys rows = .ok sorted) : sorted.Perm rows :=
  StableSort.perm_of_run_sort (sortRows_eq_ok_iff.mp done).1

/-- Rows that are not sorted by anything stay where they are. -/
theorem sortRows_nil (rows : List Row) : sortRows [] rows = .ok rows :=
  sortRows_eq_ok_iff.mpr ⟨StableSort.run_sort_of_never fun _ _ => rfl, fun _ _ => ⟨.eq, rfl⟩⟩

end SortKey

namespace Criteria

variable {mapping : EntityMapping} {rows kept : List Row}

/-- A criteria without restrictions refuses no row. -/
theorem filter_of_unrestricted {criteria : Criteria} (unrestricted : criteria.restrictions = [])
    (mapping : EntityMapping) (rows : List Row) : criteria.filter mapping rows = .ok rows := by
  refine (filterM_eq fun row _ => ?_).trans (congrArg _ (List.filter_true rows))
  rw [unrestricted]
  rfl

/-- Whatever order is asked for, a criteria without restrictions answers all rows. -/
theorem perm_of_apply {order : List OrderField}
    (done : ({ order } : Criteria).apply mapping rows = .ok kept) : kept.Perm rows := by
  rw [apply, bind_eq_ok_iff] at done
  obtain ⟨all, filtered, done⟩ := done
  cases (filter_of_unrestricted rfl mapping rows).symm.trans filtered
  obtain ⟨sorted, sorting, done⟩ := bind_eq_ok_iff.mp done
  obtain ⟨keys, -, sorting⟩ := bind_eq_ok_iff.mp sorting
  cases done
  exact SortKey.sortRows_perm sorting

theorem apply_nothing (mapping : EntityMapping) (rows : List Row) :
    ({} : Criteria).apply mapping rows = .ok rows := by
  have unsorted : ({} : Criteria).sort mapping rows = .ok rows := SortKey.sortRows_nil rows
  rw [apply, filter_of_unrestricted rfl]
  exact bind_eq_ok_iff.mpr ⟨rows, rfl, bind_eq_ok_iff.mpr ⟨rows, unsorted, rfl⟩⟩

end Criteria

/-! ## Reading all rows -/

theorem mapM_eq_ok {α β : Type} {read : α → Except Fault β} {items : List α}
    (reads : ∀ item ∈ items, ∃ value, read item = .ok value) :
    ∃ values, items.mapM read = .ok values := by
  induction items with
  | nil => exact ⟨[], rfl⟩
  | cons item items ih =>
      obtain ⟨⟨value, first⟩, others⟩ := List.forall_mem_cons.mp reads
      obtain ⟨values, rest⟩ := ih others
      refine ⟨value :: values, ?_⟩
      rw [List.mapM_cons, first, rest]
      rfl

/-- What passes a test is read from what passes it. -/
theorem mapM_filter {α β : Type} {read : α → Except Fault β} {items : List α} {values : List β}
    {keeps : α → Bool} {passes : β → Bool}
    (agree : ∀ item ∈ items, ∀ value, read item = .ok value → passes value = keeps item)
    (done : items.mapM read = .ok values) :
    (items.filter keeps).mapM read = .ok (values.filter passes) := by
  induction items generalizing values with
  | nil =>
      cases done
      rfl
  | cons item items ih =>
      obtain ⟨first, others⟩ := List.forall_mem_cons.mp agree
      rw [List.mapM_cons, bind_eq_ok_iff] at done
      obtain ⟨value, read, done⟩ := done
      obtain ⟨rest, restRead, done⟩ := bind_eq_ok_iff.mp done
      cases done
      have kept := ih others restRead
      rw [List.filter_cons, List.filter_cons, first value read]
      split
      · rw [List.mapM_cons, read, kept]
        rfl
      · exact kept

/-! ## One entity under a key -/

theorem KeyMap.filter_entries {α : Type} {entries : List (String × α)}
    (sorted : entries.Pairwise fun left right => left.1 < right.1) {key : String} {value : α}
    (member : (key, value) ∈ entries) :
    entries.filter (fun entry => entry.1 = key) = [(key, value)] := by
  induction entries with
  | nil => cases member
  | cons head rest ih =>
      obtain ⟨above, restSorted⟩ := List.pairwise_cons.mp sorted
      rcases List.mem_cons.mp member with rfl | later
      · have none : rest.filter (fun entry => entry.1 = key) = [] := by
          refine List.filter_eq_nil_iff.mpr fun entry member same => ?_
          exact String.lt_irrefl key (of_decide_eq_true same ▸ above entry member)
        rw [List.filter_cons, if_pos (decide_eq_true rfl), none]
      · have different : ¬ head.1 = key := by
          intro same
          exact String.lt_irrefl key (same ▸ above (key, value) later)
        rw [List.filter_cons, if_neg (by simpa using different), ih restSorted later]

/-- Where rows stand under the keys that they have in front, one row has a key that is there. -/
theorem KeyMap.filter_values {rows : KeyMap Row} {key : String} {row : Row}
    (keyed : ∀ ⦃key : String⦄ ⦃row : Row⦄, rows.get? key = some row → rowKey? 0 row = some key)
    (found : rows.get? key = some row) :
    rows.values.filter (fun other => rowKey? 0 other = some key) = [row] := by
  have named : ∀ entry ∈ rows.entries,
      decide (rowKey? 0 entry.2 = some key) = decide (entry.1 = key) := by
    intro entry member
    simp only [keyed (mem_entries_iff.mp member), Option.some_inj]
  have narrowed := (List.filter_congr named).trans
    (filter_entries rows.sorted (mem_entries_iff.mpr found))
  rw [values, List.filter_map]
  exact congrArg (List.map Prod.snd) narrowed

/-- **Where rows give entities with the keys that they have in front, the entity of the one row
with a key is the one entity with the key.** -/
theorem EntityType.listed_once {ε : Type} {kind : EntityType ε} {rows : List Row}
    {listed : List ε} {key : String} {row : Row} {entity : ε}
    (agree : ∀ row ∈ rows, ∀ entity, kind.ofRow row = .ok entity →
      kind.id? entity = rowKey? 0 row)
    (once : rows.filter (fun other => rowKey? 0 other = some key) = [row])
    (read : kind.ofRow row = .ok entity) (done : rows.mapM kind.ofRow = .ok listed) :
    listed.filter (fun other => kind.id? other = some key) = [entity] := by
  have same : ∀ row ∈ rows, ∀ entity, kind.ofRow row = .ok entity →
      decide (kind.id? entity = some key) = decide (rowKey? 0 row = some key) := by
    intro row member entity read
    rw [agree row member entity read]
  have kept := mapM_filter same done
  rw [once, List.mapM_cons, read] at kept
  exact (Except.ok.inj kept).symm

end EntityStore
