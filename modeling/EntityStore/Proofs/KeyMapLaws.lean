import EntityStore.KeyMap

/-!
# Laws of maps

How inserting and erasing cancel each other, and how the entries of a map answer
for its view.  The first are equations between maps and follow from their views
alone.  The second tie a list in key order to the map that it lists: every listed
entry is found under its key, and building a map from its own list gives it back.
-/

set_option autoImplicit false

namespace EntityStore.KeyMap

variable {α β : Type}

/-! ## Views by cases -/

theorem get?_insert (map : KeyMap α) (key : String) (value : α) (wanted : String) :
    (map.insert key value).get? wanted = if wanted = key then some value else map.get? wanted := by
  split
  · next same => rw [same, get?_insert_self]
  · next different => exact get?_insert_of_ne map different value

/-- What is there stays when a value is put under a key that is new. -/
theorem get?_insert_of_missing {map : KeyMap α} {key other : String} {held : α}
    (missing : map.get? key = none) (found : map.get? other = some held) (value : α) :
    (map.insert key value).get? other = some held := by
  have different : other ≠ key := by
    rintro rfl
    exact nomatch missing.symm.trans found
  rw [get?_insert_of_ne map different, found]

theorem get?_erase (map : KeyMap α) (key wanted : String) :
    (map.erase key).get? wanted = if wanted = key then none else map.get? wanted := by
  split
  · next same => rw [same, get?_erase_self]
  · next different => exact get?_erase_of_ne map different

theorem contains_iff {map : KeyMap α} {key : String} :
    map.contains key = true ↔ ∃ value, map.get? key = some value := by
  rw [contains, Option.isSome_iff_exists]

/-! ## Cancellation -/

/-- The later of two values under one key counts. -/
theorem insert_insert (map : KeyMap α) (key : String) (first second : α) :
    (map.insert key first).insert key second = map.insert key second := by
  refine ext_get? fun wanted => ?_
  simp only [get?_insert]
  split <;> rfl

/-- Putting a value where it is already changes nothing. -/
theorem insert_of_get? {map : KeyMap α} {key : String} {value : α}
    (found : map.get? key = some value) : map.insert key value = map := by
  refine ext_get? fun wanted => ?_
  rw [get?_insert]
  split
  · next same => rw [same, found]
  · rfl

/-- Erasing takes back an insertion under a new key. -/
theorem erase_insert {map : KeyMap α} {key : String} (missing : map.get? key = none) (value : α) :
    (map.insert key value).erase key = map := by
  refine ext_get? fun wanted => ?_
  rw [get?_erase, get?_insert]
  split
  · next same => rw [same, missing]
  · rfl

/-- Inserting takes back the erasure of the same value. -/
theorem insert_erase {map : KeyMap α} {key : String} {value : α}
    (found : map.get? key = some value) : (map.erase key).insert key value = map := by
  refine ext_get? fun wanted => ?_
  rw [get?_insert, get?_erase]
  split
  · next same => rw [same, found]
  · rfl

/-! ## Entries -/

theorem lookup_of_mem {entries : List (String × α)}
    (sorted : entries.Pairwise fun left right => left.1 < right.1) {key : String} {value : α}
    (member : (key, value) ∈ entries) : entries.lookup key = some value := by
  induction entries with
  | nil => cases member
  | cons head rest ih =>
      obtain ⟨above, restSorted⟩ := List.pairwise_cons.mp sorted
      rcases List.mem_cons.mp member with rfl | later
      · exact List.lookup_cons_self
      · have less : head.1 < key := above (key, value) later
        have unequal : (key == head.1) = false :=
          beq_false_of_ne fun same => String.lt_irrefl head.1 (same ▸ less)
        rw [List.lookup_cons, unequal]
        exact ih restSorted later

theorem mem_of_lookup {entries : List (String × α)} {key : String} {value : α}
    (found : entries.lookup key = some value) : (key, value) ∈ entries := by
  induction entries with
  | nil => cases found
  | cons head rest ih =>
      obtain ⟨other, held⟩ := head
      rw [List.lookup_cons] at found
      split at found
      · next same =>
          cases found
          rw [eq_of_beq same]
          exact List.mem_cons_self
      · exact List.mem_cons_of_mem _ (ih found)

/-- The entries of a map are what it answers. -/
theorem mem_entries_iff {map : KeyMap α} {key : String} {value : α} :
    (key, value) ∈ map.entries ↔ map.get? key = some value :=
  ⟨lookup_of_mem map.sorted, mem_of_lookup⟩

theorem mem_values_iff {map : KeyMap α} {value : α} :
    value ∈ map.values ↔ ∃ key, map.get? key = some value := by
  simp only [values, List.mem_map, Prod.exists, exists_eq_right, mem_entries_iff]

theorem keys_sorted (map : KeyMap α) : map.keys.Pairwise (· < ·) :=
  List.pairwise_map.mpr map.sorted

/-! ## Maps of lists -/

theorem get?_foldl_insert {entries : List (String × α)}
    (sorted : entries.Pairwise fun left right => left.1 < right.1) (map : KeyMap α)
    (wanted : String) :
    (entries.foldl (fun map entry => map.insert entry.1 entry.2) map).get? wanted =
      (entries.lookup wanted).or (map.get? wanted) := by
  induction entries generalizing map with
  | nil => rfl
  | cons head rest ih =>
      obtain ⟨key, value⟩ := head
      obtain ⟨above, restSorted⟩ := List.pairwise_cons.mp sorted
      rw [List.foldl_cons, ih restSorted, get?_insert]
      by_cases same : wanted = key
      · rw [if_pos same, same, lookup_eq_none_of_lt above, List.lookup_cons_self]
        rfl
      · have unequal : (wanted == key) = false := beq_false_of_ne same
        rw [if_neg same, List.lookup_cons, unequal]

/-- A map is the map of its own entries. -/
theorem ofList_entries (map : KeyMap α) : ofList map.entries = map := by
  refine ext_get? fun wanted => ?_
  rw [ofList, get?_foldl_insert map.sorted, get?_empty, Option.or_none]
  rfl

end EntityStore.KeyMap
