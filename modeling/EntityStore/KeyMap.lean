/-!
# Maps in key order

A map from texts to values is the list of its entries in strictly increasing order
of their keys.  The order is part of the type, so two maps with the same entries
are equal and listing a map lists it by key.

The view of a map is `get?`.  Each operation is stated through it: inserting and
erasing change the answer at one key and leave every other key as it was, filtering
keeps the answers at some keys, and maps with the same answers are equal
(`ext_get?`).
-/

set_option autoImplicit false

namespace EntityStore

/-- A map with text keys, listed by key. -/
structure KeyMap (α : Type) where
  entries : List (String × α)
  sorted : entries.Pairwise fun left right => left.1 < right.1

namespace KeyMap

variable {α β : Type}

theorem ext_entries {left right : KeyMap α} (same : left.entries = right.entries) :
    left = right := by
  cases left
  cases right
  cases same
  rfl

instance [DecidableEq α] : DecidableEq (KeyMap α) := fun left right =>
  decidable_of_iff (left.entries = right.entries)
    ⟨ext_entries, fun same => same ▸ rfl⟩

/-- The map without entries. -/
def empty : KeyMap α := ⟨[], .nil⟩

instance : Inhabited (KeyMap α) := ⟨empty⟩

instance : EmptyCollection (KeyMap α) := ⟨empty⟩

/-- The keys in order. -/
def keys (map : KeyMap α) : List String := map.entries.map (·.1)

/-- The values in the order of their keys. -/
def values (map : KeyMap α) : List α := map.entries.map (·.2)

/-- The number of entries. -/
def size (map : KeyMap α) : Nat := map.entries.length

/-- The value at a key. -/
def get? (map : KeyMap α) (key : String) : Option α := map.entries.lookup key

/-- Whether there is a value at a key. -/
def contains (map : KeyMap α) (key : String) : Bool := (map.get? key).isSome

/-! ## Insertion -/

/-- Puts an entry at its place, in the stead of one with the same key. -/
def insertEntry (key : String) (value : α) : List (String × α) → List (String × α)
  | [] => [(key, value)]
  | (other, held) :: rest =>
      if key < other then (key, value) :: (other, held) :: rest
      else if key = other then (key, value) :: rest
      else (other, held) :: insertEntry key value rest

theorem key_of_mem_insertEntry {key : String} {value : α} {entries : List (String × α)}
    {entry : String × α} (member : entry ∈ insertEntry key value entries) :
    entry.1 = key ∨ entry ∈ entries := by
  induction entries with
  | nil =>
      simp only [insertEntry, List.mem_singleton] at member
      exact .inl (by rw [member])
  | cons head rest ih =>
      obtain ⟨other, held⟩ := head
      simp only [insertEntry] at member
      split at member
      · rcases List.mem_cons.mp member with rfl | old
        · exact .inl rfl
        · exact .inr old
      · split at member
        · rcases List.mem_cons.mp member with rfl | old
          · exact .inl rfl
          · exact .inr (List.mem_cons_of_mem _ old)
        · rcases List.mem_cons.mp member with rfl | old
          · exact .inr List.mem_cons_self
          · exact (ih old).imp id (List.mem_cons_of_mem _)

theorem lt_of_not_lt_of_ne {left right : String} (notLess : ¬ left < right)
    (different : left ≠ right) : right < left :=
  Std.lt_of_le_of_ne (String.not_lt.mp notLess) (Ne.symm different)

theorem insertEntry_sorted {key : String} {value : α} {entries : List (String × α)}
    (sorted : entries.Pairwise fun left right => left.1 < right.1) :
    (insertEntry key value entries).Pairwise fun left right => left.1 < right.1 := by
  induction entries with
  | nil => simp [insertEntry]
  | cons head rest ih =>
      obtain ⟨other, held⟩ := head
      obtain ⟨above, restSorted⟩ := List.pairwise_cons.mp sorted
      simp only [insertEntry]
      split
      · next less =>
          refine List.pairwise_cons.mpr ⟨fun entry member => ?_, sorted⟩
          rcases List.mem_cons.mp member with rfl | old
          · exact less
          · exact String.lt_trans less (above entry old)
      · next notLess =>
          split
          · next equal =>
              exact List.pairwise_cons.mpr ⟨fun entry member => equal ▸ above entry member,
                restSorted⟩
          · next different =>
              refine List.pairwise_cons.mpr ⟨fun entry member => ?_, ih restSorted⟩
              rcases key_of_mem_insertEntry member with equal | old
              · exact equal ▸ lt_of_not_lt_of_ne notLess different
              · exact above entry old

/-- The map with a value at a key, whatever was there before. -/
def insert (map : KeyMap α) (key : String) (value : α) : KeyMap α :=
  ⟨insertEntry key value map.entries, insertEntry_sorted map.sorted⟩

/-- The entries whose keys pass a test. -/
def filterKeys (keep : String → Bool) (map : KeyMap α) : KeyMap α :=
  ⟨map.entries.filter fun entry => keep entry.1, map.sorted.filter _⟩

/-- The map without an entry at a key. -/
def erase (map : KeyMap α) (key : String) : KeyMap α := map.filterKeys (· != key)

/-- The map of a list of entries; of several with one key the last counts. -/
def ofList (entries : List (String × α)) : KeyMap α :=
  entries.foldl (fun map entry => map.insert entry.1 entry.2) empty

/-! ## The view of each operation -/

@[simp]
theorem get?_empty (key : String) : (empty : KeyMap α).get? key = none := rfl

theorem lookup_insertEntry_self (key : String) (value : α) (entries : List (String × α)) :
    (insertEntry key value entries).lookup key = some value := by
  induction entries with
  | nil => simp [insertEntry]
  | cons head rest ih =>
      obtain ⟨other, held⟩ := head
      simp only [insertEntry]
      split
      · simp
      · split
        · simp
        · next different =>
            have unequal : (key == other) = false := beq_false_of_ne different
            simp [List.lookup_cons, unequal, ih]

theorem lookup_insertEntry_of_ne {key wanted : String} (different : wanted ≠ key) (value : α)
    (entries : List (String × α)) :
    (insertEntry key value entries).lookup wanted = entries.lookup wanted := by
  have unequal : (wanted == key) = false := beq_false_of_ne different
  induction entries with
  | nil => simp [insertEntry, List.lookup_cons, unequal]
  | cons head rest ih =>
      obtain ⟨other, held⟩ := head
      simp only [insertEntry]
      split
      · simp only [List.lookup_cons, unequal]
      · split
        · next equal => subst equal; simp only [List.lookup_cons, unequal]
        · simp only [List.lookup_cons, ih]

@[simp]
theorem get?_insert_self (map : KeyMap α) (key : String) (value : α) :
    (map.insert key value).get? key = some value :=
  lookup_insertEntry_self key value map.entries

theorem get?_insert_of_ne (map : KeyMap α) {key wanted : String} (different : wanted ≠ key)
    (value : α) : (map.insert key value).get? wanted = map.get? wanted :=
  lookup_insertEntry_of_ne different value map.entries

theorem lookup_filter (keep : String → Bool) (key : String) (entries : List (String × α)) :
    (entries.filter fun entry => keep entry.1).lookup key =
      if keep key then entries.lookup key else none := by
  induction entries with
  | nil => simp
  | cons head rest ih =>
      obtain ⟨other, held⟩ := head
      by_cases equal : key = other
      · subst equal
        by_cases kept : keep key <;> simp [kept, ih]
      · have unequal : (key == other) = false := beq_false_of_ne equal
        by_cases kept : keep other <;> simp [List.lookup_cons, kept, unequal, ih]

theorem get?_filterKeys (keep : String → Bool) (map : KeyMap α) (key : String) :
    (map.filterKeys keep).get? key = if keep key then map.get? key else none :=
  lookup_filter keep key map.entries

@[simp]
theorem get?_erase_self (map : KeyMap α) (key : String) : (map.erase key).get? key = none := by
  simp [erase, get?_filterKeys]

theorem get?_erase_of_ne (map : KeyMap α) {key wanted : String} (different : wanted ≠ key) :
    (map.erase key).get? wanted = map.get? wanted := by
  simp [erase, get?_filterKeys, different]

/-! ## The view determines the map -/

theorem lookup_eq_none_of_lt {key : String} {entries : List (String × α)}
    (above : ∀ entry ∈ entries, key < entry.1) : entries.lookup key = none := by
  induction entries with
  | nil => rfl
  | cons head rest ih =>
      obtain ⟨other, held⟩ := head
      have less : key < other := above (other, held) List.mem_cons_self
      have unequal : (key == other) = false :=
        beq_false_of_ne fun equal => String.lt_irrefl other (equal ▸ less)
      rw [List.lookup_cons, unequal]
      exact ih fun entry member => above entry (List.mem_cons_of_mem _ member)

theorem lookup_cons_of_lt {key wanted : String} {value : α} {entries : List (String × α)}
    (less : wanted < key) : ((key, value) :: entries).lookup wanted = entries.lookup wanted := by
  have unequal : (wanted == key) = false :=
    beq_false_of_ne fun equal => String.lt_irrefl key (equal ▸ less)
  rw [List.lookup_cons, unequal]

/-- There is nothing at a key below the first of a list in strict order. -/
theorem lookup_eq_none_of_head_lt {key wanted : String} {value : α}
    {entries : List (String × α)} (less : wanted < key)
    (above : ∀ entry ∈ entries, key < entry.1) :
    ((key, value) :: entries).lookup wanted = none := by
  rw [lookup_cons_of_lt less]
  exact lookup_eq_none_of_lt fun entry member => String.lt_trans less (above entry member)

/-- Lists in strict order of their keys with the same answers are the same. -/
theorem entries_ext_lookup {lefts rights : List (String × α)}
    (leftSorted : lefts.Pairwise fun left right => left.1 < right.1)
    (rightSorted : rights.Pairwise fun left right => left.1 < right.1)
    (same : ∀ key, lefts.lookup key = rights.lookup key) : lefts = rights := by
  induction lefts generalizing rights with
  | nil =>
      cases rights with
      | nil => rfl
      | cons head rest =>
          obtain ⟨key, value⟩ := head
          simpa using same key
  | cons head rest ih =>
      obtain ⟨key, value⟩ := head
      obtain ⟨above, restSorted⟩ := List.pairwise_cons.mp leftSorted
      cases rights with
      | nil => simpa using same key
      | cons other others =>
          obtain ⟨otherKey, otherValue⟩ := other
          obtain ⟨otherAbove, othersSorted⟩ := List.pairwise_cons.mp rightSorted
          have notLess : ¬ key < otherKey := fun less => by
            simpa [lookup_eq_none_of_head_lt less otherAbove] using same key
          have notGreater : ¬ otherKey < key := fun less => by
            simpa [lookup_eq_none_of_head_lt less above] using same otherKey
          obtain rfl : key = otherKey :=
            Std.le_antisymm (String.not_lt.mp notGreater) (String.not_lt.mp notLess)
          obtain rfl : value = otherValue := by simpa using same key
          refine congrArg _ (ih restSorted othersSorted fun wanted => ?_)
          by_cases equal : wanted = key
          · rw [equal, lookup_eq_none_of_lt above, lookup_eq_none_of_lt otherAbove]
          · have unequal : (wanted == key) = false := beq_false_of_ne equal
            simpa [List.lookup_cons, unequal] using same wanted

/-- Maps with the same value at every key are the same. -/
theorem ext_get? {left right : KeyMap α} (same : ∀ key, left.get? key = right.get? key) :
    left = right :=
  ext_entries (entries_ext_lookup left.sorted right.sorted same)

end KeyMap

end EntityStore
