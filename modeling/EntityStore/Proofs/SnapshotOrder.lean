import EntityStore.Proofs.SnapshotRoundTrip
import EntityStore.Proofs.TimestampText

/-!
# Images whose tables come in any order

A snapshot may list its tables in any order, for they are under their names.  Entries
with different keys may be put into a map in any order, so the image is read back as
the same tables, whichever was taken.  The moment is read back, too
(`Timestamp.parse?_text`), so that the whole snapshot is.
-/

set_option autoImplicit false

namespace EntityStore

/-! ## Maps of lists in any order -/

namespace KeyMap

variable {α : Type}

theorem insert_comm (map : KeyMap α) {first second : String} (different : first ≠ second)
    (value other : α) :
    (map.insert first value).insert second other =
      (map.insert second other).insert first value := by
  refine ext_get? fun wanted => ?_
  simp only [get?_insert]
  split
  · next same =>
      subst same
      rw [if_neg (Ne.symm different)]
  · rfl

/-- The entries of a map may be listed in any order. -/
theorem ofList_of_perm {map : KeyMap α} {listed : List (String × α)}
    (order : listed.Perm map.entries) : ofList listed = map := by
  have commutes : ∀ first ∈ listed, ∀ second ∈ listed, ∀ between : KeyMap α,
      (between.insert first.1 first.2).insert second.1 second.2 =
        (between.insert second.1 second.2).insert first.1 first.2 := by
    intro first firstMember second secondMember between
    by_cases same : first.1 = second.1
    · have found := mem_entries_iff.mp (order.mem_iff.mp firstMember)
      have foundToo := mem_entries_iff.mp (order.mem_iff.mp secondMember)
      rw [same, foundToo] at found
      rw [same, Option.some.inj found]
    · exact insert_comm between same first.2 second.2
  calc
    ofList listed = ofList map.entries := order.foldl_eq' commutes _
    _ = map := map.ofList_entries

end KeyMap

/-! ## The room for the moment -/

namespace Text

theorem utf8ByteSize_ofList_le (text : List Char) :
    (String.ofList text).utf8ByteSize ≤ 4 * text.length := by
  induction text with
  | nil => exact Nat.le_refl 0
  | cons first rest ih =>
      have firstSize := first.utf8Size_le_four
      rw [← List.singleton_append, String.ofList_append, String.utf8ByteSize_append,
        ← String.singleton_eq_ofList, String.utf8ByteSize_singleton, List.length_append,
        List.length_singleton]
      omega

theorem isShort_of_length {text : String} (few : 4 * text.toList.length < Snapshot.countBound) :
    IsShort text := by
  have size := utf8ByteSize_ofList_le text.toList
  rw [String.ofList_toList] at size
  exact size.trans_lt few

end Text

theorem Timestamp.IsProper.isShort {moment : Timestamp} (proper : moment.IsProper) :
    Text.IsShort moment.text := by
  refine Text.isShort_of_length ?_
  have few := length_text_le proper
  have bound : Snapshot.countBound = 4294967296 := rfl
  omega

/-! ## Listed snapshots -/

namespace Snapshot

/-- The datum of a snapshot whose tables are listed in some order. -/
def listing (snapshot : Snapshot) (listed : List (String × Table)) : Datum :=
  .array [.integer snapshot.version,
    .map (listed.map fun entry => (.text entry.1, entry.2.toDatum)),
    .array [.text snapshot.createdAt.text, .integer snapshot.rowCount,
      .integer snapshot.tableCount]]

/-- The image lists the tables by their names. -/
theorem write_listing_entries (snapshot : Snapshot) :
    (snapshot.listing snapshot.tables.entries).write = snapshot.image := rfl

variable {tables : Tables} {listed : List (String × Table)} {moment : Timestamp}

theorem ofDatum?_listed (fits : tables.Fits) (order : listed.Perm tables.entries) :
    KeyMap.ofDatum? Table.ofDatum? (.map (listed.map fun entry =>
      (.text entry.1, entry.2.toDatum))) = some tables := by
  have each : (listed.map fun entry => (Datum.text entry.1, entry.2.toDatum)).mapM
      (fun entry => do return (← entry.1.text?, ← Table.ofDatum? entry.2)) = some listed :=
    mapM_map_eq_some fun entry member => by
      have table := Table.ofDatum?_toDatum (fits.tables entry (order.mem_iff.mp member))
      simp [Datum.text?, table]
  rw [KeyMap.ofDatum?, Datum.map?, Option.bind_eq_bind, Option.bind_some, each]
  exact congrArg some (KeyMap.ofList_of_perm order)

theorem fits_listing (fits : tables.Fits) (short : Text.IsShort moment.text)
    (order : listed.Perm tables.entries) :
    Datum.Fits Datum.levelLimit ((ofTables tables moment).listing listed) := by
  have version : currentVersion < sizeBound := by decide
  have few : listed.length < countBound := order.length_eq ▸ fits.few
  have entries : Datum.Fits 1022 (.map (listed.map fun entry =>
      (Datum.text entry.1, entry.2.toDatum))) := by
    refine .map (by rw [List.length_map]; exact few) ?_ ?_
    · rintro _ mapped
      obtain ⟨entry, member, rfl⟩ := List.mem_map.mp mapped
      exact .text (fits.names entry (order.mem_iff.mp member))
    · rintro _ mapped
      obtain ⟨entry, member, rfl⟩ := List.mem_map.mp mapped
      exact Table.fits_toDatum (fits.tables entry (order.mem_iff.mp member))
  refine Datum.Fits.array (by simp) ?_
  simp only [List.forall_mem_cons]
  exact ⟨.natural version, entries, fits_metadata fits short, by simp⟩

theorem ofDatum?_listing (fits : tables.Fits) (proper : moment.IsProper)
    (order : listed.Perm tables.entries) :
    ofDatum? ((ofTables tables moment).listing listed) = some (ofTables tables moment) := by
  have rows := Datum.natural?_integer (rowCount_lt fits moment)
  have count := Datum.natural?_integer (tableCount_lt fits moment)
  have text : Datum.plainText? (.text (ofTables tables moment).createdAt.text) = some moment.text :=
    rfl
  have version : Datum.natural? 0x100000000 (.integer currentVersion) = some currentVersion :=
    Datum.natural?_integer (by decide)
  refine (ofDatum?_array version (ofDatum?_listed fits order)).trans ?_
  rw [metadataOfDatum?_array text rows count, Timestamp.parse?_text proper]
  rfl

/-- The bytes of a listed snapshot hold the snapshot. -/
theorem decode?_write_listing (fits : tables.Fits) (proper : moment.IsProper)
    (order : listed.Perm tables.entries) :
    decode? ((ofTables tables moment).listing listed).write = .ok (ofTables tables moment) := by
  have read := Datum.readWithin_write (fits_listing fits proper.isShort order) []
  rw [List.append_nil] at read
  have bytes : Datum.read ((ofTables tables moment).listing listed).write =
      some ((ofTables tables moment).listing listed, []) := read
  rw [decode?, bytes, Option.bind_eq_bind, Option.bind_some]
  dsimp only
  rw [ofDatum?_listing fits proper order]
  rfl

/-- The number of rows is the sum of those of the tables. -/
theorem rowCount_ofTables (tables : Tables) (moment : Timestamp) :
    (ofTables tables moment).rowCount = (tables.values.map Table.rowCount).sum := by
  rw [List.sum_eq_foldl, List.foldl_map]
  rfl

/-- **A snapshot is read back from its image.**  Whatever tables the format has room for, and in
whatever order they are listed, the bytes give back the snapshot: the same tables, the moment, and
the numbers of their rows and of themselves. -/
theorem decode?_listing (fits : tables.Fits) (proper : moment.IsProper) :
    (∀ listed : List (String × Table), listed.Perm tables.entries →
      decode? ((ofTables tables moment).listing listed).write = .ok (ofTables tables moment)) ∧
    decode? (ofTables tables moment).image = .ok (ofTables tables moment) ∧
    (ofTables tables moment).tables = tables ∧
    (ofTables tables moment).rowCount = (tables.values.map Table.rowCount).sum ∧
    (ofTables tables moment).tableCount = tables.size := by
  refine ⟨fun _ order => decode?_write_listing fits proper order, ?_, rfl,
    rowCount_ofTables tables moment, rfl⟩
  rw [← write_listing_entries]
  exact decode?_write_listing fits proper (.refl _)

end Snapshot

/-! ## Two small tables -/

namespace Stock

/-- Places, one of them inside another. -/
def places : Table where
  schema := .ofColumns "place"
    [({ name := "id", type := .text, maxLength := some 300 } : Column).asPrimaryKey,
      ({ name := "within", type := .text } : Column).referencing "place"] "uuid4"
  rows := .ofList [("a", [.text "a", .null]), ("b", [.text "b", .text "a"])]

/-- An item, with an amount, a weight that is no number, and a mark. -/
def items : Table where
  schema := .ofColumns "item"
    [({ name := "id", type := .text } : Column).asPrimaryKey,
      { name := "amount", type := .integer }, { name := "weight", type := .float },
      { name := "sold", type := .boolean }] "uuid4-compact"
  rows := .ofList [("c", [.text "c", .integer (-200), .float ⟨0x7FF8000000000001⟩, .boolean true])]

/-- Both tables. -/
def tables : Tables := .ofList [("place", places), ("item", items)]

/-- A second that runs past the end of its minute. -/
def moment : Timestamp := ⟨1483228799, 1500000000⟩

end Stock

namespace Snapshot

/-- The tables are read back though they are listed against the order of their names. -/
theorem stock_decode?_listing :
    Stock.tables.Fits ∧ Stock.moment.IsProper ∧
      decode? ((ofTables Stock.tables Stock.moment).listing
        [("place", Stock.places), ("item", Stock.items)]).write =
          .ok (ofTables Stock.tables Stock.moment) ∧
      (ofTables Stock.tables Stock.moment).rowCount = 3 := by
  have fits : Stock.tables.Fits := by decide +kernel
  have proper : Stock.moment.IsProper := ⟨by decide +kernel, .inr (by decide)⟩
  obtain ⟨listed, -, -, rows, -⟩ := decode?_listing fits proper
  have entries : Stock.tables.entries = [("item", Stock.items), ("place", Stock.places)] := by
    decide +kernel
  refine ⟨fits, proper, listed _ ?_, rows.trans (by decide +kernel)⟩
  rw [entries]
  exact .swap _ _ _

end Snapshot

end EntityStore
