import EntityStore.Proofs.SnapshotFiles
import EntityStore.Proofs.SnapshotOrder

/-!
# Images that end too early

An image that was cut off anywhere is refused; no part of a snapshot is ever taken for a
whole one (`Snapshot.openDirectory_of_truncated`).

The reason is that every reader of the format is local: what it takes off the front of
some bytes it also takes when more bytes follow, and it leaves those behind
(`Datum.IsLocal`).  Were a datum read from the front part of what was written, the same
datum would be read from the whole, with the rest of the whole left over.  But from the
whole the datum that was written is read, and nothing is left over.
-/

set_option autoImplicit false

namespace EntityStore

namespace Datum

/-! ## Local readers -/

/-- Whether a reader takes the same off the front of bytes when more bytes follow them, and leaves
these behind. -/
def IsLocal {α : Type} (reader : Reader α) : Prop :=
  ∀ ⦃bytes : List UInt8⦄ ⦃found : α⦄ ⦃rest : List UInt8⦄, reader bytes = some (found, rest) →
    ∀ more : List UInt8, reader (bytes ++ more) = some (found, rest ++ more)

namespace IsLocal

variable {α β : Type} {reader : Reader α}

theorem failing : IsLocal (fun _ => none : Reader α) := by
  intro bytes found rest read more
  cases read

theorem constant (value : α) : IsLocal fun bytes => some (value, bytes) := by
  intro bytes found rest read more
  cases read
  rfl

/-- A reader stays local when what it takes is turned into something else. -/
theorem map (isLocal : IsLocal reader) {turn : α × List UInt8 → β × List UInt8}
    (keepsRest : ∃ value : α → β, ∀ found rest, turn (found, rest) = (value found, rest)) :
    IsLocal fun bytes => (reader bytes).map turn := by
  intro bytes found rest read more
  obtain ⟨value, turns⟩ := keepsRest
  obtain ⟨⟨taken, others⟩, first, turned⟩ := Option.map_eq_some_iff.mp read
  rw [turns] at turned
  cases turned
  simp only [isLocal first more, Option.map_some, turns]

theorem bind (isLocal : IsLocal reader) {next : α → Reader β}
    (goesOn : ∀ value, IsLocal (next value)) :
    IsLocal fun bytes => (reader bytes).bind fun read => next read.1 read.2 := by
  intro bytes found rest read more
  obtain ⟨⟨taken, others⟩, first, second⟩ := Option.bind_eq_some_iff.mp read
  simp only [isLocal first more, Option.bind_some]
  exact goesOn taken second more

end IsLocal

/-! ## The readers of the format -/

theorem readBytes_isLocal (count : Nat) : IsLocal (readBytes count) := by
  intro bytes found rest read more
  simp only [readBytes, Option.ite_none_right_eq_some, Option.some.injEq, Prod.mk.injEq] at read
  obtain ⟨length, rfl, rfl⟩ := read
  have enough : count ≤ bytes.length := by
    rw [List.length_take] at length
    omega
  simp [readBytes, List.take_append_of_le_length enough, List.drop_append_of_le_length enough,
    enough]

theorem readNumber_isLocal (width : Nat) : IsLocal (readNumber width) :=
  (readBytes_isLocal width).map ⟨_, fun _ _ => rfl⟩

theorem readUnsigned_isLocal (width : Nat) : IsLocal (readUnsigned width) :=
  (readNumber_isLocal width).map ⟨_, fun _ _ => rfl⟩

theorem readSigned_isLocal (width : Nat) : IsLocal (readSigned width) :=
  (readNumber_isLocal width).map ⟨_, fun _ _ => rfl⟩

theorem readText_isLocal (length : Nat) : IsLocal (readText length) := by
  refine (readBytes_isLocal length).map
    ⟨fun taken => (Text.ofBytes? taken).elim (.binary taken) .text, ?_⟩
  intro taken rest
  cases decoded : Text.ofBytes? taken <;> simp [decoded]

theorem readBinary_isLocal (length : Nat) : IsLocal (readBinary length) :=
  (readBytes_isLocal length).map ⟨_, fun _ _ => rfl⟩

theorem readExtension_isLocal (length : Nat) : IsLocal (readExtension length) := by
  intro bytes found rest read more
  cases bytes with
  | nil => cases read
  | cons tag bytes =>
      exact (readBytes_isLocal length).map ⟨.extension tag, fun _ _ => rfl⟩ read more

theorem readSized_isLocal (width : Nat) {reader : Nat → Reader Datum}
    (isLocal : ∀ size, IsLocal (reader size)) : IsLocal (readSized width reader) :=
  (readNumber_isLocal width).bind isLocal

section Nested

variable {inner : Reader Datum}

theorem readMany_isLocal {α : Type} {reader : Reader α} (isLocal : IsLocal reader) (count : Nat) :
    IsLocal (readMany reader count) := by
  induction count with
  | zero => exact .constant []
  | succ count ih =>
      exact isLocal.bind fun first => ih.bind fun others => .constant (first :: others)

theorem readEntry_isLocal (isLocal : IsLocal inner) : IsLocal (readEntry inner) :=
  isLocal.bind fun key => isLocal.bind fun value => .constant (key, value)

theorem readArray_isLocal (isLocal : IsLocal inner) (count : Nat) :
    IsLocal (readArray inner count) :=
  (readMany_isLocal isLocal count).map ⟨_, fun _ _ => rfl⟩

theorem readMap_isLocal (isLocal : IsLocal inner) (count : Nat) : IsLocal (readMap inner count) :=
  (readMany_isLocal (readEntry_isLocal isLocal) count).map ⟨_, fun _ _ => rfl⟩

/-- What a header byte announces is read by one of the readers above. -/
theorem readAfter_isLocal (isLocal : IsLocal inner) (lead : Nat) :
    IsLocal (readAfter inner lead) := by
  intro bytes found rest read more
  rw [readAfter.eq_def] at read ⊢
  split_ifs at read ⊢
  · exact IsLocal.constant _ read more
  · exact readMap_isLocal isLocal _ read more
  · exact readArray_isLocal isLocal _ read more
  · exact readText_isLocal _ read more
  · exact IsLocal.constant _ read more
  · split at read
    case h_1 | h_2 | h_3 => exact IsLocal.constant _ read more
    case h_4 | h_5 | h_6 => exact readSized_isLocal _ readBinary_isLocal read more
    case h_7 | h_8 | h_9 => exact readSized_isLocal _ readExtension_isLocal read more
    case h_10 | h_11 => exact (readNumber_isLocal _).map ⟨_, fun _ _ => rfl⟩ read more
    case h_12 | h_13 | h_14 | h_15 => exact readUnsigned_isLocal _ read more
    case h_16 | h_17 | h_18 | h_19 => exact readSigned_isLocal _ read more
    case h_20 | h_21 | h_22 | h_23 | h_24 => exact readExtension_isLocal _ read more
    case h_25 | h_26 | h_27 => exact readSized_isLocal _ readText_isLocal read more
    case h_28 | h_29 => exact readSized_isLocal _ (readArray_isLocal isLocal) read more
    case h_30 | h_31 => exact readSized_isLocal _ (readMap_isLocal isLocal) read more
    case h_32 => cases read

end Nested

theorem readWithin_isLocal (levels : Nat) : IsLocal (readWithin levels) := by
  induction levels with
  | zero =>
      intro bytes found rest read more
      cases bytes with
      | nil => cases read
      | cons lead bytes =>
          rw [readWithin.eq_def] at read
          rw [List.cons_append, readWithin.eq_def]
          dsimp only at read ⊢
          split_ifs at read ⊢
          exact readAfter_isLocal .failing _ read more
  | succ levels ih =>
      intro bytes found rest read more
      cases bytes with
      | nil => cases read
      | cons lead bytes => exact readAfter_isLocal ih _ read more

/-- **No proper front part of what was written is read.** -/
theorem readWithin_of_truncated {levels : Nat} {datum : Datum} (fits : Fits levels datum)
    {bytes : List UInt8} (front : bytes <+: write datum) (cut : bytes ≠ write datum) :
    readWithin levels bytes = none := by
  obtain ⟨more, whole⟩ := front
  cases read : readWithin levels bytes with
  | none => rfl
  | some result =>
      obtain ⟨found, rest⟩ := result
      have extended := readWithin_isLocal levels read more
      have written := readWithin_write fits []
      rw [List.append_nil, ← whole, extended] at written
      have nothingLeft : rest ++ more = [] := congrArg Prod.snd (Option.some.inj written)
      have nothingMore : more = [] := (List.append_eq_nil_iff.mp nothingLeft).2
      rw [nothingMore, List.append_nil] at whole
      exact absurd whole cut

end Datum

/-! ## Snapshots -/

namespace Snapshot

variable {tables : Tables} {moment : Timestamp} {image bytes : List UInt8}

/-- Whether bytes are an image of a snapshot, with the tables listed in some order. -/
def IsImage (snapshot : Snapshot) (image : List UInt8) : Prop :=
  ∃ listed : List (String × Table), listed.Perm snapshot.tables.entries ∧
    image = (snapshot.listing listed).write

theorem isImage_image (snapshot : Snapshot) : snapshot.IsImage snapshot.image :=
  ⟨snapshot.tables.entries, .refl _, (write_listing_entries snapshot).symm⟩

theorem decode?_of_truncated (fits : tables.Fits) (proper : moment.IsProper)
    (written : (ofTables tables moment).IsImage image) (front : bytes <+: image)
    (cut : bytes ≠ image) : decode? bytes = .error .malformed := by
  obtain ⟨listed, order, rfl⟩ := written
  have unread : Datum.read bytes = none :=
    Datum.readWithin_of_truncated (fits_listing fits proper.isShort order) front cut
  rw [decode?, unread]
  rfl

/-- **An image that was cut off is never accepted.**  Whatever tables the format has room for and
wherever their image is cut, be it at its very start, what is left holds no snapshot; and a
directory whose snapshot is what is left does not open, which leaves all files as they are. -/
theorem openDirectory_of_truncated (fits : tables.Fits) (proper : moment.IsProper)
    (written : (ofTables tables moment).IsImage image) (front : bytes <+: image)
    (cut : bytes ≠ image) :
    decode? bytes = .error .malformed ∧
    ∀ (directory : String) (files : FileTree),
      files.readFile (Storage.snapshotFile directory) = .ok bytes →
        Database.openDirectory directory files =
          (.error (.storageUnavailable (.unreadableDatabase directory (.image .malformed))),
            files) := by
  have refused := decode?_of_truncated fits proper written front cut
  refine ⟨refused, ?_⟩
  intro directory files read
  have loaded : Storage.load directory files = .error (.image .malformed) := by
    rw [Storage.load_of_readFile read, refused]
  rw [Database.openDirectory, Storage.prepare_of_readFile read]
  dsimp only
  rw [loaded]

end Snapshot

namespace Stock

/-- The first hundred bytes of the image of both tables. -/
def fragment : List UInt8 := (Snapshot.ofTables tables moment).image.take 100

/-- A file tree in which the fragment is the snapshot of a directory. -/
def damaged : FileTree :=
  { nodes := .ofList [("/stock", .directory), ("/stock/vera.snapshot", .file fragment)] }

end Stock

namespace Snapshot

/-- A directory whose image lost all but its first hundred bytes does not open. -/
theorem stock_truncated :
    Stock.tables.Fits ∧ Stock.moment.IsProper ∧
      Stock.fragment ≠ (ofTables Stock.tables Stock.moment).image ∧
      decode? Stock.fragment = .error .malformed ∧
      Database.openDirectory "/stock" Stock.damaged =
        (.error (.storageUnavailable (.unreadableDatabase "/stock" (.image .malformed))),
          Stock.damaged) := by
  have fits : Stock.tables.Fits := by decide +kernel
  have proper : Stock.moment.IsProper := ⟨by decide +kernel, .inr (by decide)⟩
  have cut : Stock.fragment ≠ (ofTables Stock.tables Stock.moment).image := by decide +kernel
  have isPath : checkPath (Storage.snapshotFile "/stock") = .ok () :=
    checkPath_eq_ok_iff.mpr (by decide +kernel)
  have read : Stock.damaged.readFile (Storage.snapshotFile "/stock") = .ok Stock.fragment :=
    FileTree.readFile_eq_ok_iff.mpr ⟨"/stock/vera.snapshot",
      FileTree.locate_eq_ok_iff.mpr ⟨isPath, by decide +kernel, by decide +kernel⟩,
      by decide +kernel⟩
  obtain ⟨refused, opened⟩ := openDirectory_of_truncated fits proper (isImage_image _)
    (List.take_prefix 100 _) cut
  exact ⟨fits, proper, cut, refused, opened "/stock" Stock.damaged read⟩

end Snapshot

end EntityStore
