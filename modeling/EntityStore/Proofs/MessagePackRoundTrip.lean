import EntityStore.MessagePack
import Mathlib.Tactic.Ring

/-!
# Reading what was written

A datum fits the format when every length and count has room in four bytes, every
integer in eight, and no more levels are nested than a reader may open.  A datum
that fits is read back from its own bytes, whatever bytes follow them
(`Datum.readWithin_write`).

Each kind of header is read back by one lemma, for all of its forms: the short one,
whose number is part of the first byte, and the long ones, whose number follows in a
fixed count of bytes.
-/

set_option autoImplicit false

namespace EntityStore

/-! ## Texts and numbers as bytes -/

theorem Text.ofBytes?_toBytes (text : String) : Text.ofBytes? (Text.toBytes text) = some text := by
  have same : (⟨(Text.toBytes text).toArray⟩ : ByteArray) = text.toByteArray := by
    simp [Text.toBytes]
  simp only [Text.ofBytes?, same, String.fromUTF8?]
  rw [dif_pos text.isValidUTF8]
  rfl

theorem Text.length_toBytes (text : String) : (Text.toBytes text).length = text.utf8ByteSize := rfl

theorem Text.length_bigEndian (width number : Nat) :
    (Text.bigEndian width number).length = width := by
  induction width with
  | zero => rfl
  | succ width ih => rw [Text.bigEndian, List.length_cons, ih]

theorem Text.foldl_bigEndian (width number total : Nat) :
    (Text.bigEndian width number).foldl (fun total byte => 256 * total + byte.toNat) total =
      total * 256 ^ width + number % 256 ^ width := by
  induction width generalizing total with
  | zero => simp [Text.bigEndian, Nat.mod_one]
  | succ width ih =>
      have byte : (UInt8.ofNat (number / Nat.pow 256 width)).toNat = number / 256 ^ width % 256 :=
        UInt8.toNat_ofNat'
      rw [Text.bigEndian, List.foldl_cons, ih, byte, Nat.mod_pow_succ, Nat.pow_succ]
      ring

theorem Text.ofBigEndian_bigEndian {width number : Nat} (bound : number < 256 ^ width) :
    Text.ofBigEndian (Text.bigEndian width number) = number := by
  rw [Text.ofBigEndian, Text.foldl_bigEndian, Nat.zero_mul, Nat.zero_add, Nat.mod_eq_of_lt bound]

namespace Datum

/-! ## Parts of fixed length -/

theorem readBytes_append {count : Nat} {taken : List UInt8} (length : taken.length = count)
    (rest : List UInt8) : readBytes count (taken ++ rest) = some (taken, rest) := by
  subst length
  simp [readBytes]

theorem readNumber_bigEndian {width number : Nat} (bound : number < 256 ^ width)
    (rest : List UInt8) :
    readNumber width (Text.bigEndian width number ++ rest) = some (number, rest) := by
  rw [readNumber, readBytes_append (Text.length_bigEndian width number), Option.map_some]
  simp only [Text.ofBigEndian_bigEndian bound]

theorem readSized_bigEndian (width : Nat) {size : Nat} (bound : size < 256 ^ width)
    (reader : Nat → Reader Datum) (rest : List UInt8) :
    readSized width reader (Text.bigEndian width size ++ rest) = reader size rest := by
  rw [readSized, readNumber_bigEndian bound]
  rfl

theorem readUnsigned_bigEndian (width : Nat) {number : Nat} (bound : number < 256 ^ width)
    (rest : List UInt8) :
    readUnsigned width (Text.bigEndian width number ++ rest) = some (.integer number, rest) := by
  rw [readUnsigned, readNumber_bigEndian bound]
  rfl

/-- The two's complement of a negative integer is read back. -/
theorem readSigned_bigEndian (width : Nat) {number : Int} (negative : number < 0)
    (room : -(256 ^ width : Nat) ≤ 2 * number) (rest : List UInt8) :
    readSigned width (Text.bigEndian width ((256 ^ width : Nat) + number).toNat ++ rest) =
      some (.integer number, rest) := by
  have bound : ((256 ^ width : Nat) + number).toNat < 256 ^ width := by omega
  have large : ¬ 2 * ((256 ^ width : Nat) + number).toNat < Nat.pow 256 width := by
    have unfolded : Nat.pow 256 width = 256 ^ width := rfl
    omega
  have value :
      (((256 ^ width : Nat) + number).toNat : Int) - (Nat.pow 256 width : Nat) = number := by
    have unfolded : Nat.pow 256 width = 256 ^ width := rfl
    omega
  rw [readSigned, readNumber_bigEndian bound, Option.map_some]
  simp only [if_neg large, value]

/-! ## Headers -/

theorem toNat_ofNat {number : Nat} (small : number < 256) : (UInt8.ofNat number).toNat = number :=
  UInt8.toNat_ofNat_of_lt' small

theorem readWithin_cons (levels : Nat) (lead : UInt8) (bytes : List UInt8) :
    readWithin (levels + 1) (lead :: bytes) = readAfter (readWithin levels) lead.toNat bytes := rfl

variable {levels : Nat}

theorem readWithin_writeNatural {number : Nat} (bound : number < 0x10000000000000000)
    (rest : List UInt8) :
    readWithin (levels + 1) (writeNatural number ++ rest) = some (.integer number, rest) := by
  rw [writeNatural]
  split
  · next small =>
      have lead : (UInt8.ofNat number).toNat = number := toNat_ofNat (by omega)
      rw [List.singleton_append, readWithin_cons, lead, readAfter.eq_def, if_pos small]
  · split
    · exact readUnsigned_bigEndian 1 (by omega) rest
    · split
      · exact readUnsigned_bigEndian 2 (by omega) rest
      · split
        · exact readUnsigned_bigEndian 4 (by omega) rest
        · exact readUnsigned_bigEndian 8 (by omega) rest

theorem readWithin_writeInteger {number : Int} (lower : -0x8000000000000000 ≤ number)
    (upper : number < 0x10000000000000000) (rest : List UInt8) :
    readWithin (levels + 1) (writeInteger number ++ rest) = some (.integer number, rest) := by
  rw [writeInteger]
  split
  · next notNegative =>
      rw [readWithin_writeNatural (by omega), Int.toNat_of_nonneg notNegative]
  · split
    · have lead : (UInt8.ofNat (0x100 + number).toNat).toNat = (0x100 + number).toNat :=
        toNat_ofNat (by omega)
      have value : ((0x100 + number).toNat : Int) - 256 = number := by omega
      rw [List.singleton_append, readWithin_cons, lead, readAfter.eq_def, if_neg (by omega),
        if_neg (by omega), if_neg (by omega), if_neg (by omega), if_pos (by omega), value]
    · split
      · exact readSigned_bigEndian 1 (by omega) (by omega) rest
      · split
        · exact readSigned_bigEndian 2 (by omega) (by omega) rest
        · split
          · exact readSigned_bigEndian 4 (by omega) (by omega) rest
          · exact readSigned_bigEndian 8 (by omega) (by omega) rest

theorem readWithin_textHeader {length : Nat} (bound : length < 0x100000000) (bytes : List UInt8) :
    readWithin (levels + 1) (textHeader length ++ bytes) = readText length bytes := by
  rw [textHeader]
  split
  · have lead : (UInt8.ofNat (0xA0 + length)).toNat = 0xA0 + length :=
      toNat_ofNat (by omega)
    rw [List.singleton_append, readWithin_cons, lead, readAfter.eq_def, if_neg (by omega),
      if_neg (by omega), if_neg (by omega), if_pos (by omega), Nat.add_sub_cancel_left]
  · split
    · exact readSized_bigEndian 1 (by omega) readText bytes
    · split
      · exact readSized_bigEndian 2 (by omega) readText bytes
      · exact readSized_bigEndian 4 (by omega) readText bytes

theorem readWithin_arrayHeader {count : Nat} (bound : count < 0x100000000) (bytes : List UInt8) :
    readWithin (levels + 1) (arrayHeader count ++ bytes) =
      readArray (readWithin levels) count bytes := by
  rw [arrayHeader]
  split
  · have lead : (UInt8.ofNat (0x90 + count)).toNat = 0x90 + count :=
      toNat_ofNat (by omega)
    rw [List.singleton_append, readWithin_cons, lead, readAfter.eq_def, if_neg (by omega),
      if_neg (by omega), if_pos (by omega), Nat.add_sub_cancel_left]
  · split
    · exact readSized_bigEndian 2 (by omega) (readArray (readWithin levels)) bytes
    · exact readSized_bigEndian 4 (by omega) (readArray (readWithin levels)) bytes

theorem readWithin_mapHeader {count : Nat} (bound : count < 0x100000000) (bytes : List UInt8) :
    readWithin (levels + 1) (mapHeader count ++ bytes) =
      readMap (readWithin levels) count bytes := by
  rw [mapHeader]
  split
  · have lead : (UInt8.ofNat (0x80 + count)).toNat = 0x80 + count :=
      toNat_ofNat (by omega)
    rw [List.singleton_append, readWithin_cons, lead, readAfter.eq_def, if_neg (by omega),
      if_pos (by omega), Nat.add_sub_cancel_left]
  · split
    · exact readSized_bigEndian 2 (by omega) (readMap (readWithin levels)) bytes
    · exact readSized_bigEndian 4 (by omega) (readMap (readWithin levels)) bytes

theorem readWithin_float (number : Binary64) (rest : List UInt8) :
    readWithin (levels + 1) (header 0xCB 8 number.bits.toNat ++ rest) =
      some (.float number, rest) := by
  have bound : number.bits.toNat < 256 ^ 8 := number.bits.toNat_lt
  have announced (bytes : List UInt8) : readWithin (levels + 1) (0xCB :: bytes) =
      (readNumber 8 bytes).map fun read => (.float ⟨UInt64.ofNat read.1⟩, read.2) := rfl
  rw [header, List.cons_append, announced, readNumber_bigEndian bound, Option.map_some]
  simp only [UInt64.ofNat_toNat]

/-! ## Whole data -/

/-- A datum that the format has room for, with at most so many levels. -/
inductive Fits : Nat → Datum → Prop where
  | nil {levels : Nat} : Fits (levels + 1) .nil
  | boolean {levels : Nat} (truth : Bool) : Fits (levels + 1) (.boolean truth)
  | integer {levels : Nat} {number : Int} (lower : -0x8000000000000000 ≤ number)
      (upper : number < 0x10000000000000000) : Fits (levels + 1) (.integer number)
  | float {levels : Nat} (number : Binary64) : Fits (levels + 1) (.float number)
  | text {levels : Nat} {content : String} (short : content.utf8ByteSize < 0x100000000) :
      Fits (levels + 1) (.text content)
  | array {levels : Nat} {items : List Datum} (few : items.length < 0x100000000)
      (fits : ∀ item ∈ items, Fits levels item) : Fits (levels + 1) (.array items)
  | map {levels : Nat} {entries : List (Datum × Datum)} (few : entries.length < 0x100000000)
      (keys : ∀ entry ∈ entries, Fits levels entry.1)
      (values : ∀ entry ∈ entries, Fits levels entry.2) : Fits (levels + 1) (.map entries)

theorem readMany_writeItems {reader : Reader Datum} {items : List Datum}
    (readItem : ∀ item ∈ items, ∀ rest, reader (write item ++ rest) = some (item, rest))
    (rest : List UInt8) :
    readMany reader items.length (writeItems items ++ rest) = some (items, rest) := by
  induction items with
  | nil => rfl
  | cons item items ih =>
      obtain ⟨first, others⟩ := List.forall_mem_cons.mp readItem
      simp [readMany, writeItems, first, ih others]

theorem readMany_writeEntries {reader : Reader Datum} {entries : List (Datum × Datum)}
    (readKey : ∀ entry ∈ entries, ∀ rest, reader (write entry.1 ++ rest) = some (entry.1, rest))
    (readValue : ∀ entry ∈ entries, ∀ rest, reader (write entry.2 ++ rest) = some (entry.2, rest))
    (rest : List UInt8) :
    readMany (readEntry reader) entries.length (writeEntries entries ++ rest) =
      some (entries, rest) := by
  induction entries with
  | nil => rfl
  | cons entry entries ih =>
      obtain ⟨key, value⟩ := entry
      obtain ⟨firstKey, otherKeys⟩ := List.forall_mem_cons.mp readKey
      obtain ⟨firstValue, otherValues⟩ := List.forall_mem_cons.mp readValue
      simp [readMany, writeEntries, readEntry, firstKey, firstValue, ih otherKeys otherValues]

/-- **A datum that fits is read back from its bytes, and the bytes behind it are left.** -/
theorem readWithin_write {datum : Datum} (fits : Fits levels datum) (rest : List UInt8) :
    readWithin levels (write datum ++ rest) = some (datum, rest) := by
  induction fits generalizing rest with
  | nil => rw [write]; rfl
  | boolean truth => cases truth <;> rw [write] <;> rfl
  | integer lower upper => rw [write]; exact readWithin_writeInteger lower upper rest
  | float number => rw [write]; exact readWithin_float number rest
  | @text _ content short =>
      rw [write, List.append_assoc, Text.length_toBytes, readWithin_textHeader short, readText,
        readBytes_append (Text.length_toBytes content), Option.map_some]
      simp only [Text.ofBytes?_toBytes]
  | array few fits ih =>
      rw [write, List.append_assoc, readWithin_arrayHeader few, readArray,
        readMany_writeItems ih]
      rfl
  | map few keys values readKey readValue =>
      rw [write, List.append_assoc, readWithin_mapHeader few, readMap,
        readMany_writeEntries readKey readValue]
      rfl

end Datum

end EntityStore
