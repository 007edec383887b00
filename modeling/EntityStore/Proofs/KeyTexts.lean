import Mathlib.Data.Nat.Digits.Defs
import Mathlib.Tactic.Tauto
import EntityStore.Key.Strategy

/-!
# The two texts of an identifier

Both texts of an identifier are its digits, in base 64 or base 16.  Digits in a fixed
number denote one number each, so a text denotes at most one identifier, and reading
it is exact as soon as each character is.

The 22 digits of the compact text hold four bits more than an identifier has.  As
these have to be zero, each identifier has one compact text and no other text reads
as it (`Uuid.ofCompact?_eq_some_iff`).  The 32 digits of the hyphenated text hold just
as many bits, but a digit above nine may be written in capitals, and that is the only
freedom (`Uuid.ofHyphenated?_eq_some_iff`).  As the two texts differ in length, no key
can be read both ways.
-/

set_option autoImplicit false

namespace EntityStore

/-- Reading items one by one, when an item reads as a value exactly if the value is valid and is
written in the shape of the item. -/
theorem mapM_eq_some_iff {α β γ : Type} {read : α → Option β} {valid : β → Prop} {write : β → γ}
    {shape : α → γ}
    (exact : ∀ item value, read item = some value ↔ valid value ∧ write value = shape item)
    {items : List α} {values : List β} :
    items.mapM read = some values ↔
      (∀ value ∈ values, valid value) ∧ values.map write = items.map shape := by
  induction items generalizing values with
  | nil => cases values <;> simp
  | cons item items ih =>
      cases values with
      | nil => simp [List.mapM_cons, Option.bind_eq_some_iff]
      | cons value values =>
          simp only [List.mapM_cons, Option.bind_eq_bind, Option.bind_eq_some_iff, Option.pure_def,
            Option.some.injEq, List.cons.injEq, exists_eq_right_right, ih, exact,
            List.forall_mem_cons, List.map_cons]
          tauto

/-! ## Numbers and their digits -/

namespace Text

variable {base : Nat} {digits : List Nat}

theorem valueOf_eq_ofDigits (base : Nat) (digits : List Nat) :
    valueOf base digits = Nat.ofDigits base digits.reverse := by
  rw [valueOf, Nat.ofDigits_eq_foldr, List.foldr_reverse]
  simp only [Nat.cast_id, Nat.add_comm]

theorem valueOf_cons (base digit : Nat) (digits : List Nat) :
    valueOf base (digit :: digits) = valueOf base digits + base ^ digits.length * digit := by
  rw [valueOf_eq_ofDigits, valueOf_eq_ofDigits, Nat.ofDigits_reverse_cons]

theorem valueOf_lt (big : 1 < base) (below : ∀ digit ∈ digits, digit < base) :
    valueOf base digits < base ^ digits.length := by
  rw [valueOf_eq_ofDigits, ← List.length_reverse]
  exact Nat.ofDigits_lt_base_pow_length big fun digit member =>
    below digit (List.mem_reverse.mp member)

/-- Equally many digits denote different numbers unless they are the same. -/
theorem eq_of_valueOf_eq (big : 1 < base) {left right : List Nat}
    (lengths : left.length = right.length) (leftBelow : ∀ digit ∈ left, digit < base)
    (rightBelow : ∀ digit ∈ right, digit < base)
    (same : valueOf base left = valueOf base right) : left = right := by
  rw [valueOf_eq_ofDigits, valueOf_eq_ofDigits] at same
  refine List.reverse_inj.mp (Nat.ofDigits_inj_of_len_eq big ?_ ?_ ?_ same)
  · rw [List.length_reverse, List.length_reverse, lengths]
  · exact fun digit member => leftBelow digit (List.mem_reverse.mp member)
  · exact fun digit member => rightBelow digit (List.mem_reverse.mp member)

theorem length_digitsOf (base width number : Nat) :
    (digitsOf base width number).length = width := by
  induction width with
  | zero => rfl
  | succ width ih => rw [digitsOf, List.length_cons, ih]

theorem lt_of_mem_digitsOf (positive : 0 < base) {width number digit : Nat}
    (member : digit ∈ digitsOf base width number) : digit < base := by
  induction width with
  | zero => cases member
  | succ width ih =>
      rcases List.mem_cons.mp member with rfl | later
      · exact Nat.mod_lt _ positive
      · exact ih later

theorem valueOf_digitsOf (base width number : Nat) :
    valueOf base (digitsOf base width number) = number % base ^ width := by
  induction width with
  | zero => exact (Nat.mod_one number).symm
  | succ width ih =>
      rw [digitsOf, valueOf_cons, length_digitsOf, ih, Nat.pow_succ, Nat.mod_mul]
      rfl

/-- Digits are those of the number that they denote. -/
theorem digitsOf_valueOf (big : 1 < base) (below : ∀ digit ∈ digits, digit < base) :
    digitsOf base digits.length (valueOf base digits) = digits := by
  refine eq_of_valueOf_eq big (length_digitsOf ..)
    (fun digit => lt_of_mem_digitsOf (Nat.lt_of_succ_lt big)) below ?_
  rw [valueOf_digitsOf, Nat.mod_eq_of_lt (valueOf_lt big below)]

/-! ## Characters -/

theorem toLower_of_le {character : Char} (beyond : 91 ≤ character.toNat) :
    character.toLower = character := by
  refine dif_neg ?_
  rintro ⟨-, upper⟩
  exact absurd (Nat.le_trans beyond upper) (by decide)

theorem toList_toLower (text : String) : text.toLower.toList = text.toList.map Char.toLower :=
  String.toList_map ..

theorem length_toLower (text : String) : text.toLower.length = text.length := String.length_map ..

theorem toLower_eq_hyphen_iff (character : Char) :
    character.toLower = '-' ↔ character = '-' := by
  by_cases beyond : 91 ≤ character.toNat
  · rw [toLower_of_le beyond]
  · have all : ∀ code < 91, (Char.ofNat code).toLower = '-' ↔ Char.ofNat code = '-' := by decide
    have same := all character.toNat (Nat.lt_of_not_le beyond)
    rwa [Char.ofNat_toNat] at same

/-- A character reads as a number below sixteen exactly if it is its digit, be it a capital. -/
theorem hexValue?_eq_some_iff (character : Char) (number : Nat) :
    hexValue? character = some number ↔ number < 16 ∧ hexDigit number = character.toLower := by
  by_cases beyond : 103 ≤ character.toNat
  · have unread : hexValue? character = none := by
      rw [hexValue?, if_neg (by omega), if_neg (by omega), if_neg (by omega)]
    have digits : ∀ number < 16, (hexDigit number).toNat < 103 := by decide
    rw [unread, toLower_of_le (by omega)]
    refine ⟨nofun, fun ⟨below, written⟩ => ?_⟩
    exact absurd (written ▸ digits number below) (Nat.not_lt.mpr beyond)
  · have all : ∀ code < 103, (∀ number ∈ hexValue? (Char.ofNat code), number < 16 ∧
          hexDigit number = (Char.ofNat code).toLower) ∧
        ∀ number < 16, hexDigit number = (Char.ofNat code).toLower →
          hexValue? (Char.ofNat code) = some number := by
      decide
    have known := all character.toNat (Nat.lt_of_not_le beyond)
    rw [Char.ofNat_toNat] at known
    exact ⟨known.1 number, fun ⟨below, written⟩ => known.2 number below written⟩

/-- A text of one byte for each character has as many bytes as characters. -/
theorem utf8ByteSize_ofList {text : List Char}
    (small : ∀ character ∈ text, character.utf8Size = 1) :
    (String.ofList text).utf8ByteSize = text.length := by
  induction text with
  | nil => rfl
  | cons first rest ih =>
      obtain ⟨firstSmall, restSmall⟩ := List.forall_mem_cons.mp small
      rw [← List.singleton_append, String.ofList_append, String.utf8ByteSize_append,
        ← String.singleton_eq_ofList, String.utf8ByteSize_singleton, firstSmall, ih restSmall,
        List.length_append, List.length_singleton]

end Text

namespace Uuid

/-- The version is the high half of the seventh byte, below which there are 76 bits. -/
theorem version_eq (uuid : Uuid) : uuid.version = uuid.value.toNat / 2 ^ 76 % 16 := by
  rw [version, BitVec.extractLsb'_toNat, Nat.shiftRight_eq_div_pow]

/-! ## The compact text -/

/-- A character reads as a number below 64 exactly if it is its digit. -/
theorem compactValue?_eq_some_iff (character : Char) (number : Nat) :
    compactValue? character = some number ↔ number < 64 ∧ compactDigit number = character := by
  have digits : ∀ number < 64, (compactDigit number).toNat < 123 ∧
      compactValue? (compactDigit number) = some number := by
    decide
  constructor
  · intro read
    have code : character.toNat < 123 := by
      by_contra beyond
      rw [compactValue?, if_neg (by omega), if_neg (by omega), if_neg (by omega), if_neg,
        if_neg] at read
      · cases read
      · rintro rfl
        exact beyond (by decide)
      · rintro rfl
        exact beyond (by decide)
    have all : ∀ code < 123, ∀ number ∈ compactValue? (Char.ofNat code),
        number < 64 ∧ compactDigit number = Char.ofNat code := by
      decide
    have known := all character.toNat code number
    rw [Char.ofNat_toNat] at known
    exact known read
  · rintro ⟨below, rfl⟩
    exact (digits number below).2

theorem length_compact (uuid : Uuid) : uuid.compact.length = 22 := by
  rw [compact, String.length_ofList, List.length_map, Text.length_digitsOf]

theorem utf8ByteSize_compact (uuid : Uuid) : uuid.compact.utf8ByteSize = 22 := by
  have small : ∀ number < 64, (compactDigit number).utf8Size = 1 := by decide
  rw [compact, Text.utf8ByteSize_ofList, List.length_map, Text.length_digitsOf]
  refine List.forall_mem_map.mpr fun digit member => ?_
  exact small digit (Text.lt_of_mem_digitsOf (by decide) member)

/-- **A key reads as an identifier exactly if it is its compact text.** -/
theorem ofCompact?_eq_some_iff {text : String} {uuid : Uuid} :
    ofCompact? text = some uuid ↔ text = uuid.compact := by
  simp only [ofCompact?, Option.bind_eq_bind, Option.bind_eq_some_iff,
    mapM_eq_some_iff compactValue?_eq_some_iff, List.map_id']
  constructor
  · rintro ⟨digits, ⟨below, written⟩, same⟩
    split_ifs at same with canonical
    cases same
    obtain ⟨count, spare⟩ := canonical
    have bound := Text.valueOf_lt (by decide) below
    rw [count] at bound
    -- The digits hold four bits too many, all of them zero.
    have kept : Text.valueOf 64 digits / 16 % 2 ^ 128 * 16 = Text.valueOf 64 digits := by omega
    rw [compact, BitVec.toNat_ofNat, kept, ← count, Text.digitsOf_valueOf (by decide) below,
      written, String.ofList_toList]
  · rintro rfl
    have bound := uuid.value.isLt
    have value : Text.valueOf 64 (Text.digitsOf 64 22 (uuid.value.toNat * 16)) =
        uuid.value.toNat * 16 := by
      rw [Text.valueOf_digitsOf, Nat.mod_eq_of_lt (by omega)]
    refine ⟨Text.digitsOf 64 22 (uuid.value.toNat * 16),
      ⟨fun digit member => Text.lt_of_mem_digitsOf (by decide) member,
        String.toList_ofList.symm⟩, ?_⟩
    rw [value, if_pos ⟨Text.length_digitsOf .., Nat.mul_mod_left ..⟩,
      Nat.mul_div_cancel _ (by decide), BitVec.ofNat_toNat, BitVec.setWidth_eq]
    rfl

/-! ## The hyphenated text -/

/-- Digits in groups of 8, 4, 4, 4 and 12, with hyphens between them. -/
def grouped (digits : List Char) : List Char :=
  digits.take 8 ++ '-' :: (digits.drop 8).take 4 ++ '-' :: (digits.drop 12).take 4 ++
    '-' :: (digits.drop 16).take 4 ++ '-' :: digits.drop 20

theorem hyphenated_eq (uuid : Uuid) : uuid.hyphenated =
    .ofList (grouped ((Text.digitsOf 16 32 uuid.value.toNat).map Text.hexDigit)) := rfl

theorem length_grouped {digits : List Char} (count : digits.length = 32) :
    (grouped digits).length = 36 := by
  simp [grouped, count]

theorem map_grouped (change : Char → Char) (same : change '-' = '-') (digits : List Char) :
    (grouped digits).map change = grouped (digits.map change) := by
  simp [grouped, same]

theorem take_append_drop_of_getElem? {α : Type} {items : List α} {place : Nat} {item : α}
    (held : items[place]? = some item) :
    items.take place ++ item :: items.drop (place + 1) = items := by
  obtain ⟨inside, rfl⟩ := List.getElem?_eq_some_iff.mp held
  rw [← List.drop_eq_getElem_cons inside, List.take_append_drop]

/-- A group and what follows its hyphen. -/
theorem group_append {text : List Char} {start : Nat} (hyphen : text[start + 4]? = some '-') :
    (text.drop start).take 4 ++ '-' :: text.drop (start + 5) = text.drop start := by
  rw [← List.getElem?_drop] at hyphen
  have parted := take_append_drop_of_getElem? hyphen
  rwa [List.drop_drop] at parted

/-- The digits of a text are what it has in groups. -/
theorem ungrouped?_eq_some_iff {text digits : List Char} :
    ungrouped? text = some digits ↔ digits.length = 32 ∧ text = grouped digits := by
  rw [ungrouped?]
  constructor
  · intro same
    split_ifs at same with shape
    cases same
    simp only [List.all_cons, List.all_nil, Bool.and_true, Bool.and_eq_true,
      decide_eq_true_eq] at shape
    obtain ⟨length, first, second, third, fourth⟩ := shape
    refine ⟨by simp [length], ?_⟩
    have parted : text = text.take 8 ++ '-' :: ((text.drop 9).take 4 ++ '-' ::
        ((text.drop 14).take 4 ++ '-' :: ((text.drop 19).take 4 ++ '-' :: text.drop 24))) := by
      rw [group_append fourth, group_append third, group_append second,
        take_append_drop_of_getElem? first]
    simpa [grouped, length, List.take_append, List.drop_append, List.drop_take] using parted
  · rintro ⟨count, rfl⟩
    rw [if_pos ⟨length_grouped count, by simp [grouped, count, List.getElem?_append]⟩]
    have group (start : Nat) :
        (digits.drop start).take 4 ++ digits.drop (start + 4) = digits.drop start := by
      rw [← List.drop_drop, List.take_append_drop]
    have joined : digits.take 8 ++ ((digits.drop 8).take 4 ++ ((digits.drop 12).take 4 ++
        ((digits.drop 16).take 4 ++ digits.drop 20))) = digits := by
      rw [group 16, group 12, group 8, List.take_append_drop]
    simpa [grouped, count, List.drop_append, List.drop_take] using joined

theorem length_hyphenated (uuid : Uuid) : uuid.hyphenated.length = 36 := by
  rw [hyphenated_eq, String.length_ofList, length_grouped]
  rw [List.length_map, Text.length_digitsOf]

theorem mem_grouped {digits : List Char} {character : Char}
    (member : character ∈ grouped digits) : character = '-' ∨ character ∈ digits := by
  simp only [grouped, List.append_assoc, List.cons_append, List.mem_append, List.mem_cons] at member
  rcases member with taken | hyphen | taken | hyphen | taken | hyphen | taken | hyphen | rest
  · exact .inr (List.mem_of_mem_take taken)
  all_goals first
    | exact .inl hyphen
    | exact .inr (List.mem_of_mem_drop (List.mem_of_mem_take taken))
    | exact .inr (List.mem_of_mem_drop rest)

theorem utf8ByteSize_hyphenated (uuid : Uuid) : uuid.hyphenated.utf8ByteSize = 36 := by
  have small : ∀ number < 16, (Text.hexDigit number).utf8Size = 1 := by decide
  rw [hyphenated_eq, Text.utf8ByteSize_ofList, length_grouped]
  · rw [List.length_map, Text.length_digitsOf]
  · intro character member
    rcases mem_grouped member with rfl | written
    · rfl
    · obtain ⟨digit, digitMember, rfl⟩ := List.mem_map.mp written
      exact small digit (Text.lt_of_mem_digitsOf (by decide) digitMember)

theorem toLower_hyphenated (uuid : Uuid) : uuid.hyphenated.toLower = uuid.hyphenated := by
  have small : ∀ number < 16, (Text.hexDigit number).toLower = Text.hexDigit number := by decide
  rw [hyphenated_eq, ← String.toList_inj, Text.toList_toLower, String.toList_ofList,
    map_grouped _ rfl, List.map_map]
  exact congrArg grouped (List.map_congr_left fun digit member =>
    small digit (Text.lt_of_mem_digitsOf (by decide) member))

/-- Capitals make no difference to where the hyphens are. -/
theorem ungrouped?_map_toLower (text : List Char) :
    ungrouped? (text.map Char.toLower) = (ungrouped? text).map (·.map Char.toLower) := by
  have hyphen (place : Nat) :
      (text.map Char.toLower)[place]? = some '-' ↔ text[place]? = some '-' := by
    simp [List.getElem?_map, Option.map_eq_some_iff, Text.toLower_eq_hyphen_iff]
  simp only [ungrouped?, List.length_map, hyphen]
  split_ifs
  · simp
  · rfl

/-- **A key reads as an identifier exactly if it is its hyphenated text, capitals aside.** -/
theorem ofHyphenated?_eq_some_iff {text : String} {uuid : Uuid} :
    ofHyphenated? text = some uuid ↔ text.toLower = uuid.hyphenated := by
  rw [hyphenated_eq, ← String.toList_inj, Text.toList_toLower, String.toList_ofList]
  simp only [ofHyphenated?, Option.bind_eq_bind, Option.bind_eq_some_iff,
    mapM_eq_some_iff Text.hexValue?_eq_some_iff]
  have allBits : 16 ^ 32 = 2 ^ 128 := by norm_num
  constructor
  · rintro ⟨characters, parted, digits, ⟨below, written⟩, same⟩
    cases same
    obtain ⟨count, text_eq⟩ := ungrouped?_eq_some_iff.mp parted
    have digitCount : digits.length = 32 := by
      simpa [count] using congrArg List.length written
    have bound := Text.valueOf_lt (by decide) below
    rw [digitCount, allBits] at bound
    rw [BitVec.toNat_ofNat, Nat.mod_eq_of_lt bound, ← digitCount,
      Text.digitsOf_valueOf (by decide) below, written, text_eq, map_grouped _ rfl]
  · intro lowered
    have count : ((Text.digitsOf 16 32 uuid.value.toNat).map Text.hexDigit).length = 32 := by
      rw [List.length_map, Text.length_digitsOf]
    have parted := ungrouped?_map_toLower text.toList
    rw [lowered, ungrouped?_eq_some_iff.mpr ⟨count, rfl⟩, eq_comm, Option.map_eq_some_iff] at parted
    obtain ⟨characters, read, written⟩ := parted
    refine ⟨characters, read, Text.digitsOf 16 32 uuid.value.toNat,
      ⟨fun digit member => Text.lt_of_mem_digitsOf (by decide) member, written.symm⟩, ?_⟩
    rw [Text.valueOf_digitsOf, allBits, Nat.mod_eq_of_lt uuid.value.isLt, BitVec.ofNat_toNat,
      BitVec.setWidth_eq]
    rfl

end Uuid

/-! ## Keys -/

namespace KeyEncoding

theorem decode?_encode (encoding : KeyEncoding) (uuid : Uuid) :
    encoding.decode? (encoding.encode uuid) = some uuid := by
  cases encoding with
  | compact => exact Uuid.ofCompact?_eq_some_iff.mpr rfl
  | hyphenated => exact Uuid.ofHyphenated?_eq_some_iff.mpr uuid.toLower_hyphenated

theorem utf8ByteSize_encode (encoding : KeyEncoding) (uuid : Uuid) :
    (encoding.encode uuid).utf8ByteSize = encoding.keyLength := by
  cases encoding with
  | compact => exact uuid.utf8ByteSize_compact
  | hyphenated => exact uuid.utf8ByteSize_hyphenated

/-- The two texts differ in length, so no key is read both ways. -/
theorem decode?_eq_none (key : String) :
    compact.decode? key = none ∨ hyphenated.decode? key = none := by
  by_contra both
  obtain ⟨read, otherRead⟩ := not_or.mp both
  obtain ⟨uuid, read⟩ := Option.ne_none_iff_exists'.mp read
  obtain ⟨other, otherRead⟩ := Option.ne_none_iff_exists'.mp otherRead
  have lengths := congrArg String.length (Uuid.ofHyphenated?_eq_some_iff.mp otherRead)
  rw [Uuid.ofCompact?_eq_some_iff.mp read, Text.length_toLower,
    uuid.length_compact, other.length_hyphenated] at lengths
  cases lengths

theorem detect?_encode (encoding : KeyEncoding) (uuid : Uuid) :
    KeyScheme.detect? (encoding.encode uuid) = some ⟨encoding, uuid.version⟩ := by
  have read := decode?_encode encoding uuid
  cases encoding with
  | compact => rw [KeyScheme.detect?, read]
  | hyphenated =>
      have unread := (decode?_eq_none (hyphenated.encode uuid)).resolve_right
        fun none => nomatch none.symm.trans read
      rw [KeyScheme.detect?, unread, read]
      rfl

/-- **Keys are exact and unambiguous.**  Each encoding writes an identifier in a fixed number of
characters, reads it back, and is recognized together with the version.  A key that is read as an
identifier is the text of it, up to capitals when it is hyphenated, and no key is read in both
encodings. -/
theorem decode?_exact (uuid : Uuid) (key : String) :
    (compact.encode uuid).length = 22 ∧ (hyphenated.encode uuid).length = 36 ∧
    (∀ encoding : KeyEncoding, (encoding.encode uuid).utf8ByteSize = encoding.keyLength ∧
      encoding.decode? (encoding.encode uuid) = some uuid ∧
      KeyScheme.detect? (encoding.encode uuid) =
        some ⟨encoding, uuid.value.toNat / 2 ^ 76 % 16⟩) ∧
    (compact.decode? key = some uuid ↔ key = compact.encode uuid) ∧
    (hyphenated.decode? key = some uuid ↔ key.toLower = hyphenated.encode uuid) ∧
    (compact.decode? key = none ∨ hyphenated.decode? key = none) := by
  refine ⟨uuid.length_compact, uuid.length_hyphenated, fun encoding => ?_,
    Uuid.ofCompact?_eq_some_iff, Uuid.ofHyphenated?_eq_some_iff, decode?_eq_none key⟩
  rw [← uuid.version_eq]
  exact ⟨utf8ByteSize_encode encoding uuid, decode?_encode encoding uuid,
    detect?_encode encoding uuid⟩

end KeyEncoding

end EntityStore
