import EntityStore.Binary64
import EntityStore.Text.Bytes

/-!
# MessagePack

A datum is what one MessagePack object denotes.  Writing chooses the shortest form
of every header: the number of bytes of an integer, of a length or of a count is
the least that holds it, and an integer that is not negative is written unsigned
unless the datum demands a sign.

Reading takes one datum off the front of the bytes and answers the bytes behind
it.  It accepts every form of a header, whether shortest or not, and fails exactly
when the bytes end too early, when a header is the one reserved byte, or when data
are nested deeper than the limit.
-/

set_option autoImplicit false

namespace EntityStore

/-- What one MessagePack object denotes.  The bytes of a text that is not UTF-8 count as
binary.  A number that is not negative and yet written with a sign is a datum of its own,
`signed`, for it may stand for a value, but not for a place. -/
inductive Datum where
  | nil
  | boolean (truth : Bool)
  | integer (number : Int)
  | signed (number : Nat)
  | float (number : Binary64)
  | text (content : String)
  | binary (bytes : List UInt8)
  | array (items : List Datum)
  | map (entries : List (Datum × Datum))
  | extension (tag : UInt8) (bytes : List UInt8)

namespace Datum

/-! ## Writing -/

/-- A header byte and a number in a fixed count of bytes. -/
def header (lead : UInt8) (width number : Nat) : List UInt8 :=
  lead :: Text.bigEndian width number

/-- The shortest form of a number that is not negative. -/
def writeNatural (number : Nat) : List UInt8 :=
  if number < 0x80 then [UInt8.ofNat number]
  else if number < 0x100 then header 0xCC 1 number
  else if number < 0x10000 then header 0xCD 2 number
  else if number < 0x100000000 then header 0xCE 4 number
  else header 0xCF 8 number

/-- The shortest form of an integer.  A negative one is written in two's complement. -/
def writeInteger (number : Int) : List UInt8 :=
  if 0 ≤ number then writeNatural number.toNat
  else if -0x20 ≤ number then [UInt8.ofNat (0x100 + number).toNat]
  else if -0x80 ≤ number then header 0xD0 1 (0x100 + number).toNat
  else if -0x8000 ≤ number then header 0xD1 2 (0x10000 + number).toNat
  else if -0x80000000 ≤ number then header 0xD2 4 (0x100000000 + number).toNat
  else header 0xD3 8 (0x10000000000000000 + number).toNat

/-- The shortest form with a sign of a number that is not negative. -/
def writeSigned (number : Nat) : List UInt8 :=
  if number < 0x80 then header 0xD0 1 number
  else if number < 0x8000 then header 0xD1 2 number
  else if number < 0x80000000 then header 0xD2 4 number
  else header 0xD3 8 number

/-- The header of a text with a length in bytes. -/
def textHeader (length : Nat) : List UInt8 :=
  if length < 32 then [UInt8.ofNat (0xA0 + length)]
  else if length < 0x100 then header 0xD9 1 length
  else if length < 0x10000 then header 0xDA 2 length
  else header 0xDB 4 length

/-- The header of binary data with a length. -/
def binaryHeader (length : Nat) : List UInt8 :=
  if length < 0x100 then header 0xC4 1 length
  else if length < 0x10000 then header 0xC5 2 length
  else header 0xC6 4 length

/-- The header of an array with a count of items. -/
def arrayHeader (count : Nat) : List UInt8 :=
  if count < 16 then [UInt8.ofNat (0x90 + count)]
  else if count < 0x10000 then header 0xDC 2 count
  else header 0xDD 4 count

/-- The header of a map with a count of entries. -/
def mapHeader (count : Nat) : List UInt8 :=
  if count < 16 then [UInt8.ofNat (0x80 + count)]
  else if count < 0x10000 then header 0xDE 2 count
  else header 0xDF 4 count

/-- The header of an extension with a length. -/
def extensionHeader (length : Nat) : List UInt8 :=
  if length = 1 then [0xD4]
  else if length = 2 then [0xD5]
  else if length = 4 then [0xD6]
  else if length = 8 then [0xD7]
  else if length = 16 then [0xD8]
  else if length < 0x100 then header 0xC7 1 length
  else if length < 0x10000 then header 0xC8 2 length
  else header 0xC9 4 length

mutual
/-- The bytes of a datum. -/
def write : Datum → List UInt8
  | .nil => [0xC0]
  | .boolean truth => [if truth then 0xC3 else 0xC2]
  | .integer number => writeInteger number
  | .signed number => writeSigned number
  | .float number => header 0xCB 8 number.bits.toNat
  | .text content =>
      let bytes := Text.toBytes content
      textHeader bytes.length ++ bytes
  | .binary bytes => binaryHeader bytes.length ++ bytes
  | .array items => arrayHeader items.length ++ writeItems items
  | .map entries => mapHeader entries.length ++ writeEntries entries
  | .extension tag bytes => extensionHeader bytes.length ++ tag :: bytes

/-- The bytes of the items of an array. -/
def writeItems : List Datum → List UInt8
  | [] => []
  | item :: items => write item ++ writeItems items

/-- The bytes of the entries of a map. -/
def writeEntries : List (Datum × Datum) → List UInt8
  | [] => []
  | (key, value) :: entries => write key ++ (write value ++ writeEntries entries)
end

/-! ## Reading -/

/-- What a reader takes off the front of the bytes, and the bytes behind it. -/
abbrev Reader (α : Type) := List UInt8 → Option (α × List UInt8)

/-- Takes a count of bytes. -/
def readBytes (count : Nat) : Reader (List UInt8) := fun bytes =>
  let taken := bytes.take count
  if taken.length = count then some (taken, bytes.drop count) else none

/-- Takes a number in a fixed count of bytes. -/
def readNumber (width : Nat) : Reader Nat := fun bytes =>
  (readBytes width bytes).map fun (taken, rest) => (Text.ofBigEndian taken, rest)

/-- Takes an integer without a sign in a fixed count of bytes. -/
def readUnsigned (width : Nat) : Reader Datum := fun bytes =>
  (readNumber width bytes).map fun (number, rest) => (.integer number, rest)

/-- Takes an integer in two's complement of a fixed count of bytes. -/
def readSigned (width : Nat) : Reader Datum := fun bytes =>
  (readNumber width bytes).map fun (number, rest) =>
    let bound := Nat.pow 256 width
    (if 2 * number < bound then .signed number else .integer ((number : Int) - bound), rest)

/-- Takes a text of a length in bytes, or binary data when the bytes are no text. -/
def readText (length : Nat) : Reader Datum := fun bytes =>
  (readBytes length bytes).map fun (taken, rest) =>
    match Text.ofBytes? taken with
    | some content => (.text content, rest)
    | none => (.binary taken, rest)

/-- Takes binary data of a length. -/
def readBinary (length : Nat) : Reader Datum := fun bytes =>
  (readBytes length bytes).map fun (taken, rest) => (.binary taken, rest)

/-- Takes an extension with data of a length. -/
def readExtension (length : Nat) : Reader Datum := fun bytes =>
  match bytes with
  | [] => none
  | tag :: rest => (readBytes length rest).map fun (taken, rest) => (.extension tag taken, rest)

/-- The double that a single has the value of. -/
def single (bits : Nat) : Binary64 :=
  let negative := decide (0x80000000 ≤ bits)
  let exponent := bits / 0x800000 % 0x100
  let fraction := bits % 0x800000
  if exponent = 255 then
    if fraction = 0 then .ofFields negative Binary64.infinityMagnitude else .nan
  else if exponent = 0 then .ofRatio negative (fraction * Nat.pow 2 925) 1
  else .ofRatio negative ((0x800000 + fraction) * Nat.pow 2 (924 + exponent)) 1

/-- Takes a count of things one after the other. -/
def readMany {α : Type} (reader : Reader α) : Nat → Reader (List α)
  | 0, bytes => some ([], bytes)
  | count + 1, bytes => do
      let (first, bytes) ← reader bytes
      let (others, bytes) ← readMany reader count bytes
      return (first :: others, bytes)

/-- Takes a key and a value. -/
def readEntry (reader : Reader Datum) : Reader (Datum × Datum) := fun bytes => do
  let (key, bytes) ← reader bytes
  let (value, bytes) ← reader bytes
  return ((key, value), bytes)

/-- Takes an array of a count of items. -/
def readArray (reader : Reader Datum) (count : Nat) : Reader Datum := fun bytes =>
  (readMany reader count bytes).map fun (items, rest) => (.array items, rest)

/-- Takes a map of a count of entries. -/
def readMap (reader : Reader Datum) (count : Nat) : Reader Datum := fun bytes =>
  (readMany (readEntry reader) count bytes).map fun (entries, rest) => (.map entries, rest)

/-- Takes a length or a count and what comes after it. -/
def readSized (width : Nat) (reader : Nat → Reader Datum) : Reader Datum := fun bytes =>
  (readNumber width bytes).bind fun (size, rest) => reader size rest

/-- Takes what a header byte announces; `inner` takes what is nested in it. -/
def readAfter (inner : Reader Datum) (lead : Nat) : Reader Datum := fun bytes =>
  if lead < 0x80 then some (.integer lead, bytes)
  else if lead < 0x90 then readMap inner (lead - 0x80) bytes
  else if lead < 0xA0 then readArray inner (lead - 0x90) bytes
  else if lead < 0xC0 then readText (lead - 0xA0) bytes
  else if 0xE0 ≤ lead then some (.integer ((lead : Int) - 256), bytes)
  else
    match lead with
    | 0xC0 => some (.nil, bytes)
    | 0xC2 => some (.boolean false, bytes)
    | 0xC3 => some (.boolean true, bytes)
    | 0xC4 => readSized 1 readBinary bytes
    | 0xC5 => readSized 2 readBinary bytes
    | 0xC6 => readSized 4 readBinary bytes
    | 0xC7 => readSized 1 readExtension bytes
    | 0xC8 => readSized 2 readExtension bytes
    | 0xC9 => readSized 4 readExtension bytes
    | 0xCA => (readNumber 4 bytes).map fun (bits, rest) => (.float (single bits), rest)
    | 0xCB => (readNumber 8 bytes).map fun (bits, rest) => (.float ⟨UInt64.ofNat bits⟩, rest)
    | 0xCC => readUnsigned 1 bytes
    | 0xCD => readUnsigned 2 bytes
    | 0xCE => readUnsigned 4 bytes
    | 0xCF => readUnsigned 8 bytes
    | 0xD0 => readSigned 1 bytes
    | 0xD1 => readSigned 2 bytes
    | 0xD2 => readSigned 4 bytes
    | 0xD3 => readSigned 8 bytes
    | 0xD4 => readExtension 1 bytes
    | 0xD5 => readExtension 2 bytes
    | 0xD6 => readExtension 4 bytes
    | 0xD7 => readExtension 8 bytes
    | 0xD8 => readExtension 16 bytes
    | 0xD9 => readSized 1 readText bytes
    | 0xDA => readSized 2 readText bytes
    | 0xDB => readSized 4 readText bytes
    | 0xDC => readSized 2 (readArray inner) bytes
    | 0xDD => readSized 4 (readArray inner) bytes
    | 0xDE => readSized 2 (readMap inner) bytes
    | 0xDF => readSized 4 (readMap inner) bytes
    | _ => none

/-- Whether a header byte announces an array, a map or an extension, in which data are nested. -/
def opensLevel (lead : Nat) : Bool :=
  (0x80 ≤ lead && lead < 0xA0) || (0xC7 ≤ lead && lead ≤ 0xC9) || (0xD4 ≤ lead && lead ≤ 0xD8) ||
    (0xDC ≤ lead && lead ≤ 0xDF)

/-- Takes a datum in which at most so many levels are nested. -/
def readWithin : Nat → Reader Datum
  | _, [] => none
  | 0, lead :: bytes =>
      if opensLevel lead.toNat then none else readAfter (fun _ => none) lead.toNat bytes
  | levels + 1, lead :: bytes => readAfter (readWithin levels) lead.toNat bytes

/-- How many levels may be nested. -/
def levelLimit : Nat := 1023

/-- Takes a datum. -/
def read : Reader Datum := readWithin levelLimit

end Datum

end EntityStore
