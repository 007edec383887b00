import EntityStore.Text.Bytes
import EntityStore.Text.Positional

/-!
# Identifiers of 128 bits and their two texts

The compact text of an identifier has 22 digits of base 64, from the alphabet that
is safe in URLs.  They hold 132 bits, so the last digit ends in four bits that have
to be zero.  The hyphenated text has 32 hexadecimal digits in groups of 8, 4, 4, 4
and 12; read back, its letters may be of either case.

The version of an identifier is the high half of its seventh byte, whatever it is.
-/

set_option autoImplicit false

namespace EntityStore

/-- An identifier of 128 bits. -/
structure Uuid where
  value : BitVec 128
  deriving DecidableEq, Repr

namespace Uuid

/-- The version number of an identifier. -/
def version (uuid : Uuid) : Nat := (uuid.value.extractLsb' 76 4).toNat

/-- The identifier of version 4 with given random bits: six of them make way for the version and
the variant. -/
def random (bits : Nat) : Uuid :=
  let source := BitVec.ofNat 128 bits
  ⟨source.extractLsb' 80 48 ++ 4#4 ++ source.extractLsb' 64 12 ++ 2#2 ++
    source.extractLsb' 0 62⟩

/-! ## The compact text -/

/-- The digit of base 64 for a number below 64. -/
def compactDigit (number : Nat) : Char :=
  if number < 26 then Char.ofNat (65 + number)
  else if number < 52 then Char.ofNat (71 + number)
  else if number < 62 then Char.ofNat (number - 4)
  else if number = 62 then '-'
  else '_'

/-- The value of a digit of base 64. -/
def compactValue? (character : Char) : Option Nat :=
  let code := character.toNat
  if 65 ≤ code ∧ code ≤ 90 then some (code - 65)
  else if 97 ≤ code ∧ code ≤ 122 then some (code - 71)
  else if 48 ≤ code ∧ code ≤ 57 then some (code + 4)
  else if character = '-' then some 62
  else if character = '_' then some 63
  else none

/-- The compact text of an identifier. -/
def compact (uuid : Uuid) : String :=
  String.ofList ((Text.digitsOf 64 22 (uuid.value.toNat * 16)).map compactDigit)

/-- The identifier with a compact text. -/
def ofCompact? (text : String) : Option Uuid := do
  let digits ← text.toList.mapM compactValue?
  let value := Text.valueOf 64 digits
  if digits.length = 22 ∧ value % 16 = 0 then return ⟨BitVec.ofNat 128 (value / 16)⟩
  else none

/-! ## The hyphenated text -/

/-- The hyphenated text of an identifier. -/
def hyphenated (uuid : Uuid) : String :=
  let digits := (Text.digitsOf 16 32 uuid.value.toNat).map Text.hexDigit
  String.ofList (digits.take 8 ++ '-' :: (digits.drop 8).take 4 ++ '-' :: (digits.drop 12).take 4 ++
    '-' :: (digits.drop 16).take 4 ++ '-' :: digits.drop 20)

/-- The hexadecimal digits of a hyphenated text, without its hyphens. -/
def ungrouped? (text : List Char) : Option (List Char) :=
  let hyphens := [8, 13, 18, 23]
  if text.length = 36 ∧ hyphens.all (fun place => text[place]? = some '-') then
    some (text.take 8 ++ (text.drop 9).take 4 ++ (text.drop 14).take 4 ++ (text.drop 19).take 4 ++
      text.drop 24)
  else none

/-- The identifier with a hyphenated text. -/
def ofHyphenated? (text : String) : Option Uuid := do
  let digits ← (← ungrouped? text.toList).mapM Text.hexValue?
  return ⟨BitVec.ofNat 128 (Text.valueOf 16 digits)⟩

end Uuid

end EntityStore
