/-!
# Texts as bytes

The UTF-8 form of a text as a list of bytes, and back; whole numbers in a fixed
number of bytes, most significant first, and back; and bytes written as
hexadecimal digits.
-/

set_option autoImplicit false

namespace EntityStore.Text

/-- The UTF-8 bytes of a text. -/
def toBytes (text : String) : List UInt8 := text.toUTF8.data.toList

/-- The text with given UTF-8 bytes, if they are the bytes of a text. -/
def ofBytes? (bytes : List UInt8) : Option String := String.fromUTF8? ⟨bytes.toArray⟩

/-- The lowest `width` bytes of a number, most significant first. -/
def bigEndian : Nat → Nat → List UInt8
  | 0, _ => []
  | width + 1, number => UInt8.ofNat (number / Nat.pow 256 width) :: bigEndian width number

/-- The number whose bytes are given, most significant first. -/
def ofBigEndian (bytes : List UInt8) : Nat :=
  bytes.foldl (fun total byte => 256 * total + byte.toNat) 0

/-- The small hexadecimal digit of a number below sixteen. -/
def hexDigit (number : Nat) : Char :=
  if number < 10 then Char.ofNat (48 + number) else Char.ofNat (87 + number)

/-- The value of a hexadecimal digit of either case. -/
def hexValue? (character : Char) : Option Nat :=
  let code := character.toNat
  if 48 ≤ code ∧ code ≤ 57 then some (code - 48)
  else if 65 ≤ code ∧ code ≤ 70 then some (code - 55)
  else if 97 ≤ code ∧ code ≤ 102 then some (code - 87)
  else none

/-- Bytes as hexadecimal digits, two for each. -/
def toHex (bytes : List UInt8) : String :=
  String.ofList (bytes.flatMap fun byte =>
    [hexDigit (byte.toNat / 16), hexDigit (byte.toNat % 16)])

/-- The bytes that pairs of hexadecimal digits denote. -/
def hexBytes? : List Char → Option (List UInt8)
  | [] => some []
  | [_] => none
  | high :: low :: rest => do
      let byte := UInt8.ofNat (16 * (← hexValue? high) + (← hexValue? low))
      return byte :: (← hexBytes? rest)

end EntityStore.Text
