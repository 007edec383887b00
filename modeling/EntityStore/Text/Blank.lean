/-!
# Blank characters

The characters with the Unicode property White_Space, and the texts that remain
when they are taken off either end.
-/

set_option autoImplicit false

namespace EntityStore.Text

/-- Whether a character has the property White_Space. -/
def isBlank (character : Char) : Bool :=
  let code := character.toNat
  (9 ≤ code && code ≤ 13) || code == 0x20 || code == 0x85 || code == 0xA0 || code == 0x1680 ||
    (0x2000 ≤ code && code ≤ 0x200A) || code == 0x2028 || code == 0x2029 || code == 0x202F ||
    code == 0x205F || code == 0x3000

/-- A text without blanks at its start. -/
def trimStart (text : List Char) : List Char := text.dropWhile isBlank

/-- A text without blanks at its end. -/
def trimEnd (text : List Char) : List Char := (text.reverse.dropWhile isBlank).reverse

/-- A text without blanks at either end. -/
def trim (text : List Char) : List Char := trimEnd (trimStart text)

/-- The value of a decimal digit of ASCII. -/
def digit? (character : Char) : Option Nat :=
  if '0' ≤ character && character ≤ '9' then some (character.toNat - 48) else none

/-- The number that a list of decimal digits denotes; the empty list denotes none. -/
def natural? (digits : List Char) : Option Nat :=
  if digits.isEmpty then none
  else digits.foldlM (fun total character => (digit? character).map (10 * total + ·)) 0

/-- A number in decimal digits, filled up with zeros on the left. -/
def padded (width number : Nat) : String :=
  let digits := toString number
  String.ofList (List.replicate (width - digits.length) '0') ++ digits

end EntityStore.Text
