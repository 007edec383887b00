import EntityStore.MessagePack

/-!
# Records and variants in MessagePack

How a datum stands for a value of a richer type.  A record is the array of its
fields in order; read back, it may also be a map from the names or the places of
its fields, in which names and places that the record does not have are passed
over.  A variant without content is its name; one with content is a map of one
entry.  A place is a number without a sign.
-/

set_option autoImplicit false

namespace EntityStore

namespace Datum

/-! ## Simple values -/

/-- The text of a datum.  Binary data that are UTF-8 count as a text. -/
def text? : Datum → Option String
  | .text content => some content
  | .binary bytes => Text.ofBytes? bytes
  | _ => none

/-- The text of a datum that is written as a text. -/
def plainText? : Datum → Option String
  | .text content => some content
  | _ => none

/-- The truth of a datum. -/
def boolean? : Datum → Option Bool
  | .boolean truth => some truth
  | _ => none

/-- The integer of a datum, with or without a sign. -/
def integer? : Datum → Option Int
  | .integer number => some number
  | .signed number => some number
  | _ => none

/-- The number of a datum, not negative and below a bound. -/
def natural? (bound : Nat) (datum : Datum) : Option Nat := do
  let number ← datum.integer?
  if 0 ≤ number ∧ number < bound then some number.toNat else none

/-- The integer of a datum, when sixty-four bits hold it. -/
def int64? (datum : Datum) : Option Int64 := do
  let number ← datum.integer?
  if -0x8000000000000000 ≤ number ∧ number < 0x8000000000000000 then
    some (Int64.ofInt number)
  else none

/-- The floating point number of a datum, rounded from an integer. -/
def float? : Datum → Option Binary64
  | .float number => some number
  | datum => datum.integer?.map Binary64.ofInt

/-- A value that may be missing: nil is the missing one. -/
def optional? {α : Type} (decode : Datum → Option α) : Datum → Option (Option α)
  | .nil => some none
  | datum => (decode datum).map some

/-- The items of a list.  Empty binary data are the empty list, too. -/
def items? : Datum → Option (List Datum)
  | .array items => some items
  | .binary [] => some []
  | _ => none

/-- The entries of a map. -/
def map? : Datum → Option (List (Datum × Datum))
  | .map entries => some entries
  | _ => none

/-! ## Records -/

/-- The place among some names that a datum names, or one past their end for a name that is none
of them, even if its bytes are no text.  Of numbers only those without a sign name a place. -/
def place? (names : List String) : Datum → Option Nat
  | .integer number => if 0 ≤ number then some number.toNat else none
  | .text name => some (names.idxOf name)
  | .binary bytes => some ((Text.ofBytes? bytes).elim names.length names.idxOf)
  | _ => none

/-- Puts each entry of a map at the place it names.  No place may be named twice. -/
def placeEntries (names : List String) (fields : List (Option Datum)) :
    List (Datum × Datum) → Option (List (Option Datum))
  | [] => some fields
  | (key, value) :: rest => do
      let place ← place? names key
      match fields[place]? with
      | some (some _) => none
      | some none => placeEntries names (fields.set place (some value)) rest
      | none => placeEntries names fields rest

/-- The fields of a record with given names; a map may leave some out. -/
def fields? (names : List String) : Datum → Option (List (Option Datum))
  | .array items => if items.length = names.length then some (items.map some) else none
  | .map entries => placeEntries names (names.map fun _ => none) entries
  | _ => none

/-- A field that has to be there. -/
def required? {α : Type} (decode : Datum → Option α) (field : Option Datum) : Option α :=
  field.bind decode

/-- A field that may be left out, or be nil. -/
def omissible? {α : Type} (decode : Datum → Option α) : Option Datum → Option (Option α)
  | none => some none
  | some datum => optional? decode datum

/-! ## Variants -/

/-- A variant without content. -/
def unitVariant (name : String) : Datum := .text name

/-- A variant with content. -/
def variant (name : String) (content : Datum) : Datum := .map [(.text name, content)]

/-- The place of a variant among the names of all variants. -/
def variantPlace? (names : List String) (datum : Datum) : Option Nat := do
  let place ← place? names datum
  if place < names.length then some place else none

/-- The place of a variant and its content, if it has one. -/
def variant? (names : List String) : Datum → Option (Nat × Option Datum)
  | .map [(key, content)] => (variantPlace? names key).map fun place => (place, some content)
  | .map _ => none
  | datum => (variantPlace? names datum).map fun place => (place, none)

end Datum

end EntityStore
