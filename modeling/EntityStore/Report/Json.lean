import EntityStore.Text.Bytes

/-!
# JSON for readers

Results as JSON, laid out over several lines: every element and every field on a
line of its own, two spaces further in than what holds it, and fields in the order
in which they are given.
-/

set_option autoImplicit false

namespace EntityStore

/-- A result in the form of JSON. -/
inductive JsonResult where
  | null
  | number (value : Int)
  | text (content : String)
  | list (items : List JsonResult)
  | record (fields : List (String × JsonResult))

namespace JsonResult

/-- A character inside a quoted text. -/
def quotedChar (character : Char) : List Char :=
  match character with
  | '"' => ['\\', '"']
  | '\\' => ['\\', '\\']
  | '\n' => ['\\', 'n']
  | '\r' => ['\\', 'r']
  | '\t' => ['\\', 't']
  | '\x08' => ['\\', 'b']
  | '\x0c' => ['\\', 'f']
  | other =>
      if other.toNat < 32 then
        ['\\', 'u', '0', '0', Text.hexDigit (other.toNat / 16), Text.hexDigit (other.toNat % 16)]
      else [other]

/-- A quoted text. -/
def quoted (content : String) : String :=
  String.ofList ('"' :: content.toList.flatMap quotedChar ++ ['"'])

/-- The beginning of a line so far in. -/
def indentation (depth : Nat) : String := String.ofList ('\n' :: List.replicate (2 * depth) ' ')

/-- A text that may be missing. -/
def ofText? : Option String → JsonResult
  | none => .null
  | some content => .text content

mutual
/-- The text of a result that stands so far in. -/
def layOut (depth : Nat) : JsonResult → String
  | .null => "null"
  | .number value => toString value
  | .text content => quoted content
  | .list [] => "[]"
  | .list (item :: items) =>
      "[" ++ layOutItems (depth + 1) (item :: items) ++ indentation depth ++ "]"
  | .record [] => "\x7b\x7d"
  | .record (field :: fields) =>
      "\x7b" ++ layOutFields (depth + 1) (field :: fields) ++ indentation depth ++ "\x7d"

/-- The elements of a list, each on a line of its own. -/
def layOutItems (depth : Nat) : List JsonResult → String
  | [] => ""
  | [item] => indentation depth ++ layOut depth item
  | item :: items => indentation depth ++ layOut depth item ++ "," ++ layOutItems depth items

/-- The fields of a record, each on a line of its own. -/
def layOutFields (depth : Nat) : List (String × JsonResult) → String
  | [] => ""
  | [(name, value)] => indentation depth ++ quoted name ++ ": " ++ layOut depth value
  | (name, value) :: fields =>
      indentation depth ++ quoted name ++ ": " ++ layOut depth value ++ "," ++
        layOutFields depth fields
end

/-- The text of a result. -/
def pretty (result : JsonResult) : String := result.layOut 0

end JsonResult

end EntityStore
