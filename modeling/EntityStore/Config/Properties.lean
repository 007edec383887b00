import EntityStore.FileTree
import EntityStore.KeyMap
import EntityStore.Text.Alphanumeric
import EntityStore.Text.Blank

/-!
# Properties

Properties are texts under names, read from a file of lines `name=value`.  A line
may go on over several lines of the file: quotes that are open and a backslash at
the end carry it on, and a `#` behind a blank ends it.

A value may hold parts in single quotes, which are taken as they stand, parts in
double quotes, backslashes before special characters, and the values of earlier
names as `$name` or with braces.  Outside of quotes a blank ends the value, and only
a comment may follow.

The file is read from top to bottom and the first fault ends it.  Of several values
of one name the last counts.
-/

set_option autoImplicit false

namespace EntityStore

/-! ## Logical lines -/

/-- How a line of the file ends as far as it was scanned. -/
inductive ScanState where
  | complete
  | blank
  | escaped
  | doubleQuoted
  | doubleQuotedEscaped
  | singleQuoted
  | singleQuotedEscaped
  deriving DecidableEq, Repr

namespace ScanState

/-- What a character means outside of quotes. -/
def opened : Char → Option ScanState
  | '\\' => some .escaped
  | '"' => some .doubleQuoted
  | '\'' => some .singleQuoted
  | _ => none

/-- The state after one more character. -/
def next (state : ScanState) (character : Char) : ScanState :=
  match state with
  | .complete =>
      if Text.isBlank character && character ≠ '\n' && character ≠ '\r' then .blank
      else (opened character).getD .complete
  | .blank => (opened character).getD .complete
  | .escaped => .complete
  | .doubleQuoted =>
      if character = '\\' then .doubleQuotedEscaped
      else if character = '"' then .complete
      else .doubleQuoted
  | .doubleQuotedEscaped => .doubleQuoted
  | .singleQuoted =>
      if character = '\\' then .singleQuotedEscaped
      else if character = '\'' then .complete
      else .singleQuoted
  | .singleQuotedEscaped => .singleQuoted

end ScanState

/-- What scanning one line of the file found: its characters, up to the comment that ends it if
there is one, and the state at its end. -/
structure Scanned where
  text : List Char
  ending : Option ScanState

/-- Scans one line of the file. -/
def scanLine (state : ScanState) : List Char → Scanned
  | [] => ⟨[], some state⟩
  | character :: rest =>
      if state = .blank && character = '#' then ⟨[], none⟩
      else
        let scanned := scanLine (state.next character) rest
        ⟨character :: scanned.text, scanned.ending⟩

/-- A text without one line break at its end. -/
def withoutLineBreak (text : List Char) : List Char :=
  match text.reverse with
  | '\n' :: '\r' :: rest => rest.reverse
  | '\n' :: rest => rest.reverse
  | _ => text

/-! ## Values -/

/-- Where in a value its reader is. -/
inductive ValueState where
  | plain
  | doubleQuoted
  | singleQuoted
  | escaped (quoted : Bool)
  | named (quoted : Bool) (name : List Char)
  | braced (quoted : Bool) (name : List Char)
  | ended
  | comment
  deriving DecidableEq, Repr

namespace ValueState

/-- The state outside or inside of double quotes. -/
def within (quoted : Bool) : ValueState := if quoted then .doubleQuoted else .plain

/-- The state after one more character and what is put out, or `none` when the character may not
stand there.  `earlier` gives the values of earlier names. -/
def next (earlier : String → String) (state : ValueState) (character : Char) :
    Option (ValueState × List Char) :=
  match state with
  | .comment => some (.comment, [])
  | .ended =>
      if character = ' ' || character = '\t' then some (.ended, [])
      else if character = '#' then some (.comment, [])
      else none
  | .escaped quoted =>
      if character = 'n' then some (within quoted, ['\n'])
      else if ['\\', '\'', '"', '$', ' '].contains character then
        some (within quoted, [character])
      else none
  | .singleQuoted =>
      if character = '\'' then some (.plain, []) else some (.singleQuoted, [character])
  | .named quoted name =>
      if Text.isAlphanumeric character then some (.named quoted (name ++ [character]), [])
      else if character = '\x7b' && name.isEmpty then some (.braced quoted [], [])
      else
        let value := (earlier (String.ofList name)).toList
        if character = '$' then some (.named quoted [], value)
        else some (within quoted, value ++ [character])
  | .braced quoted name =>
      if character = '\x7d' then some (within quoted, (earlier (String.ofList name)).toList)
      else some (.braced quoted (name ++ [character]), [])
  | .doubleQuoted =>
      if character = '$' then some (.named true [], [])
      else if character = '"' then some (.plain, [])
      else if character = '\\' then some (.escaped true, [])
      else some (.doubleQuoted, [character])
  | .plain =>
      if character = '$' then some (.named false [], [])
      else if character = '\'' then some (.singleQuoted, [])
      else if character = '"' then some (.doubleQuoted, [])
      else if character = '\\' then some (.escaped false, [])
      else if character = ' ' || character = '\t' then some (.ended, [])
      else some (.plain, [character])

/-- What is put out at the end of a value, or `none` when it may not end there. -/
def finish (earlier : String → String) : ValueState → Option (List Char)
  | .singleQuoted | .doubleQuoted | .braced _ _ => none
  | .escaped true | .named true _ => none
  | .named false name => some (earlier (String.ofList name)).toList
  | .plain | .ended | .comment | .escaped false => some []

end ValueState

/-- Reads a value from a state on, where `place` characters of it have been read.  The place of
the fault is the character that may not stand there, or the last byte. -/
def readValue (earlier : String → String) (bytes place : Nat) (state : ValueState) :
    List Char → Except Nat (List Char)
  | [] =>
      match state.finish earlier with
      | some output => .ok output
      | none => .error (bytes - 1)
  | character :: rest =>
      match state.next earlier character with
      | none => .error place
      | some (state, output) => do
          return output ++ (← readValue earlier bytes (place + 1) state rest)

/-! ## Lines -/

/-- The number of bytes of a text. -/
def byteCount (text : List Char) : Nat := (String.ofList text).utf8ByteSize

/-- Whether a character may start a name. -/
def startsName (character : Char) : Bool := character.isAlpha || character = '_'

/-- Whether a character may go on in a name. -/
def continuesName (character : Char) : Bool :=
  character.isAlphanum || character = '_' || character = '.'

/-- A line as far as it is read: what is left of it, and how many bytes were read. -/
structure LineCursor where
  rest : List Char
  position : Nat

namespace LineCursor

/-- The cursor behind a part of what is left. -/
def advance (cursor : LineCursor) (part : List Char) : LineCursor :=
  ⟨cursor.rest.drop part.length, cursor.position + byteCount part⟩

/-- The cursor behind the blanks that come next. -/
def skipBlanks (cursor : LineCursor) : LineCursor :=
  cursor.advance (cursor.rest.takeWhile Text.isBlank)

/-- The name that comes next, or the position where there is none. -/
def readName (cursor : LineCursor) : Except Nat (String × LineCursor) :=
  match cursor.rest with
  | first :: _ =>
      if startsName first then
        let name := cursor.rest.takeWhile continuesName
        .ok (String.ofList name, cursor.advance name)
      else .error cursor.position
  | [] => .error cursor.position

/-- The cursor behind an equals sign, or the position where there is none. -/
def readEquals (cursor : LineCursor) : Except Nat LineCursor :=
  if cursor.rest.head? = some '=' then .ok (cursor.advance ['=']) else .error cursor.position

/-- The name of a line and the cursor behind its equals sign.  The word `export` may come before
the name. -/
def readAssignment (cursor : LineCursor) : Except Nat (String × LineCursor) := do
  let (name, cursor) ← cursor.readName
  let cursor := cursor.skipBlanks
  match cursor.readEquals with
  | .ok behind => return (name, behind)
  | .error position =>
      if name = "export" then
        let (name, cursor) ← cursor.readName
        return (name, ← cursor.skipBlanks.readEquals)
      else .error position

/-- Whether nothing but a comment is left. -/
def isDone (cursor : LineCursor) : Bool :=
  cursor.rest.isEmpty || cursor.rest.head? = some '#'

end LineCursor

/-- Reads one logical line: a name and a value, or nothing. -/
def readLine (earlier : String → String) (line : List Char) :
    Except PropertiesFault (Option (String × String)) :=
  let cursor := LineCursor.skipBlanks ⟨Text.trimEnd line, 0⟩
  if cursor.isDone then .ok none
  else
    match cursor.readAssignment with
    | .error position => .error (.line (String.ofList line) position)
    | .ok (name, cursor) =>
        let cursor := cursor.skipBlanks
        if cursor.isDone then .ok (some (name, ""))
        else
          match readValue earlier (byteCount cursor.rest) 0 .plain cursor.rest with
          | .ok value => .ok (some (name, String.ofList value))
          | .error place => .error (.line (String.ofList cursor.rest) place)

/-! ## Files -/

/-- Texts under names. -/
structure Properties where
  values : KeyMap String := .empty

namespace Properties

/-- The value of a name. -/
def get? (properties : Properties) (name : String) : Option String :=
  properties.values.get? name

/-- The value of a name within a section. -/
def section? (properties : Properties) (part name : String) : Option String :=
  properties.get? (part ++ "." ++ name)

/-- The properties with a value under a name. -/
def set (properties : Properties) (name value : String) : Properties :=
  ⟨properties.values.insert name value⟩

/-- The properties of a list of names and values. -/
def ofList (entries : List (String × String)) : Properties := ⟨.ofList entries⟩

/-- The number of names. -/
def size (properties : Properties) : Nat := properties.values.size

/-- Adds what a logical line says. -/
def addLine (properties : Properties) (line : List Char) : Except PropertiesFault Properties := do
  match ← readLine (fun name => (properties.get? name).getD "") line with
  | some (name, value) => return properties.set name value
  | none => return properties

/-- The lines of a file with their line breaks. -/
def physicalLines : List UInt8 → List (List UInt8)
  | [] => []
  | byte :: rest =>
      if byte = 10 then [byte] :: physicalLines rest
      else
        match physicalLines rest with
        | [] => [[byte]]
        | line :: lines => (byte :: line) :: lines

/-- Adds what the lines of a file say.  `pending` is the part of a logical line that earlier
lines of the file hold, and `state` how it ends. -/
def addLines (properties : Properties) (pending : List Char) (state : ScanState) :
    List (List UInt8) → Except PropertiesFault Properties
  | [] =>
      if state = .complete then .ok properties
      else .error (.line (String.ofList pending) (byteCount pending))
  | bytes :: lines =>
      match Text.ofBytes? bytes with
      | none => .error (.file .notText)
      | some content =>
          let line := pending ++ content.toList
          if (Text.trimStart line).head? = some '#' then addLines properties [] .complete lines
          else
            let scanned := scanLine state content.toList
            match scanned.ending with
            | none => do
                let properties ← properties.addLine (pending ++ scanned.text)
                addLines properties [] .complete lines
            | some .complete => do
                let properties ← properties.addLine (withoutLineBreak line)
                addLines properties [] .complete lines
            | some state => addLines properties line state lines

/-- The properties that the bytes of a file hold. -/
def ofBytes (bytes : List UInt8) : Except PropertiesFault Properties :=
  addLines {} [] .complete (physicalLines bytes)

/-- The properties in a file. -/
def load (path : String) (files : FileTree) : Except Fault Properties :=
  match files.lookup path with
  | .error fault => .error (.config (.unreadableFile path fault))
  | .ok .directory => .error (.config (.malformedFile path (.file .isDirectory)))
  | .ok (.file bytes) =>
      match ofBytes bytes with
      | .ok properties => .ok properties
      | .error fault => .error (.config (.malformedFile path fault))

end Properties

end EntityStore
