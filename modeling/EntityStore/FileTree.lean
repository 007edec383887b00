import EntityStore.Fault
import EntityStore.KeyMap
import EntityStore.Text.Bytes

/-!
# File trees

The files and directories that the store can see are a finite tree without links.
A node is found by walking the parts of its path from the root, or from the working
directory: `.` stays, `..` goes up, and every part but the last has to be a
directory.  The operations fail as a file system fails, with one of the causes of
`FileFault`.  A failed operation changes nothing, except that `makeDirectories`
leaves the directories that it made before it failed.

Paths are texts.  `joinPath` puts two of them together without looking at the tree.
Among the paths to a node one is distinguished, its place: the names that lead to it
from the root, each behind a slash, so that the place of the root is the empty text.
A tree is the map from places to what is there.
-/

set_option autoImplicit false

namespace EntityStore

/-! ## Paths -/

/-- A path inside a directory.  An absolute path stands for itself. -/
def joinPath (directory name : String) : String :=
  if name.startsWith "/" then name
  else if directory.isEmpty || directory.endsWith "/" then directory ++ name
  else directory ++ "/" ++ name

/-- A path that is given from its end, without the slashes and the parts `.` at its end.  A slash
that is the whole path stays. -/
def trimReversed : List Char → List Char
  | '/' :: rest => if rest.isEmpty then ['/'] else trimReversed rest
  | '.' :: '/' :: rest => if rest.isEmpty then ['/'] else trimReversed rest
  | path => path

/-- A path without the slashes and the parts `.` at its end, which denotes the same directory. -/
def trimPath (path : String) : String :=
  String.ofList (trimReversed path.toList.reverse).reverse

/-- The parts of a path between its slashes. -/
def pathParts (path : String) : List String :=
  ((path.toList.splitOn '/').map String.ofList).filter (· ≠ "")

/-- The bound of the length of a path in bytes. -/
def pathBound : Nat := 4096

/-- The length in bytes of the longest name of a file or directory. -/
def longestName : Nat := 255

/-- Refuses a text that is no path, whatever the tree. -/
def checkPath (path : String) : Except FileFault Unit :=
  if path.contains '\x00' then .error .nulInName
  else if pathBound ≤ path.utf8ByteSize then .error .nameTooLong
  else .ok ()

/-- The place of a name in the directory at a place. -/
def placeInside (place name : String) : String := place ++ "/" ++ name

/-- The place of the directory that holds what is at a place.  The root is above itself. -/
def placeAbove (place : String) : String :=
  String.ofList ((place.toList.reverse.dropWhile (· ≠ '/')).drop 1).reverse

/-- The name of what is at a place in the directory that holds it. -/
def placeName (place : String) : String :=
  String.ofList (place.toList.reverse.takeWhile (· ≠ '/')).reverse

/-! ## Trees -/

/-- What is at one place of a tree. -/
inductive FileNode where
  | file (bytes : List UInt8)
  | directory
  deriving DecidableEq, Repr

/-- Files and directories by their places, and the place of the working directory. -/
structure FileTree where
  nodes : KeyMap FileNode
  workingDirectory : String := ""
  deriving DecidableEq

namespace FileTree

/-- The tree that has a root and nothing else. -/
def empty : FileTree := { nodes := .empty }

instance : Inhabited FileTree := ⟨empty⟩

/-- What is at a place.  The root is a directory. -/
def node? (tree : FileTree) (place : String) : Option FileNode :=
  if place.isEmpty then some .directory else tree.nodes.get? place

/-- The tree with a node at a place. -/
def put (tree : FileTree) (place : String) (node : FileNode) : FileTree :=
  { tree with nodes := tree.nodes.insert place node }

/-- The tree with a working directory, given by the names that lead to it from the root. -/
def workingIn (tree : FileTree) (path : String) : FileTree :=
  { tree with workingDirectory := (pathParts path).foldl placeInside "" }

/-! ## Walking -/

/-- One part further from a place that is a directory. -/
def step (tree : FileTree) (place part : String) : Except FileFault String :=
  match tree.node? place with
  | some .directory =>
      if part = "." then .ok place
      else if part = ".." then .ok (placeAbove place)
      else if longestName < part.utf8ByteSize then .error .nameTooLong
      else if (tree.node? (placeInside place part)).isSome then .ok (placeInside place part)
      else .error .noEntry
  | some (.file _) => .error .notDirectory
  | none => .error .noEntry

/-- The place that a list of parts leads to from another place. -/
def walk (tree : FileTree) (place : String) (parts : List String) : Except FileFault String :=
  parts.foldlM tree.step place

/-- Where the parts of a path start to be walked. -/
def start (tree : FileTree) (path : String) : String :=
  if path.startsWith "/" then "" else tree.workingDirectory

/-- The place that a path denotes.  A path that ends in a slash can only denote a directory, as if
it ended in the part `.`. -/
def locate (tree : FileTree) (path : String) : Except FileFault String := do
  checkPath path
  if path.isEmpty then .error .noEntry
  else
    let parts := pathParts path
    tree.walk (tree.start path) (if path.endsWith "/" then parts ++ ["."] else parts)

/-- What a path denotes. -/
def lookup (tree : FileTree) (path : String) : Except FileFault FileNode := do
  match tree.node? (← tree.locate path) with
  | some node => .ok node
  | none => .error .noEntry

/-- Whether a path denotes anything. -/
def exists? (tree : FileTree) (path : String) : Bool := (tree.lookup path).toOption.isSome

/-- Whether a file with a new name of some length in bytes can be made in a directory. -/
def admitsFile (tree : FileTree) (directory : String) (nameLength : Nat) : Bool :=
  let within := joinPath (trimPath directory) "."
  within.utf8ByteSize + nameLength ≤ pathBound && nameLength ≤ longestName && tree.exists? within

/-! ## Directories -/

/-- Makes the directories that are missing along parts that lead on from a directory.

As long as the way is only followed, a file on it is no directory; once a directory has been made,
a file is in the way of the next one.  The part `.` at the end demands that what is before it is
there already, so the last name before it is never made. -/
def makeAlong (tree : FileTree) (place : String) (made : Bool) :
    List String → Except FileFault Unit × FileTree
  | [] => (.ok (), tree)
  | part :: rest =>
      if part = "." then makeAlong tree place made rest
      else if part = ".." then makeAlong tree (placeAbove place) made rest
      else if longestName < part.utf8ByteSize then (.error .nameTooLong, tree)
      else
        let next := placeInside place part
        let isDemanded := !rest.isEmpty && rest.all (· = ".")
        match tree.node? next with
        | some .directory => makeAlong tree next made rest
        | some (.file _) =>
            let isInTheWay := rest.isEmpty || made && !isDemanded
            (.error (if isInTheWay then .alreadyThere else .notDirectory), tree)
        | none =>
            if isDemanded then (.error .noEntry, tree)
            else makeAlong (tree.put next .directory) next true rest

/-- Makes a directory and those on the way to it that are missing.  What was made stays, also when
one of them cannot be made. -/
def makeDirectories (tree : FileTree) (path : String) : Except FileFault Unit × FileTree :=
  match checkPath path with
  | .error fault => (.error fault, tree)
  | .ok () => tree.makeAlong (tree.start path) false (pathParts path)

/-! ## Files -/

/-- The bytes of a file. -/
def readFile (tree : FileTree) (path : String) : Except FileFault (List UInt8) := do
  match ← tree.lookup path with
  | .file bytes => .ok bytes
  | .directory => .error .isDirectory

/-- Writes a file in a directory that is there. -/
def writeFile (tree : FileTree) (path : String) (bytes : List UInt8) :
    Except FileFault FileTree := do
  checkPath path
  if path.isEmpty then .error .noEntry
  else
    let parts := pathParts path
    match parts.getLast? with
    | none => .error .isDirectory
    | some last =>
        let parent ← tree.walk (tree.start path) parts.dropLast
        match tree.node? parent with
        | some .directory =>
            if last = "." || last = ".." || path.endsWith "/" then .error .isDirectory
            else if longestName < last.utf8ByteSize then .error .nameTooLong
            else if tree.node? (placeInside parent last) = some .directory then
              .error .isDirectory
            else .ok (tree.put (placeInside parent last) (.file bytes))
        | some (.file _) => .error .notDirectory
        | none => .error .noEntry

/-- Writes a file, and makes the directories on the way to it that are missing. -/
def addFile (tree : FileTree) (path : String) (bytes : List UInt8) : Except FileFault FileTree :=
  match tree.makeDirectories ("/".intercalate (path.splitOn "/").dropLast) with
  | (.error fault, _) => .error fault
  | (.ok (), tree) => tree.writeFile path bytes

/-- Removes a file. -/
def removeFile (tree : FileTree) (path : String) : Except FileFault FileTree := do
  let place ← tree.locate path
  match tree.node? place with
  | some (.file _) => .ok { tree with nodes := tree.nodes.erase place }
  | some .directory => .error .isDirectory
  | none => .error .noEntry

/-- Removes a directory and all that is in it. -/
def removeDirectory (tree : FileTree) (path : String) : Except FileFault FileTree := do
  let place ← tree.locate path
  match tree.node? place with
  | some .directory =>
      let isOutside (other : String) : Bool :=
        other ≠ place && !other.startsWith (placeInside place "")
      .ok { tree with nodes := tree.nodes.filterKeys isOutside }
  | some (.file _) => .error .notDirectory
  | none => .error .noEntry

/-- The names in a directory, in order. -/
def list (tree : FileTree) (path : String) : Except FileFault (List String) := do
  let place ← tree.locate path
  match tree.node? place with
  | some .directory =>
      .ok ((tree.nodes.keys.filter fun other => placeAbove other = place).map placeName)
  | some (.file _) => .error .notDirectory
  | none => .error .noEntry

end FileTree

end EntityStore
