import EntityStore.CommandLine.Execution
import Std.Time.DateTime.Timestamp

/-!
# The program

The program works on a file tree that holds what it can need of the real files: the
places where the settings may be, and the snapshot of the database that they name.
When the run is over, the directory of the database and the snapshot in it are
brought to what the run left behind.
-/

set_option autoImplicit false

namespace EntityStore.Program

open CommandLine

/-- The beginnings of a path, shortest first. -/
def beginnings (path : String) : List String :=
  let parts := path.splitOn "/"
  ((List.range parts.length).map fun count => "/".intercalate (parts.take (count + 1))).filter
    fun beginning => !beginning.isEmpty

/-- Takes what is at a path into a file tree: a file with its bytes, and all else that is there as
a directory. -/
def takeIn (files : FileTree) (path : String) : IO FileTree := do
  try
    let bytes ← IO.FS.readBinFile path
    return (files.addFile path bytes.data.toList).toOption.getD files
  catch
    | .noFileOrDirectory .. => return files
    | _ => return (files.makeDirectories path).2

/-- Takes what is at a path and on the way to it into a file tree. -/
def takeInAll (files : FileTree) (path : String) : IO FileTree :=
  (beginnings path).foldlM takeIn files

/-- What an invocation can need of the real files. -/
def takeInFor (surroundings : Surroundings) (invocation : Invocation) (files : FileTree) :
    IO FileTree := do
  let files ← (invocation.locator surroundings).candidates.foldlM takeInAll files
  match invocation.databaseDirectory? surroundings files with
  | some directory => takeInAll files (Storage.snapshotFile directory)
  | none => return files

/-- Makes the directories on the way to a path that came to be between two file trees. -/
def makeNew (path : String) (before after : FileTree) : IO Unit :=
  (beginnings path).forM fun beginning => do
    if after.exists? beginning && !before.exists? beginning then IO.FS.createDirAll beginning

/-- Brings the directory of a database and the snapshot in it to what they are in a file tree. -/
def putBack (directory : String) (before after : FileTree) : IO Unit := do
  makeNew directory before after
  let path := Storage.snapshotFile directory
  match after.readFile path with
  | .ok bytes =>
      if (before.readFile path).toOption ≠ some bytes then
        let temporary := path ++ "." ++ Text.toHex (← IO.getRandomBytes 8).data.toList
        IO.FS.writeBinFile temporary ⟨bytes.toArray⟩
        IO.FS.rename temporary path
  | .error _ => return ()

/-- The time that the system shows. -/
def now : IO Timestamp := do
  let nanoseconds := (← Std.Time.Timestamp.now).toNanosecondsSinceUnixEpoch.val
  return ⟨nanoseconds / 1000000000, (nanoseconds % 1000000000).toNat⟩

/-- Random bits for keys.  A run issues one key at most, so those of later keys may follow from
those of the first. -/
def randomBits : IO (Nat → Nat) := do
  let first := Text.ofBigEndian (← IO.getRandomBytes 16).data.toList
  return fun place => first + place

/-- What the program is told by its surroundings. -/
def surroundings : IO Surroundings := do
  return {
    home := ← IO.getEnv "HOME"
    temporaryDirectory := (← IO.getEnv "TMPDIR").getD "/tmp"
    standardConfig := ← IO.getEnv "VERA_CONFIG" }

/-- Runs a command line on the real files, and answers its exit status. -/
def run (arguments : List String) : IO UInt32 := do
  let surroundings ← surroundings
  let here := (← IO.currentDir).toString
  let files ← takeInAll (FileTree.empty.workingIn here) here
  let parsed := Invocation.parse surroundings.standardConfig arguments
  let before ←
    match parsed with
    | .ok invocation => takeInFor surroundings invocation files
    | .error _ => pure files
  let (result, after) :=
    CommandLine.run surroundings (← now) (← randomBits) arguments before
  match parsed.toOption.bind (Invocation.databaseDirectory? surroundings before) with
  | some directory => putBack directory before after
  | none => pure ()
  IO.print result.output
  IO.eprint result.error
  return UInt32.ofNat result.status

end EntityStore.Program

/-- Runs the command line. -/
def main (arguments : List String) : IO UInt32 := EntityStore.Program.run arguments
